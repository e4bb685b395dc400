import MbedMqtt.Packet.Text
import MbedMqtt.Client.Turn
import MbedMqtt.Network.Script

namespace MbedMqtt

structure PublishInside (header : UInt8) (body : Bytes) (topicName : MQTTString) (payload : Bytes)
    (payloadlen : Int) : Prop where
  nonnegative : 0 ≤ payloadlen
  extent : 2 + topicName.len + idLength header + payloadlen = body.length
  topicInside : 2 + topicName.len ≤ body.length
  topic : topicName.data = some ((body.drop 2).take topicName.len)
  payload : payload = body.drop (2 + topicName.len + idLength header)

def PublishFits (header : UInt8) (body : Bytes) : Prop :=
  headerType header = PUBLISH → 2 ≤ body.length → 2 + readInt body 0 ≤ body.length →
    2 + readInt body 0 + idLength header ≤ body.length

theorem publish_inside {header : UInt8} {body tail : Bytes} {fields : PublishFields}
    (hb : body.length < 268435456) (hfit : PublishFits header body)
    (h : deserializePublish (framed header body ++ tail) = some fields) :
    PublishInside header body fields.topicName fields.payload fields.payloadlen := by
  rw [deserializePublish_framed_eq tail hb] at h
  split at h
  · rename_i hok
    have hroom := hfit hok.1 hok.2.1 hok.2.2
    rw [Option.some.injEq] at h
    rw [← h]
    exact ⟨by simp only; omega, by simp only; omega, hok.2.2, rfl, rfl⟩
  · cases h

theorem publishFits_of_inside {header : UInt8} {body : Bytes} (hb : body.length < 268435456)
    (h : ∀ tail fields, deserializePublish (framed header body ++ tail) = some fields →
      PublishInside header body fields.topicName fields.payload fields.payloadlen) :
    PublishFits header body := by
  intro ht h2 htopic
  have hparse : deserializePublish (framed header body ++ []) = _ :=
    (deserializePublish_framed_eq [] hb).trans (if_pos ⟨ht, h2, htopic⟩)
  have hpos := (h [] _ hparse).nonnegative
  simp only at hpos
  omega

def ParsedFrom (packets : List (UInt8 × Bytes)) (topicName : MQTTString) (msg : Message) : Prop :=
  ∃ header body tail fields g, (header, body) ∈ packets ∧ body.length < 268435456 ∧
    deserializePublish (framed header body ++ tail) = some fields ∧
    topicName = fields.topicName ∧ msg = fields.message g

theorem act_delivers_parsed {cfg : Config} {s t : Session} {ev : List Event}
    (h : CycleAct cfg s ev t) {topicName : MQTTString} {msg : Message} {handlers : List Nat}
    (hmem : .delivered topicName msg handlers ∈ ev) : ParsedFrom (heard ev) topicName msg := by
  cases h with
  | @publish _ header body tail fields g dev reply hb hf hd hr =>
    refine ⟨header, body, tail, fields, g, by simp, hb, hf, ?_⟩
    have hdev : .delivered topicName msg handlers ∈ dev := by
      simp only [List.mem_cons, reduceCtorEq, List.mem_append, false_or] at hmem
      rcases hmem with hmem | hmem
      · exact hmem
      · cases hr <;> simp at hmem
    cases hd with
    | plain =>
      simp only [List.mem_singleton, Event.delivered.injEq] at hdev
      exact ⟨hdev.1, hdev.2.1⟩
    | fresh =>
      simp only [List.mem_singleton, Event.delivered.injEq] at hdev
      exact ⟨hdev.1, hdev.2.1⟩
    | duplicate => simp at hdev
    | overflow => simp at hdev
  | _ => simp at hmem

theorem chain_delivers_parsed {cfg : Config} {s t : Session} {ev : List Event}
    (h : Chain (CycleAct cfg) s ev t) {topicName : MQTTString} {msg : Message}
    {handlers : List Nat} (hmem : .delivered topicName msg handlers ∈ ev) :
    ParsedFrom (heard ev) topicName msg := by
  induction h with
  | nil => simp at hmem
  | snoc _ hact ih =>
    rw [heard_append]
    rcases List.mem_append.mp hmem with hmem | hmem
    · obtain ⟨header, body, tail, fields, g, hp, hrest⟩ := ih hmem
      exact ⟨header, body, tail, fields, g, List.mem_append_left _ hp, hrest⟩
    · obtain ⟨header, body, tail, fields, g, hp, hrest⟩ := act_delivers_parsed hact hmem
      exact ⟨header, body, tail, fields, g, List.mem_append_right _ hp, hrest⟩

variable {σ τ κ : Type} [Network σ] [Timer τ κ]

theorem cycle_delivers_inside (cfg : Config) (c : Client τ) (w : World σ τ κ) (timer : τ)
    {header : UInt8} {body : Bytes}
    (hheard : heard (w.since (cycle cfg c w timer).world) = [(header, body)])
    (hfit : PublishFits header body) {topicName : MQTTString} {msg : Message} {handlers : List Nat}
    (hmem : .delivered topicName msg handlers ∈ w.since (cycle cfg c w timer).world) :
    PublishInside header body topicName msg.payload msg.payloadlen := by
  obtain ⟨ev, h⟩ := cycle_turn cfg c w timer
  rw [World.since_eq h.log] at hheard hmem
  obtain ⟨header', body', tail, fields, g, hp, hb, hf, rfl, rfl⟩ :=
    chain_delivers_parsed h.act.chain hmem
  rw [hheard, List.mem_singleton, Prod.mk.injEq] at hp
  obtain ⟨rfl, rfl⟩ := hp
  exact publish_inside hb hfit hf

theorem publish_parse_safe_iff {header : UInt8} {body : Bytes} (hb : body.length < 268435456) :
    ((∀ tail fields, deserializePublish (framed header body ++ tail) = some fields →
        PublishInside header body fields.topicName fields.payload fields.payloadlen) ∧
      ∀ (cfg : Config) (c : Client τ) (w : World σ τ κ) (timer : τ),
        heard (w.since (cycle cfg c w timer).world) = [(header, body)] →
        ∀ topicName msg handlers,
          .delivered topicName msg handlers ∈ w.since (cycle cfg c w timer).world →
          PublishInside header body topicName msg.payload msg.payloadlen) ↔
      PublishFits header body := by
  constructor
  · intro h
    exact publishFits_of_inside hb h.1
  · intro hfit
    refine ⟨fun tail fields h => publish_inside hb hfit h, ?_⟩
    intro cfg c w timer hheard topicName msg handlers hmem
    exact cycle_delivers_inside cfg c w timer hheard hfit hmem

theorem publish_parse_safe_qos1 :
    PublishInside 50 [0, 1, 116, 0, 7, 1] ⟨none, 1, some [116]⟩ [1] 1 :=
  ((@publish_parse_safe_iff Script OracleTimer Bool _ _ _ _ (by decide)).mpr
    (by decide : headerType 50 = PUBLISH → 2 ≤ [0, 1, 116, 0, 7, (1 : UInt8)].length →
      2 + readInt [0, 1, 116, 0, 7, 1] 0 ≤ [0, 1, 116, 0, 7, (1 : UInt8)].length →
      2 + readInt [0, 1, 116, 0, 7, 1] 0 + idLength 50 ≤
        [0, 1, 116, 0, 7, (1 : UInt8)].length)).1 []
    ⟨0, 1, 0, some 7, ⟨none, 1, some [116]⟩, [1], 1⟩ (by decide)

theorem publish_parse_wraps :
    (∃ fields, deserializePublish (framed 50 [0, 1, 116] ++ []) = some fields ∧
      fields.payloadlen = -2) ∧
    .delivered ⟨none, 1, some [116]⟩ ⟨.QOS1, 0, 0, 0, [], -2⟩ [] ∈
      (cycle (Config.standard .qos1)
        { Client.construct (Config.standard .qos1) 30000 OracleTimer.oracle with isconnected := true }
        (World.calm [50, 3, 0, 1, 116] 10) .oracle).world.log := by
  refine ⟨⟨_, rfl, rfl⟩, ?_⟩
  decide

end MbedMqtt
