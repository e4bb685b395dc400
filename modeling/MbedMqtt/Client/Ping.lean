import MbedMqtt.Library.Stretch
import MbedMqtt.Client.Run

namespace MbedMqtt

def isPingreq : Event → Bool
  | .sent packet => packetType packet = PINGREQ
  | .unsent packet => packetType packet = PINGREQ
  | _ => false

def PingAnswered (r : List Event) : Prop :=
  ∃ header body, r = [.received header body] ∧ headerType header = PINGRESP

theorem packetType_pingreqPacket : packetType pingreqPacket = PINGREQ := by
  rw [packetType_cons, headerType_headerByte]
  decide

theorem isPingreq_ackPacket {packettype : Nat} (id : Nat) (h : packettype < 16)
    (hne : packettype ≠ PINGREQ) :
    isPingreq (.sent (ackPacket packettype id)) = false ∧
      isPingreq (.unsent (ackPacket packettype id)) = false := by
  simp [isPingreq, packetType_ackPacket id h, hne]

theorem Delivers.no_pingreq {cfg : Config} {s s' : Session} {topicName : MQTTString}
    {msg : Message} {dev : List Event} (h : Delivers cfg s topicName msg dev s') :
    ∀ e ∈ dev, isPingreq e = false := by
  cases h <;> simp [isPingreq]

theorem Replies.no_pingreq {msg : Message} {reply : List Event} (h : Replies msg reply) :
    ∀ e ∈ reply, isPingreq e = false := by
  cases h <;> simp (disch := decide) [isPingreq_ackPacket]

theorem CycleAct.no_pingreq {cfg : Config} {s t : Session} {header : UInt8} {body : Bytes}
    {ev : List Event} (h : CycleAct cfg s (.received header body :: ev) t) :
    ∀ e ∈ ev, isPingreq e = false := by
  cases h with
  | heard => simp
  | publish _ _ hd hr =>
    intro e he
    rcases List.mem_append.mp he with he | he
    · exact hd.no_pingreq e he
    · exact hr.no_pingreq e he
  | pubrec => simp (disch := decide) [isPingreq_ackPacket]
  | unanswered id _ ht => rcases ht with rfl | rfl <;> simp (disch := decide) [isPingreq_ackPacket]
  | release => simp (disch := decide) [isPingreq_ackPacket]

variable {σ τ κ : Type} [Network σ] [Timer τ κ]

theorem readPacket_pingOutstanding (cfg : Config) (c : Client τ) (w : World σ τ κ) :
    (readPacket cfg c w).client.pingOutstanding = c.pingOutstanding := by
  obtain ⟨buf, t, h⟩ := readPacket_frame cfg c w
  rw [h]

theorem sendPacket_pingOutstanding (c : Client τ) (w : World σ τ κ) (length : Nat) (timer : τ) :
    (sendPacket c w length timer).client.pingOutstanding = c.pingOutstanding := by
  obtain ⟨t, h, -⟩ := sendPacket_cases c w length timer
  rw [h]

omit [Network σ] [Timer τ κ] in
theorem cycleDeliver_pingOutstanding (cfg : Config) (c : Client τ) (w : World σ τ κ)
    (topicName : MQTTString) (msg : Message) :
    (cycleDeliver cfg c w topicName msg).client.pingOutstanding = c.pingOutstanding := by
  obtain ⟨table, h⟩ := cycleDeliver_client cfg c w topicName msg
  rw [h]

theorem cyclePublish_pingOutstanding {cfg : Config} (hq : cfg.qos1 = true) (c : Client τ)
    (w : World σ τ κ) (timer : τ) :
    (cyclePublish cfg c w timer).client.pingOutstanding = c.pingOutstanding := by
  unfold cyclePublish
  cases deserializePublish c.readbuf with
  | none => rfl
  | some fields =>
    have hd := cycleDeliver_pingOutstanding cfg c w.pop fields.topicName
      (fields.message w.uninitialised)
    simp only [hq, if_true]
    split
    · split
      · exact hd
      · exact (sendPacket_pingOutstanding _ _ _ timer).trans hd
    · exact hd

theorem cycleAck_pingOutstanding (cfg : Config) (packetType : Int) (c : Client τ) (w : World σ τ κ)
    (timer : τ) :
    (cycleAck cfg packetType c w timer).client.pingOutstanding = c.pingOutstanding := by
  have hsend (packet : Bytes) (len : Nat) :
      (sendPacket (c.fillSendbuf packet) w.pop len timer).client.pingOutstanding =
        c.pingOutstanding :=
    sendPacket_pingOutstanding (c.fillSendbuf packet) w.pop len timer
  unfold cycleAck
  simp only
  split
  · rfl
  · generalize serializeAck cfg.maxPacketSize _ 0 _ = reply
    split
    · rfl
    · split
      · exact hsend _ _
      · split <;> exact hsend _ _

theorem cycleSwitch_pingOutstanding {cfg : Config} (hq : cfg.qos1 = true) (packetType : Int)
    (c : Client τ) (w : World σ τ κ) (timer : τ) :
    (cycleSwitch cfg packetType c w timer).client.pingOutstanding =
      (c.pingOutstanding && packetType ≠ PINGRESP) := by
  unfold cycleSwitch
  split
  · rename_i h
    rcases h with rfl | rfl | rfl | rfl | rfl <;> simp
  split
  · rename_i h
    simp [cyclePublish_pingOutstanding hq, h]
  split
  · rename_i h
    rcases h.2 with h | h <;> simp [cycleAck_pingOutstanding, h]
  split
  · rename_i h
    simp [h.2]
  split
  · rename_i h
    simp [h]
  · rename_i h
    simp only [ne_eq, h, not_false_eq_true, decide_true, Bool.and_true]

def cycleCheck (cfg : Config) (c : Client τ) (w : World σ τ κ) (timer : τ) : Branch σ τ κ :=
  let p := readPacket cfg c w
  cycleSwitch cfg p.rc p.client p.world timer

theorem cycle_eq (cfg : Config) (c : Client τ) (w : World σ τ κ) (timer : τ) :
    cycle cfg c w timer =
      cycleExit cfg (readPacket cfg c w).rc (cycleKeepalive cfg (cycleCheck cfg c w timer)) := rfl

inductive KeepaliveResult (c : Client τ) (w : World σ τ κ) (k : Outcome σ τ κ) : Prop
  | waiting (ho : c.pingOutstanding = true) (hexp : w.expired w.pingSent = false)
      (hk : k = ⟨SUCCESS, c, w.tick⟩)
  | overdue (ho : c.pingOutstanding = true) (hexp : w.expired w.pingSent = true)
      (hk : k = ⟨FAILURE, c, w.tick⟩)
  | recent (ho : c.pingOutstanding = false) (hs : w.expired c.lastSent = false)
      (hr : w.tick.expired c.lastReceived = false) (hk : k = ⟨SUCCESS, c, w.tick.tick⟩)
  | pinged (ho : c.pingOutstanding = false) (hrc : k.rc = SUCCESS)
      (hs : k.client.toSession = c.toSession) (hp : k.client.pingOutstanding = true)
      (hlog : k.world.log = w.log ++ [.sent pingreqPacket])
  | unpinged (ho : c.pingOutstanding = false) (hrc : k.rc = FAILURE)
      (hs : k.client.toSession = c.toSession)
      (hlog : k.world.log = w.log ++ [.unsent pingreqPacket])

theorem keepalive_result {cfg : Config} (hsize : 2 ≤ cfg.maxPacketSize) {c : Client τ}
    (hka : 0 < c.keepAliveInterval) (w : World σ τ κ) :
    KeepaliveResult c w (keepalive cfg c w) := by
  have hping (ho : c.pingOutstanding = false) {v : World σ τ κ} (hv : v.log = w.log) :
      KeepaliveResult c w (sendPing cfg c v) := by
    rcases sendPing_cases cfg c v with
      ⟨hsmall, -⟩ | ⟨-, t, ⟨hrc, hcl, hlog⟩ | ⟨hrc, hcl, hlog⟩⟩
    · omega
    · exact .pinged ho hrc (by rw [hcl]; rfl) (by rw [hcl]) (by rw [hlog, hv])
    · exact .unpinged ho hrc (by rw [hcl]; rfl) (by rw [hlog, hv])
  simp only [keepalive, Nat.ne_of_gt hka, if_false]
  cases ho : c.pingOutstanding with
  | true =>
    cases hexp : w.expired w.pingSent with
    | true => exact .overdue ho hexp rfl
    | false => exact .waiting ho hexp rfl
  | false =>
    simp only [Bool.false_eq_true, if_false]
    cases hs : w.expired c.lastSent with
    | true => exact hping ho rfl
    | false =>
      cases hr : w.tick.expired c.lastReceived with
      | true => exact hping ho rfl
      | false => exact .recent ho hs hr rfl

theorem cyclePublish_leave (cfg : Config) (c : Client τ) (w : World σ τ κ) (timer : τ)
    (h : (cyclePublish cfg c w timer).leave = true) : (cyclePublish cfg c w timer).rc = FAILURE := by
  unfold cyclePublish at h ⊢
  cases hf : deserializePublish c.readbuf with
  | none => rfl
  | some fields =>
    simp only [hf] at h ⊢
    split
    · rename_i hq
      rw [if_pos hq] at h
      split
      · rename_i hqos
        rw [if_pos hqos] at h
        split
        · rfl
        · rename_i hlen
          rw [if_neg hlen] at h
          simpa using h
      · rename_i hqos
        rw [if_neg hqos] at h
        cases h
    · rename_i hq
      rw [if_neg hq] at h
      cases h

theorem cycleAck_leave (cfg : Config) (packetType : Int) (c : Client τ) (w : World σ τ κ)
    (timer : τ) (h : (cycleAck cfg packetType c w timer).leave = true) :
    (cycleAck cfg packetType c w timer).rc = FAILURE := by
  simp only [cycleAck] at h ⊢
  split
  · rfl
  · rename_i hack
    rw [if_neg hack] at h
    generalize serializeAck cfg.maxPacketSize _ 0 _ = reply at h ⊢
    split
    · rfl
    · rename_i hlen
      rw [if_neg hlen] at h
      split
      · rfl
      · rename_i hrc
        rw [if_neg hrc] at h
        split at h <;> cases h

theorem cycleSwitch_leave (cfg : Config) (packetType : Int) (c : Client τ) (w : World σ τ κ)
    (timer : τ) (h : (cycleSwitch cfg packetType c w timer).leave = true) :
    (cycleSwitch cfg packetType c w timer).rc ≠ SUCCESS := by
  have hfailure {rc : Int} (hrc : rc = FAILURE) : rc ≠ SUCCESS := by rw [hrc]; decide
  unfold cycleSwitch at h ⊢
  split
  · rename_i hquiet
    rw [if_pos hquiet] at h
    cases h
  rename_i hquiet
  rw [if_neg hquiet] at h
  split
  · rename_i hpub
    rw [if_pos hpub] at h
    exact hfailure (cyclePublish_leave cfg c w timer h)
  rename_i hpub
  rw [if_neg hpub] at h
  split
  · rename_i hack
    rw [if_pos hack] at h
    exact hfailure (cycleAck_leave cfg packetType c w timer h)
  rename_i hack
  rw [if_neg hack] at h
  split
  · rename_i hcomp
    rw [if_pos hcomp] at h
    cases h
  rename_i hcomp
  rw [if_neg hcomp] at h
  split
  · rename_i hping
    rw [if_pos hping] at h
    cases h
  · exact fun hzero => hquiet (.inl hzero)

structure Checked (c : Client τ) (w : World σ τ κ) (b : Branch σ τ κ) (ev : List Event) :
    Prop where
  log : b.world.log = w.log ++ ev
  noPingreq : ∀ e ∈ ev, isPingreq e = false
  isconnected : b.client.isconnected = c.isconnected
  keepAliveInterval : b.client.keepAliveInterval = c.keepAliveInterval
  leave : b.leave = true → b.rc ≠ SUCCESS
  stay : b.leave = false → b.rc = SUCCESS
  pingOutstanding : b.client.pingOutstanding = c.pingOutstanding ∨
    b.client.pingOutstanding = false ∧
      ∃ header body rest, ev = .received header body :: rest ∧ headerType header = PINGRESP

theorem cycleCheck_idle {cfg : Config} {c : Client τ} {w : World σ τ κ}
    (timer : τ) (hrc : (readPacket cfg c w).rc ≤ 0) (hlog : (readPacket cfg c w).world.log = w.log) :
    Checked c w (cycleCheck cfg c w timer) [] := by
  obtain ⟨buf, t, hframe⟩ := readPacket_frame cfg c w
  simp only [cycleCheck, cycleSwitch_idle cfg hrc, hframe]
  exact ⟨by simp [hlog], by simp, rfl, rfl, by simp, by simp, .inl rfl⟩

theorem cycleCheck_received {cfg : Config} (hq : cfg.qos1 = true) {c : Client τ} {w : World σ τ κ}
    (timer : τ) {header : UInt8} {body : Bytes} {net : σ} (hb : body.length < 268435456)
    (hread : readPacket cfg c w = received c { w with net := net } header body) :
    ∃ ev, Checked c w (cycleCheck cfg c w timer) (.received header body :: ev) := by
  have hpo := readPacket_pingOutstanding cfg c w
  obtain ⟨hrc, hsession, hbuf, hlog⟩ := received_spec c { w with net := net } header body
  rw [← hread] at hrc hsession hbuf hlog
  obtain ⟨ev, hsw⟩ := cycleSwitch_spec cfg (readPacket cfg c w).world timer hbuf hb
  rw [← hrc] at hsw
  obtain ⟨table, htable⟩ := hsw.table
  have hping := cycleSwitch_pingOutstanding hq (readPacket cfg c w).rc (readPacket cfg c w).client
    (readPacket cfg c w).world timer
  refine ⟨ev, ?_, ?_, ?_, ?_, cycleSwitch_leave cfg _ _ _ timer, ?_, ?_⟩
  · rw [cycleCheck, hsw.log, hlog, List.append_assoc, List.singleton_append]
  · intro e he
    rcases List.mem_cons.mp he with rfl | he
    · rfl
    · exact hsw.act.no_pingreq e he
  · rw [cycleCheck, htable, hsession]
  · rw [cycleCheck, htable, hsession]
  · intro hstay
    rcases hsw.result with ⟨-, h | ⟨-, hleave⟩⟩ | ⟨-, -, hleave⟩
    · exact h
    · exact absurd hleave (Bool.eq_false_iff.mp hstay)
    · exact absurd hleave (Bool.eq_false_iff.mp hstay)
  · rw [hpo, hrc] at hping
    by_cases hresp : headerType header = PINGRESP
    · refine .inr ⟨?_, header, body, ev, rfl, hresp⟩
      rw [cycleCheck, hrc, hping, hresp]
      simp
    · refine .inl ?_
      rw [cycleCheck, hrc, hping, decide_eq_true (mt Int.ofNat_inj.mp hresp), Bool.and_true]

theorem cycleCheck_checked {cfg : Config} (hq : cfg.qos1 = true) (c : Client τ) (w : World σ τ κ)
    (timer : τ) : ∃ ev, Checked c w (cycleCheck cfg c w timer) ev := by
  rcases readPacket_cases cfg c w with ⟨header, body, net, -, hb, h⟩ | ⟨hrc, hlog⟩
  · obtain ⟨ev, hc⟩ := cycleCheck_received hq timer hb h
    exact ⟨_, hc⟩
  · exact ⟨[], cycleCheck_idle timer hrc hlog⟩

end MbedMqtt
