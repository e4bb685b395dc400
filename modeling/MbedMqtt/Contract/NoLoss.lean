import MbedMqtt.Client.Tenure
import MbedMqtt.Contract.IncomingQoS2

namespace MbedMqtt

open Stretch

def arrivesQoS2 (id : Nat) : Event → Bool
  | .received header body => headerType header = PUBLISH && headerQoS header = 2 &&
      readInt body (2 + readInt body 0) = id
  | _ => false

def DeliveredOnArrival (id : Nat) (log : List Event) : Prop :=
  Taken (arrivesQoS2 id) (deliversQoS2 id) (Released id) log

def Outstanding (id : Nat) (log : List Event) : Prop :=
  id ≠ 0 ∧ Pending (arrivesQoS2 id) (Released id) log

def NoLoss (log : List Event) : Prop :=
  ∀ id, 0 < id → id < 65536 →
    Justified (· = .sent (ackPacket PUBREC id)) (DeliveredOnArrival id) log

def FewOutstanding (cfg : Config) (log : List Event) : Prop :=
  ∀ pre, pre <+: log → ∃ ids : List Nat, ids.length ≤ cfg.maxIncomingQoS2Messages ∧
    ∀ id, Outstanding id pre → id ∈ ids

theorem released_last {id : Nat} {r : List Event} {e : Event} (hr : Released id r)
    (he : id < 65536 → e ≠ .sent (ackPacket PUBCOMP id)) : r.getLast? ≠ some e := by
  obtain ⟨header, body, rfl, -, hid⟩ := hr
  intro h
  exact he (hid ▸ readInt_lt body 0) (by simpa using h.symm)

theorem released_head {id : Nat} {r : List Event} {d : Event} (hr : Released id r)
    (hd : deliversQoS2 id d = true) : r.head? ≠ some d := by
  obtain ⟨header, body, rfl, -⟩ := hr
  rintro h
  simp only [List.head?_cons, Option.some.injEq] at h
  simp [← h, deliversQoS2] at hd

theorem not_released_nil (id : Nat) : ¬Released id [] := by
  rintro ⟨header, body, h, -⟩
  cases h

theorem ackPacket_ne {type type' : Nat} (id id' : Nat) (ht : type < 16) (ht' : type' < 16)
    (hne : type ≠ type') : ackPacket type id ≠ ackPacket type' id' := by
  intro h
  have htypes := congrArg packetType h
  rw [packetType_ackPacket id ht, packetType_ackPacket id' ht'] at htypes
  exact hne htypes

def Quiet (e : Event) : Prop :=
  ∀ id, arrivesQoS2 id e = false ∧ e ≠ .sent (ackPacket PUBREC id) ∧
    e ≠ .sent (ackPacket PUBCOMP id)

theorem quiet_sent {packet : Bytes} (hrec : packetType packet ≠ PUBREC)
    (hcomp : packetType packet ≠ PUBCOMP) : Quiet (.sent packet) := by
  refine fun id => ⟨rfl, ?_, ?_⟩
  · intro h
    rw [Event.sent.injEq] at h
    exact hrec (by rw [h, packetType_ackPacket id (by decide)])
  · intro h
    rw [Event.sent.injEq] at h
    exact hcomp (by rw [h, packetType_ackPacket id (by decide)])

theorem quiet_unsent (packet : Bytes) : Quiet (.unsent packet) :=
  fun _ => ⟨rfl, nofun, nofun⟩

theorem quiet_delivered (topicName : MQTTString) (msg : Message) (handlers : List Nat) :
    Quiet (.delivered topicName msg handlers) :=
  fun _ => ⟨rfl, nofun, nofun⟩

theorem quiet_received {header : UInt8} {body : Bytes}
    (h : headerType header = PUBLISH → headerQoS header ≠ 2) : Quiet (.received header body) := by
  refine fun id => ⟨?_, nofun, nofun⟩
  simp only [arrivesQoS2]
  by_cases ht : headerType header = PUBLISH
  · simp [h ht]
  · simp [ht]

theorem wellFormed_publish {header : UInt8} {body : Bytes} (h : wellFormed (header, body) = true)
    (ht : headerType header = PUBLISH) :
    2 + readInt body 0 + (if 0 < headerQoS header then 2 else 0) ≤ body.length := by
  simpa [wellFormed, ht] using h

theorem Unread.not_publish {header : UInt8} {body : Bytes} (h : Unread header body)
    (hwell : wellFormed (header, body) = true) : headerType header ≠ PUBLISH := by
  intro ht
  obtain ⟨hb, tail, hnone⟩ := h ht
  have hlen := wellFormed_publish hwell ht
  exact deserializePublish_isSome tail hb ht (by omega) hnone

theorem message_id {header : UInt8} {body tail : Bytes} {fields : PublishFields} (g : Nat)
    (hb : body.length < 268435456) (hwell : wellFormed (header, body) = true)
    (hf : deserializePublish (framed header body ++ tail) = some fields)
    (h2 : headerQoS header = 2) :
    (fields.message g).id = readInt body (2 + readInt body 0) := by
  obtain ⟨ht, -, -⟩ := deserializePublish_eq_some hf
  rw [byteAt_framed] at ht
  have hlen := wellFormed_publish hwell ht
  rw [if_pos (by omega)] at hlen
  simp [PublishFields.message, deserializePublish_packetid hb hlen (by omega) hf]

structure Ledger (cfg : Config) (s : Session) (log : List Event) : Prop where
  size : s.incomingQoS2messages.length = cfg.maxIncomingQoS2Messages
  nodup : (SlotTable.entries 0 s.incomingQoS2messages).Nodup
  recorded : ∀ id, id ≠ 0 → id ∈ s.incomingQoS2messages → DeliveredOnArrival id log
  known : ∀ id, Outstanding id log → id ∈ s.incomingQoS2messages
  acked : NoLoss log

theorem Outstanding.of_append {id : Nat} {log es : List Event}
    (hes : ∀ e ∈ es, arrivesQoS2 id e = false) (h : Outstanding id (log ++ es)) :
    Outstanding id log :=
  ⟨h.1, h.2.of_append hes⟩

theorem DeliveredOnArrival.append {id : Nat} {log es : List Event} (h : DeliveredOnArrival id log)
    (hes : ∀ e ∈ es, id < 65536 → e ≠ .sent (ackPacket PUBCOMP id)) :
    DeliveredOnArrival id (log ++ es) :=
  Taken.append h fun e he _ hr => released_last hr (hes e he)

theorem DeliveredOnArrival.outstanding {id : Nat} {log : List Event} (hid : id ≠ 0)
    (h : DeliveredOnArrival id log) : Outstanding id log :=
  ⟨hid, Taken.pending h fun _ hd _ hr => released_head hr hd⟩

theorem FewOutstanding.of_arrivals {cfg : Config} {log : List Event} (ids : List Nat)
    (hlen : ids.length ≤ cfg.maxIncomingQoS2Messages)
    (hids : ∀ p ∈ heard log, headerType p.1 = PUBLISH → readInt p.2 (2 + readInt p.2 0) ∈ ids) :
    FewOutstanding cfg log := by
  refine fun pre hpre => ⟨ids, hlen, fun id hout => ?_⟩
  obtain ⟨e, he, harrive⟩ := hout.2.mem
  cases e with
  | received header body =>
    simp only [arrivesQoS2, Bool.and_eq_true, decide_eq_true_eq] at harrive
    rw [← harrive.2]
    exact hids (header, body) (mem_heard.mpr (hpre.subset he)) harrive.1.1
  | _ => cases harrive

theorem not_noLoss {log : List Event} {id : Nat} (hpos : 0 < id) (hlt : id < 65536)
    (hsent : .sent (ackPacket PUBREC id) ∈ log) (hnone : ∀ e ∈ log, deliversQoS2 id e = false) :
    ¬NoLoss log := by
  intro h
  obtain ⟨pre, post, hlog⟩ := List.append_of_mem hsent
  obtain ⟨d, hd, hdeliver⟩ := Taken.mem (h id hpos hlt pre _ post hlog rfl)
  rw [hnone d (hlog ▸ List.mem_append_left _ hd)] at hdeliver
  cases hdeliver

namespace Ledger

variable {cfg : Config} {s t : Session} {log es : List Event}

theorem quiet (h : Ledger cfg s log) (ht : t.incomingQoS2messages = s.incomingQoS2messages)
    (hes : ∀ e ∈ es, Quiet e) : Ledger cfg t (log ++ es) where
  size := by rw [ht, h.size]
  nodup := by
    rw [ht]
    exact h.nodup
  recorded id hid hmem := by
    rw [ht] at hmem
    exact (h.recorded id hid hmem).append fun e he _ => (hes e he id).2.2
  known id hout := by
    rw [ht]
    exact h.known id (hout.of_append fun e he => (hes e he id).1)
  acked id hpos hlt := (h.acked id hpos hlt).append fun e he => (hes e he id).2.1

theorem fresh (h : Ledger cfg s log) {header : UInt8} {body : Bytes} {topicName : MQTTString}
    {msg : Message} {handlers : List Nat} (h2 : msg.qos = .QOS2)
    (harrive : ∀ id, arrivesQoS2 id (.received header body) = decide (msg.id = id))
    (hnew : msg.id ∉ s.incomingQoS2messages) (hroom : 0 ∈ s.incomingQoS2messages) :
    Ledger cfg { s with incomingQoS2messages := (useQoS2msgid s.incomingQoS2messages msg.id).2 }
      (log ++ [.received header body, .delivered topicName msg handlers]) := by
  have hid : msg.id ≠ 0 := fun heq => hnew (heq ▸ hroom)
  refine ⟨?_, SlotTable.fill_nodup hid hroom hnew h.nodup, ?_, ?_, ?_⟩
  · exact (SlotTable.fill_length 0 msg.id s.incomingQoS2messages).trans h.size
  · intro id hne hmem
    rcases (SlotTable.mem_fill hid hne hroom).mp hmem with rfl | hmem
    · refine Taken.first (not_released_nil _) ?_ ?_ fun hp => hnew (h.known _ ⟨hid, hp⟩)
      · simp [harrive]
      · simp [deliversQoS2, h2]
    · exact (h.recorded id hne hmem).append (by simp)
  · intro id hout
    refine (SlotTable.mem_fill hid hout.1 hroom).mpr ?_
    by_cases heq : id = msg.id
    · exact .inl heq
    · have hother : ∀ e ∈ [Event.received header body, .delivered topicName msg handlers],
          arrivesQoS2 id e = false := by
        intro e he
        simp only [List.mem_cons, List.not_mem_nil, or_false] at he
        rcases he with rfl | rfl
        · simp [harrive, Ne.symm heq]
        · rfl
      exact .inr (h.known id (hout.of_append hother))
  · exact fun id hpos hlt => (h.acked id hpos hlt).append (by simp)

theorem repeated (h : Ledger cfg s log) {header : UInt8} {body : Bytes} {msg : Message}
    (harrive : ∀ id, arrivesQoS2 id (.received header body) = decide (msg.id = id))
    (hold : msg.id ≠ 0 → msg.id ∈ s.incomingQoS2messages) :
    Ledger cfg s (log ++ [.received header body]) := by
  refine ⟨h.size, h.nodup, ?_, ?_, ?_⟩
  · exact fun id hne hmem => (h.recorded id hne hmem).append (by simp)
  · intro id hout
    by_cases heq : id = msg.id
    · subst heq
      exact hold hout.1
    · exact h.known id (hout.of_append (by simp [harrive, Ne.symm heq]))
  · exact fun id hpos hlt => (h.acked id hpos hlt).append (by simp)

theorem room (h : Ledger cfg s log) {header : UInt8} {body : Bytes} {msg : Message}
    (harrive : ∀ id, arrivesQoS2 id (.received header body) = decide (msg.id = id))
    (hfew : FewOutstanding cfg (log ++ [.received header body])) (hid : msg.id ≠ 0)
    (hnew : msg.id ∉ s.incomingQoS2messages) : 0 ∈ s.incomingQoS2messages := by
  obtain ⟨ids, hlen, hids⟩ := hfew _ List.prefix_rfl
  have hnodup : (msg.id :: SlotTable.entries 0 s.incomingQoS2messages).Nodup := by
    rw [List.nodup_cons, SlotTable.mem_entries hid]
    exact ⟨hnew, h.nodup⟩
  have hsub : msg.id :: SlotTable.entries 0 s.incomingQoS2messages ⊆ ids := by
    intro id hmem
    rcases List.mem_cons.mp hmem with rfl | hmem
    · exact hids _ ⟨hid, Pending.deliver (not_released_nil _) (by simp [harrive])⟩
    · have hne : id ≠ 0 := by simpa using (List.mem_filter.mp hmem).2
      have hdelivered := h.recorded id hne (List.mem_filter.mp hmem).1
      exact hids id ((hdelivered.append (by simp)).outstanding hne)
  have hcount := (List.subperm_of_subset hnodup hsub).length_le
  rw [List.length_cons] at hcount
  refine SlotTable.mem_of_entries_length_lt ?_
  have hsize := h.size
  omega

theorem delivers (h : Ledger cfg s log) (hq : cfg.qos2 = true) {header : UInt8} {body : Bytes}
    {topicName : MQTTString} {msg : Message} {dev : List Event} (h2 : msg.qos = .QOS2)
    (harrive : ∀ id, arrivesQoS2 id (.received header body) = decide (msg.id = id))
    (hfew : FewOutstanding cfg (log ++ [.received header body]))
    (hd : Delivers cfg s topicName msg dev t) :
    Ledger cfg t (log ++ .received header body :: dev) ∧
      (msg.id ≠ 0 → msg.id ∈ t.incomingQoS2messages) := by
  cases hd with
  | plain handlers hplain => exact absurd ⟨hq, h2⟩ hplain
  | fresh handlers _ _ hnew hroom =>
    exact ⟨h.fresh h2 harrive hnew hroom,
      fun hid => (SlotTable.mem_fill hid hid hroom).mpr (.inl rfl)⟩
  | duplicate _ _ hold => exact ⟨h.repeated harrive fun _ => hold, fun _ => hold⟩
  | overflow _ _ hnew hfull =>
    have hzero : msg.id ≠ 0 → msg.id ∈ s.incomingQoS2messages :=
      fun hid => absurd (h.room harrive hfew hid hnew) hfull
    exact ⟨h.repeated harrive hzero, hzero⟩

theorem replies (h : Ledger cfg s log) {msg : Message} {reply : List Event}
    (hlt : msg.id < 65536) (hold : msg.id ≠ 0 → msg.id ∈ s.incomingQoS2messages)
    (hr : Replies msg reply) : Ledger cfg s (log ++ reply) := by
  have hpuback : packetType (ackPacket PUBACK msg.id) = PUBACK := packetType_ackPacket _ (by decide)
  cases hr with
  | silent => simpa using h
  | puback => exact h.quiet rfl (by simpa using quiet_sent (by simp [hpuback]) (by simp [hpuback]))
  | noPuback => exact h.quiet rfl (by simpa using quiet_unsent _)
  | noPubrec => exact h.quiet rfl (by simpa using quiet_unsent _)
  | pubrec =>
    have hcomp (id : Nat) : ackPacket PUBREC msg.id ≠ ackPacket PUBCOMP id :=
      ackPacket_ne _ _ (by decide) (by decide) (by decide)
    refine ⟨h.size, h.nodup, ?_, ?_, ?_⟩
    · exact fun id hne hmem => (h.recorded id hne hmem).append (by simp [hcomp id])
    · exact fun id hout => h.known id (hout.of_append (by simp [arrivesQoS2]))
    · intro id hpos hid
      refine (h.acked id hpos hid).concat fun heq => ?_
      rw [Event.sent.injEq] at heq
      obtain rfl := ackPacket_inj hlt hid heq
      exact h.recorded _ (by omega) (hold (by omega))

theorem released (h : Ledger cfg s log) {header : UInt8} {body : Bytes}
    (ht : headerType header = PUBREL) :
    Ledger cfg { s with
        incomingQoS2messages := freeQoS2msgid s.incomingQoS2messages (readInt body 0) }
      (log ++ [.received header body, .sent (ackPacket PUBCOMP (readInt body 0))]) := by
  have hreleased : Released (readInt body 0)
      [.received header body, .sent (ackPacket PUBCOMP (readInt body 0))] :=
    ⟨header, body, rfl, ht, rfl⟩
  have hquiet (id : Nat) : ∀ e ∈ [Event.received header body,
      .sent (ackPacket PUBCOMP (readInt body 0))], arrivesQoS2 id e = false := by
    simp [arrivesQoS2, ht]
  refine ⟨?_, SlotTable.vacate_nodup _ h.nodup, ?_, ?_, ?_⟩
  · exact (SlotTable.vacate_length 0 _ s.incomingQoS2messages).trans h.size
  · intro id hne hmem
    have hother : id ≠ readInt body 0 := by
      rintro rfl
      exact SlotTable.not_mem_vacate hne h.nodup hmem
    refine (h.recorded id hne ((SlotTable.mem_vacate_of_ne hne hother).mp hmem)).append ?_
    intro e he hlt heq
    subst heq
    have hpacket : ackPacket PUBCOMP id = ackPacket PUBCOMP (readInt body 0) := by simpa using he
    exact hother (ackPacket_inj hlt (readInt_lt body 0) hpacket)
  · intro id hout
    have hother : id ≠ readInt body 0 := by
      rintro rfl
      exact not_pending_release (hquiet _) hreleased hout.2
    exact (SlotTable.mem_vacate_of_ne hout.1 hother).mpr (h.known id (hout.of_append (hquiet id)))
  · intro id hpos hlt
    refine (h.acked id hpos hlt).append ?_
    have hrec := ackPacket_ne (readInt body 0) id (by decide : PUBCOMP < 16) (by decide : PUBREC < 16)
      (by decide)
    simpa using hrec

theorem published (h : Ledger cfg s log) (hq : cfg.qos2 = true) {header : UInt8}
    {body tail : Bytes} {fields : PublishFields} {g : Nat} {dev reply : List Event}
    (hb : body.length < 268435456) (hwell : wellFormed (header, body) = true)
    (hf : deserializePublish (framed header body ++ tail) = some fields)
    (hfew : FewOutstanding cfg (log ++ [.received header body]))
    (hd : Delivers cfg s fields.topicName (fields.message g) dev t)
    (hr : Replies (fields.message g) reply) :
    Ledger cfg t (log ++ .received header body :: (dev ++ reply)) := by
  have ht : headerType header = PUBLISH := by
    obtain ⟨ht, -, -⟩ := deserializePublish_eq_some hf
    rwa [byteAt_framed] at ht
  have happend (dev : List Event) : log ++ .received header body :: (dev ++ reply) =
      log ++ .received header body :: dev ++ reply := by simp
  rw [happend]
  by_cases h2 : (fields.message g).qos = .QOS2
  · have hheader := (message_qos2 g hf).mp h2
    have hid := message_id g hb hwell hf hheader
    have harrive (id : Nat) : arrivesQoS2 id (.received header body) =
        decide ((fields.message g).id = id) := by
      simp [arrivesQoS2, ht, hheader, hid]
    obtain ⟨hdelivered, hold⟩ := h.delivers hq h2 harrive hfew hd
    exact hdelivered.replies (hid ▸ readInt_lt _ _) hold hr
  · have hreceived : Quiet (.received header body) :=
      quiet_received fun _ h => h2 ((message_qos2 g hf).mpr h)
    have hpuback : packetType (ackPacket PUBACK (fields.message g).id) = PUBACK :=
      packetType_ackPacket _ (by decide)
    have hreply : ∀ e ∈ reply, Quiet e := by
      cases hr with
      | silent => simp
      | puback => simpa using quiet_sent (by simp [hpuback]) (by simp [hpuback])
      | pubrec h => exact absurd h h2
      | noPuback => simpa using quiet_unsent _
      | noPubrec h => exact absurd h h2
    cases hd with
    | plain handlers =>
      have hdelivered : Ledger cfg s (log ++ [.received header body,
          .delivered fields.topicName (fields.message g) handlers]) :=
        h.quiet rfl (by simpa using ⟨hreceived, quiet_delivered _ _ _⟩)
      exact hdelivered.quiet rfl hreply
    | fresh _ _ h => exact absurd h h2
    | duplicate _ h => exact absurd h h2
    | overflow _ h => exact absurd h h2

theorem close (h : Ledger cfg s log) (ht : (s.close cfg).Open) : Ledger cfg (s.close cfg) log := by
  rcases close_cases cfg s with ⟨-, heq⟩ | ⟨hclean, heq⟩
  · rw [heq]
    exact ⟨h.size, h.nodup, h.recorded, h.known, h.acked⟩
  · rcases ht with ht | ht
    · simp [heq, Session.cleanSession, hclean] at ht
    · simp [close_disconnected] at ht

theorem cycleAct (h : Ledger cfg s log) (hq : cfg.qos2 = true) (ht : t.Open)
    (hwell : ∀ p ∈ heard es, wellFormed p = true) (hfew : FewOutstanding cfg (log ++ es))
    (hact : CycleAct cfg s es t) : Ledger cfg t (log ++ es) := by
  have hping : packetType (headerByte PINGREQ 0 0 0 :: packetEncode 0) = PINGREQ := by
    rw [packetType_cons, headerType_headerByte]
    decide
  cases hact with
  | heard hunread =>
    have hother := hunread.not_publish (hwell _ (by simp))
    exact h.quiet rfl (by simpa using quiet_received fun h => absurd h hother)
  | @publish _ header body _ _ _ dev reply hb hf hd hr =>
    refine h.published hq hb (hwell _ (by simp)) hf (fun pre hpre => hfew pre (hpre.trans ?_)) hd hr
    exact ⟨dev ++ reply, by simp⟩
  | pubrec id hh =>
    have hrel := packetType_ackPacket id (by decide : PUBREL < 16)
    refine h.quiet rfl ?_
    simpa using ⟨quiet_received (by simp [hh]), quiet_sent (by simp [hrel]) (by simp [hrel])⟩
  | unanswered id hh =>
    refine h.quiet rfl ?_
    simpa using ⟨quiet_received (by rcases hh with hh | hh <;> simp [hh]), quiet_unsent _⟩
  | @release header body _ _ hh hid =>
    rw [hid (wellFormed_pubrel (hwell _ (by simp)) hh)]
    exact h.released hh
  | ping =>
    exact h.quiet rfl (by simpa using quiet_sent (by simp [hping]) (by simp [hping]))
  | noPing => exact h.quiet rfl (by simpa using quiet_unsent _)
  | close => simpa using h.close ht

theorem act (h : Ledger cfg s log) (hq : cfg.qos2 = true)
    (hwell : ∀ p ∈ heard es, wellFormed p = true) (hfew : FewOutstanding cfg (log ++ es))
    (hact : OpenAct cfg s es t) : Ledger cfg t (log ++ es) := by
  have hrequest {packet : Bytes} (h : isRequest packet) : Quiet (.sent packet) := by
    rcases h with (h | h | h | h) | ⟨h, -⟩ <;> exact quiet_sent (by simp [h]) (by simp [h])
  obtain ⟨hact, ht⟩ := hact
  cases hact with
  | cycle hact => exact h.cycleAct hq ht hwell hfew hact
  | sent hpacket => exact h.quiet rfl (by simpa using hrequest hpacket)
  | unsent => exact h.quiet rfl (by simpa using quiet_unsent _)
  | acknowledged id => exact h.quiet (acknowledge_incomingQoS2messages s id) (by simp)
  | _ => exact h.quiet rfl (by simp)

theorem chain (h : Ledger cfg s log) (hq : cfg.qos2 = true)
    (hwell : ∀ p ∈ heard es, wellFormed p = true) (hfew : FewOutstanding cfg (log ++ es))
    (hchain : Chain (OpenAct cfg) s es t) : Ledger cfg t (log ++ es) := by
  induction hchain with
  | nil => simpa using h
  | snoc _ hact ih =>
    simp only [heard_append, List.mem_append] at hwell
    rw [← List.append_assoc] at hfew ⊢
    refine (ih (fun p hp => hwell p (.inl hp)) fun pre hpre => hfew pre ?_).act hq
      (fun p hp => hwell p (.inr hp)) hfew hact
    exact hpre.trans (List.prefix_append _ _)

end Ledger

variable {σ τ κ : Type} [Network σ] [Timer τ κ]

def joins (cfg : Config) (y : System τ) (call : Call σ κ) : Bool :=
  match call.op with
  | .connect options => !options.cleansession
  | _ => !y.client.cleansession ||
      y.client.isconnected && allExpected cfg (heard (y.events cfg call))

def OneSession (cfg : Config) (y : System τ) : List (Call σ κ) → Prop
  | [] => True
  | call :: calls => joins cfg y call = true ∧
      Steps (System.perform cfg) (fun y call => y.client.Open ∧ joins cfg y call = true)
        (y.perform cfg call) calls

theorem joins_tenure {cfg : Config} {y : System τ} {call : Call σ κ}
    (hout : Outbound cfg y.client.toSession) (h : joins cfg y call = true) :
    Tenure cfg y.client.toSession (y.events cfg call) (y.perform cfg call).client.toSession := by
  obtain ⟨-, hrun⟩ := y.perform_runs cfg call
  unfold joins at h
  split at h
  · rename_i options hop
    have hclean : options.cleansession = false := by simpa using h
    refine .kept (hrun.resumed hout (.inr ⟨options, hop⟩) fun options' hop' => ?_)
    rw [hop, Op.connect.injEq] at hop'
    rwa [← hop']
  · rename_i hop
    rw [Bool.or_eq_true, Bool.and_eq_true, Bool.not_eq_true'] at h
    rcases h with hpersistent | ⟨hconn, hexp⟩
    · exact .kept (hrun.resumed hout (.inl hpersistent) fun options h => absurd h (hop options))
    · exact hrun.tenure hconn hexp

theorem Ledger.perform {cfg : Config} (hq : cfg.qos2 = true) {y : System τ} {log : List Event}
    (hout : Outbound cfg y.client.toSession) (h : Ledger cfg y.client.toSession log)
    {call : Call σ κ} (hjoin : joins cfg y call = true)
    (hwell : ∀ p ∈ heard (y.events cfg call), wellFormed p = true)
    (hfew : FewOutstanding cfg (log ++ y.events cfg call)) :
    NoLoss (log ++ y.events cfg call) ∧ ((y.perform cfg call).client.Open →
      Ledger cfg (y.perform cfg call).client.toSession (log ++ y.events cfg call)) := by
  have htenure := joins_tenure hout hjoin
  generalize (y.perform cfg call).client.toSession = t at htenure
  cases htenure with
  | kept hchain =>
    have hledger := h.chain hq hwell hfew hchain
    exact ⟨hledger.acked, fun _ => hledger⟩
  | closed hchain =>
    have hledger := h.chain hq hwell hfew hchain
    exact ⟨hledger.acked, hledger.close⟩

structure Audited (cfg : Config) (y : System τ) (log : List Event) : Prop where
  outbound : Outbound cfg y.client.toSession
  acked : NoLoss log
  ledger : y.client.Open → Ledger cfg y.client.toSession log

theorem Ledger.audited {cfg : Config} (hq : cfg.qos2 = true) {y : System τ} {log : List Event}
    (hout : Outbound cfg y.client.toSession) (h : Ledger cfg y.client.toSession log)
    {call : Call σ κ} (hjoin : joins cfg y call = true)
    (hwell : ∀ p ∈ heard (y.events cfg call), wellFormed p = true)
    (hfew : FewOutstanding cfg (log ++ y.events cfg call)) :
    Audited cfg (y.perform cfg call) (log ++ y.events cfg call) := by
  obtain ⟨-, hrun⟩ := y.perform_runs cfg call
  have hchain : Chain (SessionAct cfg fun _ => True) _ _ _ := hrun.conduct hout fun _ _ => trivial
  obtain ⟨hacked, hledger⟩ := h.perform hq hout hjoin hwell hfew
  exact ⟨hout.chain hchain, hacked, hledger⟩

theorem FewOutstanding.of_append {cfg : Config} {log es : List Event}
    (h : FewOutstanding cfg (log ++ es)) : FewOutstanding cfg log :=
  fun pre hpre => h pre (hpre.trans (List.prefix_append log es))

theorem Audited.run {cfg : Config} (hq : cfg.qos2 = true) {y : System τ} {log : List Event}
    (h : Audited cfg y log) {calls : List (Call σ κ)}
    (hsteps : Steps (System.perform cfg) (fun y call => y.client.Open ∧ joins cfg y call = true)
      y calls)
    (hwell : ∀ p ∈ heard (y.since cfg calls), wellFormed p = true)
    (hfew : FewOutstanding cfg (log ++ y.since cfg calls)) : NoLoss (log ++ y.since cfg calls) := by
  induction calls generalizing y log with
  | nil => simpa [System.since] using h.acked
  | cons call calls ih =>
    obtain ⟨⟨hopen, hjoin⟩, hsteps⟩ := hsteps
    simp only [System.since, heard_append, List.mem_append] at hwell
    rw [System.since, ← List.append_assoc] at hfew ⊢
    have hnext := (h.ledger hopen).audited hq h.outbound hjoin (fun p hp => hwell p (.inl hp))
      hfew.of_append
    exact ih hnext hsteps (fun p hp => hwell p (.inr hp)) hfew

theorem Ledger.empty {cfg : Config} {s : Session}
    (hsize : s.incomingQoS2messages.length = cfg.maxIncomingQoS2Messages)
    (hempty : ∀ id ∈ s.incomingQoS2messages, id = 0) : Ledger cfg s [] where
  size := hsize
  nodup := by
    rw [SlotTable.entries, List.filter_eq_nil_iff.mpr (by simpa using hempty)]
    exact List.nodup_nil
  recorded id hid hmem := absurd (hempty id hmem) hid
  known id hout := by
    obtain ⟨d, hd, -⟩ := hout.2.mem
    cases hd
  acked _ _ _ := justified_nil

theorem SessionAct.table_length {cfg : Config} {allowed : Bool → Prop} {s t : Session}
    {ev : List Event} (h : SessionAct cfg allowed s ev t) :
    t.incomingQoS2messages.length = s.incomingQoS2messages.length := by
  cases h with
  | cycle h =>
    cases h with
    | publish _ _ hd _ =>
      cases hd with
      | fresh => exact SlotTable.fill_length ..
      | _ => rfl
    | release => exact SlotTable.vacate_length ..
    | close =>
      rcases close_cases cfg s with ⟨-, heq⟩ | ⟨-, heq⟩
      · rw [heq]
      · rw [heq]
        simp only [Session.cleanSession]
        split
        · exact List.length_map _
        · rfl
    | _ => rfl
  | acknowledged id => rw [acknowledge_incomingQoS2messages]
  | _ => rfl

theorem incoming_qos2_no_loss (cfg : Config) (hq : cfg.qos2 = true) (commandTimeoutMs : Nat)
    (idle : τ) (before calls : List (Call σ κ)) (y : System τ)
    (hy : y = System.run cfg (.start cfg commandTimeoutMs idle) before)
    (hempty : ∀ id ∈ y.client.incomingQoS2messages, id = 0) (hone : OneSession cfg y calls)
    (hwell : ∀ p ∈ heard (y.since cfg calls), wellFormed p = true)
    (hfew : FewOutstanding cfg (y.since cfg calls)) : NoLoss (y.since cfg calls) := by
  obtain ⟨hout, hsize⟩ := reachable_invariant
    (I := fun s => s.incomingQoS2messages.length = cfg.maxIncomingQoS2Messages)
    (fun hs hact => hact.table_length.trans hs)
    (by simp [Session.initial] : (Session.initial cfg commandTimeoutMs).incomingQoS2messages.length =
      cfg.maxIncomingQoS2Messages) idle before
  rw [← hy] at hout hsize
  cases calls with
  | nil => exact fun _ _ _ => justified_nil
  | cons call calls =>
    obtain ⟨hjoin, hsteps⟩ := hone
    simp only [System.since, heard_append, List.mem_append] at hwell
    have hfirst := (Ledger.empty hsize hempty).audited hq hout hjoin
      (fun p hp => hwell p (.inl hp)) (by simpa using hfew.of_append)
    exact hfirst.run hq hsteps (fun p hp => hwell p (.inr hp)) hfew

theorem incoming_qos2_acknowledged_delivered :
    .sent (ackPacket PUBREC 7) ∈ (System.start (.standard .qos2) 30000 OracleTimer.oracle).since
        (.standard .qos2) [connectCall, repeatedPublish, repeatedPublish] ∧
      NoLoss ((System.start (.standard .qos2) 30000 OracleTimer.oracle).since
        (.standard .qos2) [connectCall, repeatedPublish, repeatedPublish]) :=
  ⟨by decide, incoming_qos2_no_loss (.standard .qos2) rfl 30000 OracleTimer.oracle []
    [connectCall, repeatedPublish, repeatedPublish] _ rfl (by decide)
    ⟨by decide, by decide⟩ (by decide)
    (FewOutstanding.of_arrivals [7] (by decide) (by decide))⟩

def elevenPublishes : Call Script Bool :=
  ⟨.yield 1000, ⟨(List.range 11).flatMap fun i => [52, 5, 0, 1, 116, 0, .ofNat (i + 1)], [], []⟩,
    List.replicate 60 false, []⟩

def disconnectCall : Call Script Bool := ⟨.disconnect, ⟨[], [], []⟩, List.replicate 4 false, []⟩

def connectCleanCall (stream : Bytes) : Call Script Bool :=
  ⟨.connect { ConnectData.initializer with keepAliveInterval := 0, cleansession := true },
    ⟨[32, 2, 0, 0] ++ stream, [], []⟩, List.replicate 6 false, []⟩

theorem incoming_qos2_dropped_acknowledged :
    let cfg := Config.standard .qos2
    let y := System.start cfg 30000 OracleTimer.oracle
    let z := System.run cfg y [connectCall, repeatedPublish, disconnectCall, connectCleanCall []]
    (OneSession cfg y [connectCall, elevenPublishes] ∧
        (∀ p ∈ heard (y.since cfg [connectCall, elevenPublishes]), wellFormed p = true) ∧
        ¬NoLoss (y.since cfg [connectCall, elevenPublishes])) ∧
      OneSession cfg z [repeatedPublish] ∧
        (∀ p ∈ heard (z.since cfg [repeatedPublish]), wellFormed p = true) ∧
        ¬NoLoss (z.since cfg [repeatedPublish]) := by
  refine ⟨⟨⟨by decide, by decide⟩, by decide, ?_⟩, ⟨by decide, by decide⟩, by decide, ?_⟩
  · exact not_noLoss (by decide : 0 < 11) (by decide) (by decide) (by decide)
  · exact not_noLoss (by decide : 0 < 7) (by decide) (by decide) (by decide)

end MbedMqtt
