import MbedMqtt.Network.Script
import MbedMqtt.SNClient.Commands
import MbedMqtt.SNClient.Wait

namespace MbedMqtt.MQTTSN

open MQTTSNGW

variable {σ τ κ : Type}

-- the fields of a SUBACK that holds them all
def subackFields (packet : Bytes) : Option SubackFields :=
  match packet.drop (lengthFieldSize (memoryOf 0 packet)).toNat with
  | type :: flags :: t₁ :: t₂ :: m₁ :: m₂ :: returncode :: _ =>
      if type = MQTTSN_SUBACK then
        some ⟨flagsQoS flags, 256 * t₁.toNat + t₂.toNat, 256 * m₁.toNat + m₂.toNat, returncode⟩
      else none
  | _ => none

def Grants (qos : QoS) (packet : Bytes) : Prop :=
  ∃ fields ∈ subackFields packet,
    fields.returncode.toNat = MQTTSN_RC_ACCEPTED ∧ fields.qos = qos.toInt

instance (qos : QoS) (packet : Bytes) : Decidable (Grants qos packet) :=
  decidable_of_iff
    ((subackFields packet).any fun fields =>
      fields.returncode.toNat = MQTTSN_RC_ACCEPTED ∧ fields.qos = qos.toInt)
    (by simp [Grants, Option.any_eq_true])

def Granted (qos : QoS) (packets : List (UInt8 × Bytes)) : Prop := ∃ p ∈ packets, Grants qos p.2

instance (qos : QoS) (packets : List (UInt8 × Bytes)) : Decidable (Granted qos packets) :=
  inferInstanceAs (Decidable (∃ p ∈ packets, _))

-- a slot that was free now holds the topic and the handler
def Stored (before after : List MessageHandlers) (topicFilter : Nat)
    (messageHandler : Option Nat) : Prop :=
  ∃ i slot, before[i]? = some slot ∧ slot.topicFilter = none ∧
    after = before.set i ⟨some topicFilter, messageHandler⟩

theorem subackFields_drop {packet : Bytes} {fields : SubackFields}
    (h : subackFields packet = some fields) :
    ∃ flags t₁ t₂ m₁ m₂ returncode rest,
      packet.drop (lengthFieldSize (memoryOf 0 packet)).toNat =
        MQTTSN_SUBACK :: flags :: t₁ :: t₂ :: m₁ :: m₂ :: returncode :: rest ∧
      fields = ⟨flagsQoS flags, 256 * t₁.toNat + t₂.toNat, 256 * m₁.toNat + m₂.toNat, returncode⟩ := by
  unfold subackFields at h
  split at h
  · rename_i type flags t₁ t₂ m₁ m₂ returncode rest hdrop
    split_ifs at h with htype
    subst htype
    exact ⟨flags, t₁, t₂, m₁, m₂, returncode, rest, hdrop, (Option.some.inj h).symm⟩
  · cases h

theorem laidOut_drop {mem : Int → UInt8} {packet : Bytes} {n : Int} (h : LaidOut mem 0 packet)
    (h0 : 0 ≤ n) (hn : n ≤ packet.length) : LaidOut mem n (packet.drop n.toNat) := by
  rw [← List.take_append_drop n.toNat packet] at h
  obtain ⟨-, hrest⟩ := LaidOut.append.mp h
  have hlen : (0 : Int) + (packet.take n.toNat).length = n := by
    rw [List.length_take]
    omega
  rwa [hlen] at hrest

theorem grants_type {type : UInt8} {qos : QoS} {packet : Bytes} (htyped : TypedBy type packet)
    (h : Grants qos packet) : type = MQTTSN_SUBACK := by
  obtain ⟨fields, hfields, -⟩ := h
  obtain ⟨flags, t₁, t₂, m₁, m₂, returncode, rest, hdrop, -⟩ := subackFields_drop hfields
  have hpos := lengthFieldSize_pos (memoryOf 0 packet)
  have hlen := congrArg List.length hdrop
  simp only [List.length_drop, List.length_cons] at hlen
  have hlaid := laidOut_drop (laidOut_memoryOf 0 packet) hpos.le (by omega)
  rw [hdrop] at hlaid
  rw [← htyped (by omega)]
  exact (LaidOut.cons.mp hlaid).1

theorem suback_accepted {cfg : Config} {c : Client τ} {type : UInt8} {packet : Bytes}
    {fields : SubackFields} (h : Arrived cfg c type packet) (hfields : subackFields packet = some fields) :
    ((deserializeSuback cfg.maxPacketSize).value (c.memory cfg)).accepted = some fields := by
  obtain ⟨flags, t₁, t₂, m₁, m₂, returncode, rest, hdrop, rfl⟩ := subackFields_drop hfields
  have hpos := lengthFieldSize_pos (c.memory cfg)
  have hlaid := laidOut_drop h.laidOut hpos.le h.lenlen
  rw [h.lengthFieldSize_eq, hdrop, ← h.lengthFieldSize_eq] at hlaid
  simp only [LaidOut.cons, Int.add_assoc, Int.reduceAdd] at hlaid
  obtain ⟨htype, hflags, ht₁, ht₂, hm₁, hm₂, hreturncode, -⟩ := hlaid
  have hsize := h.size
  have hadmits : (packet.length : Int) - lengthFieldSize (c.memory cfg) ≤ cfg.maxPacketSize := by
    omega
  have hexpected : isType MQTTSN_SUBACK MQTTSN_SUBACK = true := by decide
  simp only [deserializeSuback, deserialize, Fetch.value_bind, h.decodes, withinBuflen, hadmits,
    decide_true, if_true, Fetch.value_item, htype, hexpected, readSuback, readTopicAck, readInt,
    Int.add_assoc, Int.reduceAdd, hflags, ht₁, ht₂, hm₁, hm₂, hreturncode, Fetch.value_pure]
  rfl

section Answer

variable {cfg : Config} {r : Outcome σ τ κ} {topicFilter : Nat} {qos : QoS}
variable {messageHandler : Option Nat} {packet : Bytes}

theorem subscribeAck_world : (subscribeAck cfg r topicFilter qos messageHandler).world = r.world := by
  unfold subscribeAck
  split_ifs
  · cases ((deserializeSuback cfg.maxPacketSize).value (r.client.memory cfg)).accepted with
    | none => rfl
    | some fields =>
      simp only
      split_ifs <;> rfl
  · rfl

theorem subscribeAck_success (hrc : r.rc = MQTTSN_SUBACK.toNat) :
    (subscribeAck cfg r topicFilter qos messageHandler).rc = SUCCESS := by
  rw [subscribeAck, if_pos hrc]
  cases ((deserializeSuback cfg.maxPacketSize).value (r.client.memory cfg)).accepted with
  | none => rfl
  | some fields =>
    simp only
    split_ifs <;> rfl

theorem subscribeAck_missed (hrc : r.rc ≠ MQTTSN_SUBACK.toNat) :
    subscribeAck cfg r topicFilter qos messageHandler = { r with rc := FAILURE } := by
  rw [subscribeAck, if_neg hrc]

theorem subscribeAck_attaches (hrc : r.rc = MQTTSN_SUBACK.toNat)
    (harrived : Arrived cfg r.client MQTTSN_SUBACK packet) (h : Grants qos packet) :
    (subscribeAck cfg r topicFilter qos messageHandler).client.messageHandlers =
      attach r.client.messageHandlers topicFilter messageHandler := by
  obtain ⟨fields, hfields, haccepted, hqos⟩ := h
  rw [subscribeAck, if_pos hrc, suback_accepted harrived hfields]
  simp only [hqos, haccepted, ne_eq, not_true_eq_false, if_false, if_true, Session.setTopicId]

end Answer

section Slots

variable {before : List MessageHandlers} {topicFilter : Nat} {messageHandler : Option Nat}

theorem attach_stored {s : Session} (hfree : s.freeHandler = true) :
    Stored s.messageHandlers (attach s.messageHandlers topicFilter messageHandler) topicFilter
      messageHandler := by
  have hlt := List.findIdx_lt_length_of_exists (List.any_eq_true.mp hfree)
  exact ⟨_, _, List.getElem?_eq_getElem hlt, of_decide_eq_true (List.findIdx_getElem (w := hlt)),
    if_pos hlt⟩

theorem not_stored_self : ¬Stored before before topicFilter messageHandler := by
  rintro ⟨i, slot, hslot, hnone, hset⟩
  have hi : i < before.length := (List.getElem?_eq_some_iff.mp hslot).1
  have hnew := List.getElem?_set_self (a := ⟨some topicFilter, messageHandler⟩) hi
  rw [← hset, hslot] at hnew
  obtain rfl := Option.some.inj hnew
  cases hnone

end Slots

inductive Ends (c : Client τ) (topicFilter : Nat) (qos : QoS) (messageHandler : Option Nat)
    (packets : List (UInt8 × Bytes)) (r : Outcome σ τ κ) : Prop
  | failed (hrc : r.rc ≠ SUCCESS) (hslots : r.client.messageHandlers = c.messageHandlers)
      (hnone : ∀ p ∈ packets, p.1 ≠ MQTTSN_SUBACK)
  | answered {pre : List (UInt8 × Bytes)} {packet : Bytes} (hrc : r.rc = SUCCESS)
      (hfree : c.freeHandler = true) (hpackets : packets = pre ++ [(MQTTSN_SUBACK, packet)])
      (hpre : ∀ p ∈ pre, p.1 ≠ MQTTSN_SUBACK)
      (hslots : Grants qos packet →
        r.client.messageHandlers = attach c.messageHandlers topicFilter messageHandler)

structure Subscribes (c : Client τ) (w : World σ κ) (topicFilter : Nat) (qos : QoS)
    (messageHandler : Option Nat) (r : Outcome σ τ κ) (ev : List Event) : Prop where
  log : r.world.log = w.log ++ ev
  typed : ∀ p ∈ heard ev, TypedBy p.1 p.2
  ends : Ends c topicFilter qos messageHandler (heard ev) r

section Call

variable {cfg : Config} {c c' : Client τ} {w w' : World σ κ} {topicFilter : Nat} {qos : QoS}
variable {messageHandler : Option Nat} {r : Outcome σ τ κ} {ev : List Event}

theorem Subscribes.unread (hlog : r.world.log = w.log ++ ev) (hquiet : heard ev = [])
    (hrc : r.rc ≠ SUCCESS) (hslots : r.client.messageHandlers = c.messageHandlers) :
    Subscribes c w topicFilter qos messageHandler r ev :=
  ⟨hlog, by simp [hquiet], .failed hrc hslots (by simp [hquiet])⟩

theorem Subscribes.disconnect (h : Subscribes c w topicFilter qos messageHandler r ev) :
    Subscribes c w topicFilter qos messageHandler (disconnectOnFailure r) ev := by
  obtain ⟨hlog, htyped, hends⟩ := h
  unfold disconnectOnFailure
  split_ifs with hrc
  · cases hends with
    | failed hfailed hslots hnone => exact ⟨hlog, htyped, .failed hfailed hslots hnone⟩
    | answered hok _ _ _ _ => exact absurd hok hrc
  · exact ⟨hlog, htyped, hends⟩

variable [DatagramNetwork σ] [Timer τ κ]

theorem sent_subscribes (hfree : c.freeHandler = true)
    (hslots : c'.messageHandlers = c.messageHandlers) (hw : w'.log = w.log) (len : Nat)
    (timer : τ) :
    let sent := sendPacket c' w' len timer
    ∃ ev, Subscribes c w topicFilter qos messageHandler
      (if sent.rc ≠ SUCCESS then sent
      else subscribeAck cfg (waitfor cfg sent.client sent.world MQTTSN_SUBACK.toNat timer) topicFilter
        qos messageHandler) ev := by
  obtain ⟨⟨t, hclient⟩, ⟨ev, hlog, hquiet⟩, -⟩ := sendPacket_sends c' w' len timer
  have hsent : (sendPacket c' w' len timer).client.messageHandlers = c.messageHandlers := by
    rw [hclient]
    exact hslots
  simp only
  split_ifs with hfailed
  · exact ⟨ev, .unread (by rw [hlog, hw]) hquiet hfailed hsent⟩
  obtain ⟨ev', hwait, hsession, htyped, hresult⟩ := waitfor_wait cfg (sendPacket c' w' len timer).client
    (sendPacket c' w' len timer).world (.inr (.inr (.inl rfl))) timer
  generalize waitfor cfg (sendPacket c' w' len timer).client (sendPacket c' w' len timer).world
    MQTTSN_SUBACK.toNat timer = r at *
  have hheard : heard (ev ++ ev') = heard ev' := by rw [heard_append, hquiet, List.nil_append]
  have hkept : r.client.messageHandlers = c.messageHandlers :=
    (congrArg Session.messageHandlers hsession).trans hsent
  refine ⟨ev ++ ev', ?_, hheard ▸ htyped, hheard ▸ ?_⟩
  · rw [subscribeAck_world, hwait, hlog, hw, List.append_assoc]
  · rcases hresult with ⟨hmissed, hnone⟩ | ⟨hfound, pre, packet, hpackets, hpre, harrived⟩
    · rw [subscribeAck_missed hmissed]
      exact .failed (by simp) hkept hnone
    · refine .answered (subscribeAck_success hfound) hfree hpackets hpre fun hgrants => ?_
      rw [subscribeAck_attaches hfound harrived hgrants, hkept]

theorem subscribe_subscribes (cfg : Config) (hconnected : c.isconnected = true) (w : World σ κ)
    (topicFilter : Nat) (qos : QoS) (messageHandler : Option Nat) :
    ∃ ev, Subscribes c w topicFilter qos messageHandler
      (subscribe cfg c w topicFilter qos messageHandler) ev := by
  suffices hsend : ∃ ev, Subscribes c w topicFilter qos messageHandler
      (subscribeSend cfg c w.tick topicFilter qos messageHandler
        (w.countdownMs c.commandTimeoutMs)) ev by
    obtain ⟨ev, h⟩ := hsend
    refine ⟨ev, ?_⟩
    simp only [subscribe, hconnected, not_true_eq_false, if_false]
    exact h.disconnect
  unfold subscribeSend
  cases hfree : c.freeHandler with
  | false => exact ⟨[], .unread (by simp) rfl (by simp) rfl⟩
  | true =>
    simp only [not_true_eq_false, if_false]
    split
    · exact ⟨[], .unread (by simp) rfl (by simp) rfl⟩
    · refine sent_subscribes hfree ?_ w.tick_log _ _
      rfl

end Call

structure Honest (c : Client τ) (w : World σ κ) (topicFilter : Nat) (qos : QoS)
    (messageHandler : Option Nat) (r : Outcome σ τ κ) : Prop where
  success : r.rc = SUCCESS ↔ Granted qos (heard (w.since r.world))
  handler : Stored c.messageHandlers r.client.messageHandlers topicFilter messageHandler ↔
    Granted qos (heard (w.since r.world))

theorem not_granted (qos : QoS) {packets : List (UInt8 × Bytes)}
    (htyped : ∀ p ∈ packets, TypedBy p.1 p.2) (hnone : ∀ p ∈ packets, p.1 ≠ MQTTSN_SUBACK) :
    ¬Granted qos packets := by
  rintro ⟨p, hp, hgrants⟩
  exact hnone p hp (grants_type (htyped p hp) hgrants)

section Last

variable {pre : List (UInt8 × Bytes)} {packet : Bytes} (qos : QoS)

theorem granted_last (htyped : ∀ p ∈ pre ++ [(MQTTSN_SUBACK, packet)], TypedBy p.1 p.2)
    (hpre : ∀ p ∈ pre, p.1 ≠ MQTTSN_SUBACK) :
    Granted qos (pre ++ [(MQTTSN_SUBACK, packet)]) ↔ Grants qos packet := by
  obtain ⟨htypedPre, -⟩ := List.forall_mem_append.mp htyped
  constructor
  · rintro ⟨p, hp, hgrants⟩
    rcases List.mem_append.mp hp with hp | hp
    · exact absurd ⟨p, hp, hgrants⟩ (not_granted qos htypedPre hpre)
    · obtain rfl := List.mem_singleton.mp hp
      exact hgrants
  · exact fun hgrants => ⟨_, List.mem_append_right pre (List.mem_singleton_self _), hgrants⟩

theorem all_grant_last (hpre : ∀ p ∈ pre, p.1 ≠ MQTTSN_SUBACK) :
    (∀ p ∈ pre ++ [(MQTTSN_SUBACK, packet)], p.1 = MQTTSN_SUBACK → Grants qos p.2) ↔
      Grants qos packet := by
  rw [List.forall_mem_append, List.forall_mem_singleton]
  constructor
  · exact fun h => h.2 rfl
  · exact fun h => ⟨fun p hp htype => absurd htype (hpre p hp), fun _ => h⟩

end Last

variable [DatagramNetwork σ] [Timer τ κ]

theorem subscribe_honest_iff (cfg : Config) (c : Client τ) (w : World σ κ) (topicFilter : Nat)
    (qos : QoS) (messageHandler : Option Nat) (hconnected : c.isconnected = true) :
    let r := subscribe cfg c w topicFilter qos messageHandler
    Honest c w topicFilter qos messageHandler r ↔
      ∀ p ∈ heard (w.since r.world), p.1 = MQTTSN_SUBACK → Grants qos p.2 := by
  obtain ⟨ev, hlog, htyped, hends⟩ :=
    subscribe_subscribes cfg hconnected w topicFilter qos messageHandler
  simp only
  generalize subscribe cfg c w topicFilter qos messageHandler = r at *
  have hsince : w.since r.world = ev := World.since_append hlog
  cases hends with
  | failed hrc hslots hnone =>
    have hnot := not_granted qos htyped hnone
    refine iff_of_true ⟨?_, ?_⟩ ?_
    · rw [hsince]
      exact iff_of_false hrc hnot
    · rw [hsince, hslots]
      exact iff_of_false not_stored_self hnot
    · rw [hsince]
      exact fun p hp htype => absurd htype (hnone p hp)
  | @answered pre packet hrc hfree hpackets hpre hslots =>
    rw [hpackets] at htyped
    have hgranted := granted_last qos htyped hpre
    rw [hsince, hpackets, all_grant_last qos hpre]
    constructor
    · intro hhonest
      have hsuccess := hhonest.success.mp hrc
      rwa [hsince, hpackets, hgranted] at hsuccess
    · intro hgrants
      refine ⟨?_, ?_⟩
      · rw [hsince, hpackets, hgranted]
        exact iff_of_true hrc hgrants
      · rw [hsince, hpackets, hgranted, hslots hgrants]
        exact iff_of_true (attach_stored hfree) hgrants

def subackPacket (qos : QoS) (returncode : UInt8) : Bytes :=
  [8, MQTTSN_SUBACK, flagsByte 0 0 0 0 qos.toInt 0, 0, 7, 0, 1, returncode]

def subscribing : Client OracleTimer :=
  { Client.construct (.standard .qos1) 30000 .oracle 0 true with
    isconnected := true
    topics := fun _ => ⟨.predefined, .id 7⟩ }

theorem subscribe_honest_granted :
    let w := World.answered [subackPacket .QOS1 0] 9
    Honest subscribing w 0 .QOS1 (some 1)
      (subscribe (.standard .qos1) subscribing w 0 .QOS1 (some 1)) :=
  (subscribe_honest_iff (.standard .qos1) subscribing (.answered [subackPacket .QOS1 0] 9) 0 .QOS1
    (some 1) rfl).mpr (by decide)

theorem rejected_suback_not_honest :
    let w := World.answered [subackPacket .QOS1 3] 9
    let r := subscribe (.standard .qos1) subscribing w 0 .QOS1 (some 1)
    heard (w.since r.world) = [(MQTTSN_SUBACK, subackPacket .QOS1 3)] ∧ r.rc = SUCCESS ∧
      ¬Honest subscribing w 0 .QOS1 (some 1) r := by
  refine ⟨by decide, by decide, fun h => ?_⟩
  exact absurd (h.success.mp (by decide)) (by decide)

end MbedMqtt.MQTTSN
