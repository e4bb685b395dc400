import MbedMqtt.Contract.SNPublishAck
import MbedMqtt.SNClient.Run

namespace MbedMqtt.MQTTSN

open MQTTSNGW

-- with QoS 1 the PUBACK is waited for, and none is ever taken
inductive Publishes (awaits : Prop) (packet : Bytes) : Int → List Event → Prop
  | unsent : Publishes awaits packet FAILURE [.unsent packet]
  | sent (h : ¬awaits) : Publishes awaits packet SUCCESS [.sent packet]
  | awaited {ev : List Event} (h : awaits) : Publishes awaits packet FAILURE (.sent packet :: ev)

theorem Publishes.failed {awaits : Prop} {packet : Bytes} {rc : Int} {ev : List Event}
    (h : Publishes awaits packet rc ev) (hawaits : awaits) : rc = FAILURE := by
  cases h with
  | unsent => rfl
  | sent hnot => exact absurd hawaits hnot
  | awaited _ => rfl

-- the CONNACK that ends the wait; a return code behind its end is what the buffer held before
def Accepted (ev : List Event) : Prop :=
  ∃ pre packet, heard ev = pre ++ [(MQTTSN_CONNACK, packet)] ∧ (∀ p ∈ pre, p.1 ≠ MQTTSN_CONNACK) ∧
    (lengthFieldSize (memoryOf 0 packet) + 1 < packet.length →
      memoryOf 0 packet (lengthFieldSize (memoryOf 0 packet) + 1) = 0)

def Slot.packet (slot : Slot) : Bytes := slot.pubbuf.take slot.inflightLen

structure Slot.Loaded (slot : Slot) : Prop where
  pubrel : slot.pubrel = false
  held : slot.inflightLen ≤ slot.pubbuf.length

def Slot.resends (cfg : Config) (slot : Slot) : Bool := cfg.qos1 && decide (0 < slot.inflightMsgid)

theorem Slot.resends_iff {cfg : Config} {slot : Slot} :
    slot.resends cfg = true ↔ cfg.qos1 = true ∧ 0 < slot.inflightMsgid := by
  rw [Slot.resends, Bool.and_eq_true, decide_eq_true_eq]

-- nothing is read after the first CONNACK
def UpToConnack (ev : List Event) : Prop :=
  (∀ p ∈ heard ev, p.1 ≠ MQTTSN_CONNACK) ∨
    ∃ pre packet, heard ev = pre ++ [(MQTTSN_CONNACK, packet)] ∧ ∀ p ∈ pre, p.1 ≠ MQTTSN_CONNACK

inductive Dials (cfg : Config) (slot : Slot) (packet : Bytes) (waits : List Event → Prop) :
    Int → List Event → Prop
  | unfit : Dials cfg slot packet waits FAILURE []
  | unsent : Dials cfg slot packet waits FAILURE [.unsent packet]
  | answered {rc : Int} {ev : List Event} (wait : waits ev) (empty : slot.resends cfg = false)
      (code : rc = SUCCESS → Accepted ev) : Dials cfg slot packet waits rc (.sent packet :: ev)
  | resent {rc : Int} {ev again : List Event} (wait : waits ev) (full : slot.resends cfg = true)
      (publishes : Publishes (cfg.qos1 = true ∧ slot.inflightQoS = .QOS1) slot.packet rc again) :
      Dials cfg slot packet waits rc (.sent packet :: (ev ++ again))

theorem Dials.imp {cfg : Config} {slot : Slot} {packet : Bytes} {waits waits' : List Event → Prop}
    {rc : Int} {ev : List Event} (h : Dials cfg slot packet waits rc ev)
    (himp : ∀ ev, waits ev → waits' ev) : Dials cfg slot packet waits' rc ev := by
  cases h with
  | unfit => exact .unfit
  | unsent => exact .unsent
  | answered hwait hempty hcode => exact .answered (himp _ hwait) hempty hcode
  | resent hwait hfull hpublishes => exact .resent (himp _ hwait) hfull hpublishes

variable {σ τ κ : Type}

section Publish

theorem publishAck_world (cfg : Config) (r : Outcome σ τ κ) : (publishAck cfg r).world = r.world := by
  unfold publishAck
  split
  · split
    · rfl
    · split <;> rfl
  · rfl

variable [DatagramNetwork σ] [Timer τ κ]

theorem publishLen_publishes (cfg : Config) (c : Client τ) (w : World σ κ) (len : Nat) (timer : τ)
    (qos : QoS) :
    (publishLen cfg c w len timer qos).client.toSession =
      c.toSession.kept (publishLen cfg c w len timer qos).rc ∧
    ∃ ev, (publishLen cfg c w len timer qos).world.log = w.log ++ ev ∧
      Publishes (cfg.qos1 = true ∧ qos = .QOS1) (c.sendbuf.take len)
        (publishLen cfg c w len timer qos).rc ev := by
  have hsession := sendPacket_session c w len timer
  obtain ⟨ev, hlog, hattempt⟩ := sendPacket_attempt c w len timer
  simp only [publishLen, disconnectOnFailure_session, disconnectOnFailure_rc,
    disconnectOnFailure_world]
  split_ifs with hfailed hawaits
  · refine ⟨by rw [hsession], ev, hlog, ?_⟩
    generalize (sendPacket c w len timer).rc = rc at hfailed hattempt
    cases hattempt with
    | sent => exact absurd rfl hfailed
    | unsent => exact .unsent
  · obtain ⟨hrc, hack⟩ := publishAck_fails cfg (sendPacket c w len timer).client
      (sendPacket c w len timer).world timer
    obtain ⟨-, waited, hwait, -⟩ := waitfor_serves cfg (sendPacket c w len timer).client
      (sendPacket c w len timer).world MQTTSN_PUBACK.toNat timer
    rw [not_not.mp hfailed] at hattempt
    cases hattempt with
    | sent =>
      refine ⟨by rw [hack, hsession], .sent (c.sendbuf.take len) :: waited, ?_, ?_⟩
      · rw [publishAck_world, hwait, hlog, List.append_assoc]
        rfl
      · rw [hrc]
        exact .awaited hawaits
  · rw [not_not.mp hfailed] at hattempt ⊢
    cases hattempt with
    | sent => exact ⟨by rw [hsession, Session.kept_success], _, hlog, .sent hawaits⟩

end Publish

section Connect

variable {cfg : Config} {c : Client τ} {options : ConnectData}

theorem Session.kept_closed {s : Session} (h : s.isconnected = false) (rc : Int) : s.kept rc = s := by
  unfold Session.kept
  split
  · rfl
  · rw [← h]

theorem serialize_rc {buflen length : Nat} {type : UInt8} {body : Bytes}
    (h : 0 < (serialize buflen type length body).rc) :
    (serialize buflen type length body).rc = (serialize buflen type length body).written.length := by
  unfold serialize at h ⊢
  split at h
  · cases h
  · rename_i hfits
    rw [if_neg hfits]

theorem connack_code {mem : Int → UInt8} {uninitialised buflen : Int} {code : UInt8} {lenlen value : Int}
    (hdecode : (packetDecode buflen uninitialised).value mem = ⟨lenlen, value⟩)
    (h : ((deserializeConnack uninitialised buflen).value mem).fields = some code) :
    mem (lenlen + 1) = code := by
  cases hadmits : admitsConnack ⟨lenlen, value⟩ buflen with
  | false => simp [deserializeConnack, deserialize, hdecode, hadmits] at h
  | true =>
    cases htype : isType MQTTSN_CONNACK (mem lenlen) with
    | false => simp [deserializeConnack, deserialize, hdecode, hadmits, htype] at h
    | true => simpa [deserializeConnack, deserialize, hdecode, hadmits, htype, readConnack] using h

theorem connectAck_success {r : Outcome σ τ κ} (h : (connectAck cfg r).rc = SUCCESS) :
    r.rc = MQTTSN_CONNACK.toNat ∧
      ((deserializeConnack r.world.uninitialised cfg.maxPacketSize).value
        (r.client.memory cfg)).fields = some 0 := by
  unfold connectAck at h
  split at h
  · rename_i hconnack
    refine ⟨hconnack, ?_⟩
    simp only at h
    split at h
    · cases hfields : ((deserializeConnack r.world.uninitialised cfg.maxPacketSize).value
        (r.client.memory cfg)).fields with
      | none =>
        rw [hfields] at h
        cases h
      | some code =>
        rw [hfields] at h
        have hcode : code.toNat = 0 := Int.ofNat.inj h
        exact congrArg some (UInt8.toNat_inj.mp hcode)
    · cases h
  · cases h

theorem connectAck_client (cfg : Config) (r : Outcome σ τ κ) :
    (connectAck cfg r).client = r.client := by
  unfold connectAck
  split <;> rfl

theorem connectAck_log (cfg : Config) (r : Outcome σ τ κ) :
    (connectAck cfg r).world.log = r.world.log := by
  unfold connectAck
  split <;> rfl

theorem Arrived.accepted {c : Client τ} {packet : Bytes} {uninitialised : Int}
    (h : Arrived cfg c MQTTSN_CONNACK packet)
    (hfields : ((deserializeConnack uninitialised cfg.maxPacketSize).value (c.memory cfg)).fields =
      some 0)
    (hinside : lengthFieldSize (memoryOf 0 packet) + 1 < packet.length) :
    memoryOf 0 packet (lengthFieldSize (memoryOf 0 packet) + 1) = 0 := by
  have hsize := lengthFieldSize_pos (memoryOf 0 packet)
  have hle := h.lenlen
  have hdecode : (packetDecode cfg.maxPacketSize uninitialised).value (c.memory cfg) =
      ⟨lengthFieldSize (c.memory cfg), lengthField (c.memory cfg)⟩ :=
    packetDecode_value (hle.trans (Int.ofNat_le.mpr h.size))
  have hcode := connack_code hdecode hfields
  rw [h.lengthFieldSize_eq, laidOut_agree h.laidOut (by omega) hinside] at hcode
  exact hcode

variable [DatagramNetwork σ] [Timer τ κ]

theorem waited_accepted (cfg : Config) (c : Client τ) (w : World σ κ) (timer : τ) :
    ∃ ev, (waitfor cfg c w MQTTSN_CONNACK.toNat timer).world.log = w.log ++ ev ∧ UpToConnack ev ∧
      ((connectAck cfg (waitfor cfg c w MQTTSN_CONNACK.toNat timer)).rc = SUCCESS → Accepted ev) := by
  obtain ⟨ev, hlog, -, -, hresult⟩ := waitfor_wait cfg c w (.inl rfl) timer
  refine ⟨ev, hlog, ?_, fun hrc => ?_⟩
  · rcases hresult with ⟨-, hnone⟩ | ⟨-, pre, packet, hheard, hpre, -⟩
    · exact .inl hnone
    · exact .inr ⟨pre, packet, hheard, hpre⟩
  obtain ⟨hconnack, hfields⟩ := connectAck_success hrc
  rcases hresult with ⟨hmissed, -⟩ | ⟨-, pre, packet, hheard, hpre, harrived⟩
  · exact absurd hconnack hmissed
  · exact ⟨pre, packet, hheard, hpre, fun hinside => harrived.accepted hfields hinside⟩

theorem resendPublish_publishes (cfg : Config) {c : Client τ} (hclosed : c.isconnected = false)
    (hloaded : c.slot.Loaded) (w : World σ κ) (timer : τ) :
    (resendPublish cfg c w timer).client.toSession = c.toSession ∧
    ∃ ev, (resendPublish cfg c w timer).world.log = w.log ++ ev ∧
      Publishes (cfg.qos1 = true ∧ c.inflightQoS = .QOS1) c.slot.packet
        (resendPublish cfg c w timer).rc ev := by
  obtain ⟨hsession, ev, hlog, hpublishes⟩ := publishLen_publishes cfg (c.fillSendbuf c.pubbuf) w
    c.inflightLen timer c.inflightQoS
  have hpacket : (c.fillSendbuf c.pubbuf).sendbuf.take c.inflightLen = c.slot.packet := by
    simp only [Client.fillSendbuf, store_zero]
    exact List.take_append_of_le_length hloaded.held
  rw [hpacket] at hpublishes
  exact ⟨hsession.trans (Session.kept_closed hclosed _), ev, hlog, hpublishes⟩

omit [DatagramNetwork σ] in
theorem countReceived_kept (r : Outcome σ τ κ) :
    (countReceived r).client.toSession = r.client.toSession ∧
      (countReceived r).world.log = r.world.log := by
  unfold countReceived
  split
  · exact ⟨rfl, rfl⟩
  · exact ⟨rfl, rfl⟩

def waitConnack (cfg : Config) (r : Outcome σ τ κ) (timer : τ) : Outcome σ τ κ :=
  waitfor cfg (countReceived r).client (countReceived r).world MQTTSN_CONNACK.toNat timer

-- a `connect` that gets its CONNECT out, up to the end of its wait for the CONNACK
def connackWait (cfg : Config) (c : Client τ) (w : World σ κ) (options : ConnectData) (timer : τ) :
    Option (Outcome σ τ κ) :=
  let s := serializeConnect cfg.maxPacketSize options
  let r := sendPacket ((c.opened options).fillSendbuf s.written) w s.rc.toNat timer
  if s.rc ≤ 0 ∨ r.rc ≠ SUCCESS then none else some (waitConnack cfg r timer)

structure AwaitsConnack (cfg : Config) (c : Client τ) (w : World σ κ) (options : ConnectData)
    (timer : τ) (ev : List Event) : Prop where
  log : ∃ r ∈ connackWait cfg c w options timer,
    r.world.log = w.log ++ .sent (serializeConnect cfg.maxPacketSize options).written :: ev
  upToConnack : UpToConnack ev

theorem connackWait_awaits (c : Client τ) (w : World σ κ) (timer : τ)
    (hfit : ¬(serializeConnect cfg.maxPacketSize options).rc ≤ 0) :
    let s := serializeConnect cfg.maxPacketSize options
    let r := sendPacket ((c.opened options).fillSendbuf s.written) w s.rc.toNat timer
    ∀ ev, r.rc = SUCCESS →
      (waitConnack cfg r timer).world.log = w.log ++ .sent s.written :: ev →
      UpToConnack ev → AwaitsConnack cfg c w options timer ev := by
  intro s r ev hsent hlog hupTo
  refine ⟨⟨waitConnack cfg r timer, ?_, hlog⟩, hupTo⟩
  exact if_neg (not_or.mpr ⟨hfit, not_not.mpr hsent⟩)

theorem connectWait_dials (cfg : Config) {r : Outcome σ τ κ} (hclosed : r.client.isconnected = false)
    (hloaded : r.client.slot.Loaded) (timer : τ) (packet : Bytes) :
    (connectWait cfg r timer).client.toSession = r.client.toSession ∧
    ∃ ev, (connectWait cfg r timer).world.log = r.world.log ++ ev ∧
      Dials cfg r.client.slot packet
        (fun ev => (waitConnack cfg r timer).world.log = r.world.log ++ ev ∧ UpToConnack ev)
        (connectWait cfg r timer).rc (.sent packet :: ev) := by
  obtain ⟨hcount, hcountLog⟩ := countReceived_kept r
  have hwaited := (waitfor_serves cfg (countReceived r).client (countReceived r).world
    MQTTSN_CONNACK.toNat timer).session
  obtain ⟨ev, hwait, hupTo, haccepted⟩ := waited_accepted cfg (countReceived r).client
    (countReceived r).world timer
  rw [hcountLog] at hwait
  have hlog := (connectAck_log cfg _).trans hwait
  have hsession : (connectAck cfg (waitfor cfg (countReceived r).client (countReceived r).world
      MQTTSN_CONNACK.toNat timer)).client.toSession = r.client.toSession := by
    rw [connectAck_client, hwaited, hcount]
  simp only [connectWait]
  generalize connectAck cfg (waitfor cfg (countReceived r).client (countReceived r).world
    MQTTSN_CONNACK.toNat timer) = acked at hlog haccepted hsession ⊢
  rw [← hsession] at hclosed hloaded ⊢
  have hpubrel : acked.client.pubrel = false := hloaded.pubrel
  simp only [connectResend, hpubrel, Bool.false_eq_true, and_false, if_false]
  split_ifs with hslot
  · obtain ⟨hkept, again, hagain, hpublishes⟩ :=
      resendPublish_publishes cfg hclosed hloaded acked.world timer
    refine ⟨hkept, ev ++ again, ?_,
      .resent ⟨hwait, hupTo⟩ (Slot.resends_iff.mpr hslot) hpublishes⟩
    rw [hagain, hlog, List.append_assoc]
  · exact ⟨rfl, ev, hlog,
      .answered ⟨hwait, hupTo⟩ (Bool.eq_false_iff.mpr (mt Slot.resends_iff.mp hslot)) haccepted⟩

theorem connectSend_dials (cfg : Config) {c : Client τ} (hclosed : c.isconnected = false)
    (hloaded : c.slot.Loaded) (w : World σ κ) (options : ConnectData) (timer : τ) :
    (connectSend cfg c w options timer).client.toSession = c.toSession.opened options ∧
    ∃ ev, (connectSend cfg c w options timer).world.log = w.log ++ ev ∧
      Dials cfg c.slot (serializeConnect cfg.maxPacketSize options).written
        (AwaitsConnack cfg c w options timer) (connectSend cfg c w options timer).rc ev := by
  by_cases hunfit : (serializeConnect cfg.maxPacketSize options).rc ≤ 0
  · simp only [connectSend, if_pos hunfit]
    exact ⟨rfl, [], (List.append_nil _).symm, .unfit⟩
  have hrc : (serializeConnect cfg.maxPacketSize options).rc.toNat =
      (serializeConnect cfg.maxPacketSize options).written.length := by
    rw [serializeConnect, serialize_rc (not_le.mp hunfit), Int.toNat_natCast]
  have hawaits := connackWait_awaits c w timer hunfit
  simp only [connectSend, if_neg hunfit, hrc] at hawaits ⊢
  generalize AwaitsConnack cfg c w options timer = awaits at hawaits ⊢
  generalize (serializeConnect cfg.maxPacketSize options).written = packet at hawaits ⊢
  obtain ⟨hsession, ev, hlog, hattempt⟩ := sendPacket_fill (c.opened options) w packet timer
  generalize sendPacket ((c.opened options).fillSendbuf packet) w packet.length timer = r
    at hawaits hsession hlog hattempt ⊢
  split
  · rename_i hfailed
    refine ⟨hsession, ev, hlog, ?_⟩
    generalize r.rc = rc at hfailed hattempt ⊢
    cases hattempt with
    | sent => exact absurd rfl hfailed
    | unsent => exact .unsent
  · rename_i hsent
    have hsuccess := not_not.mp hsent
    rw [hsuccess] at hattempt
    cases hattempt with
    | sent =>
      have hstart : r.client.toSession = c.toSession.opened options := hsession
      obtain ⟨hkept, ev, hwaited, hdials⟩ := connectWait_dials cfg (by rw [hstart]; exact hclosed)
        (by rw [hstart]; exact hloaded) timer packet
      rw [hstart] at hkept hdials
      refine ⟨hkept, _, by rw [hwaited, hlog, List.append_assoc]; rfl, hdials.imp ?_⟩
      rintro ev ⟨hwait, hupTo⟩
      refine hawaits ev hsuccess ?_ hupTo
      rw [hwait, hlog, List.append_assoc]
      rfl

theorem connect_dials (cfg : Config) {c : Client τ} (hclosed : c.isconnected = false)
    (hloaded : c.slot.Loaded) (w : World σ κ) (options : ConnectData) :
    (connect cfg c w options).client.toSession =
      { c.toSession.opened options with
        isconnected := decide ((connect cfg c w options).rc = SUCCESS) } ∧
    ∃ ev, (connect cfg c w options).world.log = w.log ++ ev ∧
      Dials cfg c.slot (serializeConnect cfg.maxPacketSize options).written
        (AwaitsConnack cfg c w.tick options (w.countdownMs c.commandTimeoutMs))
        (connect cfg c w options).rc ev := by
  obtain ⟨hsession, ev, hlog, hdials⟩ := connectSend_dials cfg hclosed hloaded w.tick options
    (w.countdownMs c.commandTimeoutMs)
  simp only [connect, hclosed, Bool.false_eq_true, if_false]
  generalize connectSend cfg c w.tick options (w.countdownMs c.commandTimeoutMs) = r
    at hsession hlog hdials ⊢
  unfold connectExit
  split
  · rename_i hrc
    refine ⟨?_, ev, hlog, hdials⟩
    simp only [hsession, hrc, decide_true]
  · rename_i hrc
    refine ⟨?_, ev, hlog, hdials⟩
    rw [hsession, decide_eq_false hrc, ← hclosed]
    rfl

end Connect

-- what a publish of a session that is not clean leaves for the next connect
structure StoredPublish where
  packet : Bytes
  msgid : Nat
  qos : QoS
  deriving DecidableEq, Repr

def Op.store (cfg : Config) (s : Session) : Op → Option StoredPublish
  | .publish topic payload id qos retained =>
      let publication := s.publication cfg topic payload id qos retained
      if s.isconnected && cfg.qos1 && !s.cleansession && decide (0 < publication.rc) then
        some ⟨publication.written, s.publishId cfg id qos, qos⟩
      else none
  | _ => none

def Op.isConnect : Op → Bool
  | .connect _ => true
  | _ => false

-- a call that leaves a connected client connected: no failure of `cycle` closes the session
def Op.keeps (cfg : Config) (s : Session) (rc : Int) : Op → Bool
  | .publish topic payload id qos retained =>
      decide (rc = SUCCESS) || decide ((s.publication cfg topic payload id qos retained).rc ≤ 0)
  | .disconnect _ => false
  | .other (.subscribe _ _ _) => decide (rc = SUCCESS)
  | .other (.unsubscribe _) => decide (rc = SUCCESS)
  | _ => true

structure Slot.Holds (slot : Slot) (stored : StoredPublish) : Prop where
  packet : slot.packet = stored.packet
  msgid : slot.inflightMsgid = stored.msgid
  qos : slot.inflightQoS = stored.qos
  loaded : slot.Loaded

structure Performed (cfg : Config) (s : Session) (op : Op) (rc : Int) (t : Session) : Prop where
  isconnected : t.isconnected =
    (s.isconnected && op.keeps cfg s rc || op.isConnect && decide (rc = SUCCESS))
  kept : op.store cfg s = none → t.slot = s.slot
  held : ∀ stored ∈ op.store cfg s, t.slot.Holds stored

namespace Performed

variable {cfg : Config} {s t : Session} {op : Op} {rc : Int}

theorem plain (hconnect : op.isConnect = false) (hstore : op.store cfg s = none)
    (hslot : t.slot = s.slot) (h : t.isconnected = (s.isconnected && op.keeps cfg s rc)) :
    Performed cfg s op rc t where
  isconnected := by rw [h, hconnect, Bool.false_and, Bool.or_false]
  kept _ := hslot
  held stored hstored := by
    rw [hstore] at hstored
    cases hstored

theorem storing {stored : StoredPublish} (hconnect : op.isConnect = false)
    (hstore : op.store cfg s = some stored) (hholds : t.slot.Holds stored)
    (h : t.isconnected = (s.isconnected && op.keeps cfg s rc)) : Performed cfg s op rc t where
  isconnected := by rw [h, hconnect, Bool.false_and, Bool.or_false]
  kept hnone := by
    rw [hstore] at hnone
    cases hnone
  held other hother := by
    obtain rfl := Option.some.inj (hstore.symm.trans hother)
    exact hholds

end Performed

section Perform

variable {cfg : Config} {s : Session}

theorem numberedFor_kept (cfg : Config) (s : Session) (qos : QoS) :
    (s.numberedFor cfg qos).slot = s.slot ∧
      (s.numberedFor cfg qos).isconnected = s.isconnected ∧
      (s.numberedFor cfg qos).cleansession = s.cleansession := by
  unfold Session.numberedFor
  split
  · exact ⟨rfl, rfl, rfl⟩
  · exact ⟨rfl, rfl, rfl⟩

theorem stored_holds (cfg : Config) (hpubrel : s.pubrel = false) (id : Nat) (packet : Bytes)
    (qos : QoS) : (s.stored cfg id packet.length packet qos).slot.Holds ⟨packet, id, qos⟩ where
  packet := by
    simp only [Slot.packet, Session.slot, Session.stored, store_zero, List.take_left]
  msgid := rfl
  qos := rfl
  loaded := by
    refine ⟨?_, ?_⟩
    · simp only [Session.slot, Session.stored, hpubrel, ite_self]
    · simp only [Session.slot, Session.stored, store_zero, List.length_append]
      exact Nat.le_add_right _ _

theorem storeInflight_sendbuf (cfg : Config) (c : Client τ) (id len : Nat) (qos : QoS) :
    (c.storeInflight cfg id len qos).sendbuf = c.sendbuf := by
  unfold Client.storeInflight
  split <;> rfl

def Session.link (s : Session) : Slot × Bool := (s.slot, s.isconnected)

theorem subscribeAck_link (cfg : Config) (r : Outcome σ τ κ) (topicFilter : Nat) (qos : QoS)
    (messageHandler : Option Nat) :
    (subscribeAck cfg r topicFilter qos messageHandler).client.link = r.client.link := by
  unfold subscribeAck
  split
  · split
    · rfl
    · simp only
      split_ifs <;> rfl
  · rfl

theorem unsubscribeAck_link (cfg : Config) (r : Outcome σ τ κ) (rc : Int) :
    (unsubscribeAck cfg r rc).client.link = r.client.link := by
  unfold unsubscribeAck
  split_ifs <;> rfl

variable [DatagramNetwork σ] [Timer τ κ]

theorem sent_link {c c' : Client τ} (h : c'.link = c.link) (w : World σ κ) (length : Nat)
    (timer : τ) : (sendPacket c' w length timer).client.link = c.link :=
  (congrArg Session.link (sendPacket_session c' w length timer)).trans h

theorem waited_link (cfg : Config) {c c' : Client τ} (h : c'.link = c.link) (w : World σ κ)
    (length : Nat) (packetType : Int) (timer : τ) :
    (waitfor cfg (sendPacket c' w length timer).client (sendPacket c' w length timer).world
      packetType timer).client.link = c.link :=
  (congrArg Session.link (waitfor_serves cfg _ _ packetType timer).session).trans
    (sent_link h w length timer)

theorem publish_sends (cfg : Config) {c : Client τ} (w : World σ κ) {topic : TopicId}
    {payload : Bytes} (id : Nat) {qos : QoS} {retained : Bool} (hconnected : c.isconnected = true)
    (hfit : 0 < (c.publication cfg topic payload id qos retained).rc) :
    let packet := (c.publication cfg topic payload id qos retained).written
    let numbered := c.numberedFor cfg qos
    ∃ c' : Client τ, (publish cfg c w topic payload id qos retained).toOutcome =
        publishLen cfg c' w.tick packet.length (w.countdownMs c.commandTimeoutMs) qos ∧
      c'.sendbuf.take packet.length = packet ∧
      c'.toSession =
        if cfg.qos1 && !c.cleansession then
          numbered.stored cfg (c.publishId cfg id qos) packet.length packet qos
        else numbered := by
  have hlen : (c.publication cfg topic payload id qos retained).rc.toNat =
      (c.publication cfg topic payload id qos retained).written.length := by
    rw [Session.publication, MQTTSNGW.serializePublish, serialize_rc hfit, Int.toNat_natCast]
  have hclean := (numberedFor_kept cfg c.toSession qos).2.2
  simp only [publish, hconnected, not_true_eq_false, if_false]
  rw [← Session.publication, if_neg (not_le.mpr hfit), hlen]
  generalize (c.publication cfg topic payload id qos retained).written = packet
  have htake : ({ c with toSession := c.numberedFor cfg qos }.fillSendbuf packet).sendbuf.take
      packet.length = packet := by
    rw [Client.fillSendbuf, store_zero, List.take_left]
  refine ⟨_, rfl, ?_, ?_⟩
  · rw [storeInflight_sendbuf, htake]
  · simp only [Client.storeInflight, htake]
    simp only [Client.fillSendbuf, hclean]
    split_ifs <;> rfl

theorem publish_unfit (cfg : Config) {c : Client τ} (w : World σ κ) {topic : TopicId}
    {payload : Bytes} (id : Nat) {qos : QoS} {retained : Bool} (hconnected : c.isconnected = true)
    (hunfit : (c.publication cfg topic payload id qos retained).rc ≤ 0) :
    (publish cfg c w topic payload id qos retained).client.toSession = c.numberedFor cfg qos := by
  simp only [publish, hconnected, not_true_eq_false, if_false]
  rw [← Session.publication, if_pos hunfit]
  rfl

theorem publish_performed (cfg : Config) {c : Client τ} (hloaded : c.slot.Loaded) (w : World σ κ)
    (topic : TopicId) (payload : Bytes) (id : Nat) (qos : QoS) (retained : Bool) :
    Performed cfg c.toSession (.publish topic payload id qos retained)
      (publish cfg c w topic payload id qos retained).rc
      (publish cfg c w topic payload id qos retained).client.toSession := by
  cases hconnected : c.isconnected with
  | false =>
    simp only [publish, hconnected, Bool.false_eq_true, not_false_eq_true, if_true]
    exact .plain rfl (by simp [Op.store, hconnected]) rfl (by simp [hconnected])
  | true =>
    obtain ⟨hslot, hkept, -⟩ := numberedFor_kept cfg c.toSession qos
    by_cases hunfit : (c.publication cfg topic payload id qos retained).rc ≤ 0
    · rw [publish_unfit cfg w id hconnected hunfit]
      refine .plain rfl ?_ hslot ?_
      · simp [Op.store, not_lt.mpr hunfit]
      · simp [hkept, Op.keeps, hunfit]
    · obtain ⟨c', houtcome, -, hsession⟩ := publish_sends cfg w id hconnected (not_le.mp hunfit)
      have hresult := (publishLen_publishes cfg c' w.tick
        (c.publication cfg topic payload id qos retained).written.length
        (w.countdownMs c.commandTimeoutMs) qos).1
      rw [← houtcome] at hresult
      rw [hresult]
      generalize (publish cfg c w topic payload id qos retained).rc = rc
      have hkeeps : (Op.publish topic payload id qos retained).keeps cfg c.toSession rc =
          decide (rc = SUCCESS) := by
        simp [Op.keeps, hunfit]
      rw [hsession]
      cases hpersists : cfg.qos1 && !c.cleansession with
      | true =>
        have hpubrel : (c.numberedFor cfg qos).pubrel = false :=
          (congrArg Slot.pubrel hslot).trans hloaded.pubrel
        simp only [Bool.and_eq_true, Bool.not_eq_true'] at hpersists
        have hholds := stored_holds cfg hpubrel (c.publishId cfg id qos)
          (c.publication cfg topic payload id qos retained).written qos
        rw [if_pos rfl]
        refine .storing rfl ?_ (by rw [Session.kept_slot]; exact hholds) ?_
        · simp [Op.store, hconnected, hpersists, not_le.mp hunfit]
        · rw [Session.kept_isconnected, hkeeps]
          exact congrArg (· && decide (rc = SUCCESS)) hkept
      | false =>
        rw [if_neg Bool.false_ne_true]
        refine .plain rfl ?_ ?_ ?_
        · simp only [Op.store, hconnected, Bool.true_and, hpersists, Bool.false_and,
            Bool.false_eq_true, if_false]
        · rw [Session.kept_slot, hslot]
        · rw [Session.kept_isconnected, hkeeps, hkept]

theorem connect_performed (cfg : Config) {c : Client τ} (hloaded : c.slot.Loaded) (w : World σ κ)
    (options : ConnectData) :
    Performed cfg c.toSession (.connect options) (connect cfg c w options).rc
      (connect cfg c w options).client.toSession := by
  have hheld : ∀ stored ∈ (Op.connect options).store cfg c.toSession,
      (connect cfg c w options).client.slot.Holds stored := by
    intro stored hstored
    cases hstored
  cases hconnected : c.isconnected with
  | true =>
    have hsame : connect cfg c w options = ⟨FAILURE, c, w.tick⟩ := by
      rw [connect, hconnected]
      rfl
    refine ⟨?_, fun _ => ?_, hheld⟩
    · rw [hsame]
      simp [hconnected, Op.keeps]
    · rw [hsame]
  | false =>
    obtain ⟨hsession, -⟩ := connect_dials cfg hconnected hloaded w options
    refine ⟨?_, fun _ => ?_, hheld⟩
    · rw [hsession, hconnected]
      simp [Op.isConnect]
    · rw [hsession]
      rfl

theorem disconnect_session (cfg : Config) (c : Client τ) (w : World σ κ) (duration : UInt16) :
    (disconnect cfg c w duration).client.toSession = { c.toSession with isconnected := false } := by
  simp only [disconnect]
  generalize serializeDisconnect cfg.maxPacketSize _ = s
  split
  · exact congrArg (fun t : Session => { t with isconnected := false })
      (sendPacket_session (c.fillSendbuf s.written) w.tick s.rc.toNat _)
  · rfl

omit [DatagramNetwork σ] [Timer τ κ] in
theorem disconnectOnFailure_performed {op : Op} {c : Client τ} {r : Outcome σ τ κ}
    (hconnect : op.isConnect = false) (hstore : op.store cfg c.toSession = none)
    (hkeeps : op.keeps cfg c.toSession r.rc = decide (r.rc = SUCCESS))
    (h : r.client.link = c.link) :
    Performed cfg c.toSession op (disconnectOnFailure r).rc
      (disconnectOnFailure r).client.toSession := by
  have hslot : r.client.slot = c.slot := congrArg Prod.fst h
  have hconnected : r.client.isconnected = c.isconnected := congrArg Prod.snd h
  rw [disconnectOnFailure_rc, disconnectOnFailure_session]
  refine .plain hconnect hstore ?_ ?_
  · rw [Session.kept_slot, hslot]
  · rw [Session.kept_isconnected, hconnected, hkeeps]

theorem subscribe_performed (cfg : Config) (c : Client τ) (w : World σ κ) (topicFilter : Nat)
    (qos : QoS) (messageHandler : Option Nat) :
    Performed cfg c.toSession (.other (.subscribe topicFilter qos messageHandler))
      (subscribe cfg c w topicFilter qos messageHandler).rc
      (subscribe cfg c w topicFilter qos messageHandler).client.toSession := by
  unfold subscribe
  cases hconnected : c.isconnected with
  | false => exact .plain rfl rfl rfl (by simp [hconnected])
  | true =>
    refine disconnectOnFailure_performed rfl rfl rfl ?_
    simp only [subscribeSend]
    split
    · rfl
    split
    · rfl
    split
    · exact sent_link rfl _ _ _
    · rw [subscribeAck_link]
      exact waited_link cfg rfl _ _ _ _

theorem unsubscribe_performed (cfg : Config) (c : Client τ) (w : World σ κ) (topicFilter : Nat) :
    Performed cfg c.toSession (.other (.unsubscribe topicFilter))
      (unsubscribe cfg c w topicFilter).rc
      (unsubscribe cfg c w topicFilter).client.toSession := by
  refine disconnectOnFailure_performed rfl rfl rfl ?_
  split
  · rfl
  · simp only [unsubscribeSend]
    split
    · rfl
    split
    · exact sent_link rfl _ _ _
    · rw [unsubscribeAck_link]
      exact waited_link cfg rfl _ _ _ _

theorem op_performed (cfg : Config) {c : Client τ} (hloaded : c.slot.Loaded) (w : World σ κ)
    (op : Op) :
    Performed cfg c.toSession op (op.perform cfg c w).rc (op.perform cfg c w).client.toSession := by
  cases op with
  | connect options => exact connect_performed cfg hloaded w options
  | publish topic payload id qos retained =>
    exact publish_performed cfg hloaded w topic payload id qos retained
  | disconnect duration =>
    refine .plain rfl rfl ?_ ?_
    · exact (congrArg Session.slot (disconnect_session cfg c w duration)).trans rfl
    · rw [Op.perform, disconnect_session, Op.keeps, Bool.and_false]
  | setDefaultMessageHandler messageHandler => exact .plain rfl rfl rfl (by simp [Op.keeps, Op.perform])
  | other call =>
    cases call with
    | subscribe topicFilter qos messageHandler =>
      exact subscribe_performed cfg c w topicFilter qos messageHandler
    | unsubscribe topicFilter => exact unsubscribe_performed cfg c w topicFilter
    | yield timeoutMs =>
      simp only [Op.perform, Call.perform]
      rw [(yield_serves cfg c w timeoutMs).session]
      exact .plain rfl rfl rfl (by simp [Op.keeps])
    | assign topicFilter topic => exact .plain rfl rfl rfl (by simp [Op.keeps, Op.perform, Call.perform])

end Perform

theorem Performed.loaded {cfg : Config} {s t : Session} {op : Op} {rc : Int}
    (h : Performed cfg s op rc t) (hloaded : s.slot.Loaded) : t.slot.Loaded := by
  cases hstore : op.store cfg s with
  | none => exact h.kept hstore ▸ hloaded
  | some stored => exact (h.held stored hstore).loaded

section Run

variable [DatagramNetwork σ] [Timer τ κ] {cfg : Config} {y : System τ}

theorem perform_performed (cfg : Config) (h : y.client.slot.Loaded) (request : Request σ κ) :
    Performed cfg y.client.toSession request.op (y.rc cfg request)
      (y.perform cfg request).client.toSession := op_performed cfg h _ request.op

theorem run_loaded (cfg : Config) (h : y.client.slot.Loaded) (requests : List (Request σ κ)) :
    (y.run cfg requests).client.slot.Loaded := by
  induction requests generalizing y with
  | nil => exact h
  | cons request requests ih => exact ih ((perform_performed cfg h request).loaded h)

omit [DatagramNetwork σ] [Timer τ κ] in
theorem start_loaded (cfg : Config) (commandTimeoutMs : Nat) (idle : τ) (duration : Nat)
    (cleansession : Bool) :
    (System.start cfg commandTimeoutMs idle duration cleansession).client.slot.Loaded :=
  ⟨rfl, Nat.zero_le _⟩

theorem connect_events (cfg : Config) (hclosed : y.client.isconnected = false)
    (hloaded : y.client.slot.Loaded) {request : Request σ κ} {options : ConnectData}
    (hconnect : request.op = .connect options) :
    Dials cfg y.client.slot (serializeConnect cfg.maxPacketSize options).written
      (AwaitsConnack cfg y.client (y.enter request).tick options
        ((y.enter request).countdownMs y.client.commandTimeoutMs))
      (y.rc cfg request) (y.events cfg request) := by
  obtain ⟨-, ev, hlog, hdials⟩ := connect_dials cfg hclosed hloaded (y.enter request) options
  have hevents : y.events cfg request = ev := by
    simp only [System.events, System.perform, System.outcome, hconnect, Op.perform]
    rw [hlog]
    exact List.drop_left
  simp only [System.rc, System.outcome, hconnect, Op.perform]
  rwa [hevents]

-- a connect that returns SUCCESS, and what it rests on
structure Opens (cfg : Config) (y : System τ) (request : Request σ κ) : Prop where
  connects : request.op.isConnect = true
  rc : y.rc cfg request = SUCCESS
  answered : y.client.slot.resends cfg = false → Accepted (y.events cfg request)
  resent : y.client.slot.resends cfg = true → y.client.inflightQoS ≠ .QOS1 ∧
    ∃ ev, y.events cfg request = ev ++ [.sent y.client.slot.packet]

def Stays (cfg : Config) (y : System τ) (request : Request σ κ) : Prop :=
  request.op.keeps cfg y.client.toSession (y.rc cfg request) = true

theorem Dials.opens {slot : Slot} {packet : Bytes} {waits : List Event → Prop} {ev : List Event}
    (h : Dials cfg slot packet waits SUCCESS ev) :
    (slot.resends cfg = false → Accepted ev) ∧
      (slot.resends cfg = true → slot.inflightQoS ≠ .QOS1 ∧ ∃ before, ev = before ++ [.sent slot.packet]) := by
  generalize hrc : SUCCESS = rc at h
  cases h with
  | unfit => cases hrc
  | unsent => cases hrc
  | @answered _ ev _ hempty hcode =>
    refine ⟨fun _ => hcode hrc.symm, fun hfull => ?_⟩
    rw [hempty] at hfull
    cases hfull
  | @resent _ waited again _ hfull hpublishes =>
    refine ⟨fun hempty => ?_, fun _ => ?_⟩
    · rw [hfull] at hempty
      cases hempty
    · obtain ⟨hqos1, -⟩ := Slot.resends_iff.mp hfull
      cases hpublishes with
      | unsent => cases hrc
      | sent hawaits => exact ⟨fun hqos => hawaits ⟨hqos1, hqos⟩, .sent packet :: waited, rfl⟩
      | awaited _ => cases hrc

theorem opens_iff (cfg : Config) (hloaded : y.client.slot.Loaded) (request : Request σ κ) :
    (request.op.isConnect && decide (y.rc cfg request = SUCCESS)) = true ↔ Opens cfg y request := by
  rw [Bool.and_eq_true, decide_eq_true_eq]
  constructor
  · rintro ⟨hconnect, hrc⟩
    obtain ⟨options, hop⟩ : ∃ options, request.op = .connect options := by
      cases hop : request.op with
      | connect options => exact ⟨options, rfl⟩
      | _ => rw [hop] at hconnect; cases hconnect
    cases hclosed : y.client.isconnected with
    | true =>
      have hfailed : y.rc cfg request = FAILURE := by
        simp only [System.rc, System.outcome, hop, Op.perform, connect, hclosed, if_true]
        rfl
      rw [hfailed] at hrc
      cases hrc
    | false =>
      have hdials := connect_events cfg hclosed hloaded hop
      rw [hrc] at hdials
      obtain ⟨hanswered, hresent⟩ := hdials.opens
      exact ⟨hconnect, hrc, hanswered, hresent⟩
  · intro h
    exact ⟨h.connects, h.rc⟩

theorem session_latch (cfg : Config) :
    Latch (System.perform (σ := σ) (κ := κ) cfg) (fun y : System τ => y.client.slot.Loaded)
      (fun y : System τ => y.client.isconnected = true) (Opens cfg) (Stays cfg) where
  stays _ request h := (perform_performed cfg h request).loaded h
  intro y request h := by
    rw [(perform_performed cfg h request).isconnected, Bool.or_eq_true, Bool.and_eq_true,
      opens_iff cfg h]
    rfl

theorem session_connected_iff (cfg : Config) (commandTimeoutMs : Nat) (idle : τ) (duration : Nat)
    (cleansession : Bool) (requests : List (Request σ κ)) :
    (System.run cfg (.start cfg commandTimeoutMs idle duration cleansession)
        requests).client.isconnected = true ↔
      ∃ pre request post, requests = pre ++ request :: post ∧
        Opens cfg (System.run cfg (.start cfg commandTimeoutMs idle duration cleansession) pre)
          request ∧
        Steps (System.perform cfg) (Stays cfg)
          (System.perform cfg (System.run cfg
            (.start cfg commandTimeoutMs idle duration cleansession) pre) request) post :=
  (session_latch cfg).iff_set (start_loaded cfg commandTimeoutMs idle duration cleansession)
    Bool.false_ne_true requests

end Run

end MbedMqtt.MQTTSN
