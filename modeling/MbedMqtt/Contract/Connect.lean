import MbedMqtt.Client.Calls
import MbedMqtt.Network.Script

namespace MbedMqtt

def Accepted (packets : List (UInt8 × Bytes)) : Prop :=
  ∃ p ∈ packets, headerType p.1 = CONNACK ∧ 2 ≤ p.2.length ∧ byteAt p.2 1 = 0

def CompleteConnacks (packets : List (UInt8 × Bytes)) : Prop :=
  ∀ p ∈ packets, headerType p.1 = CONNACK → 2 ≤ p.2.length

instance (packets : List (UInt8 × Bytes)) : Decidable (Accepted packets) :=
  inferInstanceAs (Decidable (∃ p ∈ packets, _))

instance (packets : List (UInt8 × Bytes)) : Decidable (CompleteConnacks packets) :=
  inferInstanceAs (Decidable (∀ p ∈ packets, _))

section Awaited

variable {packets : List (UInt8 × Bytes)} {header : UInt8} {body : Bytes}

theorem Awaited.accepted_iff (h : Awaited CONNACK packets header body) :
    Accepted packets ↔ 2 ≤ body.length ∧ byteAt body 1 = 0 := by
  constructor
  · rintro ⟨p, hp, htype, hcode⟩
    obtain rfl := h.unique hp htype
    exact hcode
  · intro hcode
    exact ⟨_, h.mem, h.1, hcode⟩

theorem Awaited.completeConnacks_iff (h : Awaited CONNACK packets header body) :
    CompleteConnacks packets ↔ 2 ≤ body.length := by
  constructor
  · intro hall
    exact hall _ h.mem h.1
  · intro hlen p hp htype
    obtain rfl := h.unique hp htype
    exact hlen

end Awaited

variable {σ τ κ : Type} [Network σ] [Timer τ κ]

-- the call up to the end of its wait for the CONNACK
def connackWait (cfg : Config) (c : Client τ) (w : World σ τ κ) (options : ConnectData) :
    Option (Outcome σ τ κ) :=
  let timer := w.countdownMs c.commandTimeoutMs
  let s := serializeConnect cfg.maxPacketSize options
  let configured := { c with toSession := c.configured options }
  let r := sendPacket (configured.fillSendbuf s.2) w.tick s.1.toNat timer
  if c.isconnected ∨ s.1 ≤ 0 ∨ r.rc ≠ SUCCESS then none
  else some (awaitConnack cfg r.client r.world timer)

def resends (cfg : Config) (s : Session) : Bool := cfg.qos1 && 0 < s.inflightMsgid

def resendRequest (cfg : Config) (c : Client τ) : Option (Client τ × Nat) :=
  if cfg.qos2 ∧ 0 < c.inflightMsgid ∧ c.inflightQoS = .QOS2 ∧ c.pubrel then
    let s := serializeAck cfg.maxPacketSize PUBREL 0 c.inflightMsgid
    if s.1 ≤ 0 then none else some (c.fillSendbuf s.2, s.1.toNat)
  else if cfg.qos1 ∧ 0 < c.inflightMsgid then
    some (c.fillSendbuf (c.pubbuf.take cfg.maxPacketSize), c.inflightLen)
  else none

-- the wait for the acknowledgement of a sent packet, where the build waits for one
def acknowledged (cfg : Config) (r : Outcome σ τ κ) (qos : QoS) (timer : τ) :
    Option (World σ τ κ) :=
  if r.rc ≠ SUCCESS then none
  else match awaitedAck cfg qos with
    | none => some r.world
    | some packetType =>
        let v := waitfor cfg r.client r.world packetType timer
        if v.rc = packetType then some v.world else none

def resendWait (cfg : Config) (v : Outcome σ τ κ) (timer : τ) : Option (World σ τ κ) :=
  (resendRequest cfg v.client).bind fun request =>
    acknowledged cfg (sendPacket request.1 v.world request.2 timer) v.client.inflightQoS timer

def ConnectSound (cfg : Config) (c : Client τ) (w : World σ τ κ) (options : ConnectData)
    (data : ConnackData) : Prop :=
  let r := connect cfg c w options data
  r.rc = SUCCESS ∨ c.isconnected = false ∧ r.client.isconnected = true →
    Accepted (heard (w.since r.world))

instance (cfg : Config) (c : Client τ) (w : World σ τ κ) (options : ConnectData)
    (data : ConnackData) : Decidable (ConnectSound cfg c w options data) :=
  inferInstanceAs (Decidable (_ ∨ _ ∧ _ → _))

structure Acknowledges (p : Outcome σ τ κ) (wait : Option (World σ τ κ)) : Prop where
  success : p.rc = SUCCESS ↔ wait.isSome = true
  log : ∀ u ∈ wait, p.world.log = u.log

omit [Network σ] [Timer τ κ] in
theorem Acknowledges.unacked {p : Outcome σ τ κ} (hrc : p.rc ≠ SUCCESS) : Acknowledges p none :=
  ⟨iff_of_false hrc (by simp), by simp⟩

omit [Network σ] [Timer τ κ] in
theorem Acknowledges.acked {p : Outcome σ τ κ} {u : World σ τ κ} (hrc : p.rc = SUCCESS)
    (hlog : p.world.log = u.log) : Acknowledges p (some u) :=
  ⟨iff_of_true hrc rfl, by simpa using hlog⟩

omit [Network σ] [Timer τ κ] in
theorem Acknowledges.accepted_iff {p : Outcome σ τ κ} {wait : Option (World σ τ κ)}
    (h : Acknowledges p wait) (w : World σ τ κ) :
    (p.rc = SUCCESS → Accepted (heard (w.since p.world))) ↔
      ∀ u ∈ wait, Accepted (heard (w.since u)) := by
  rw [h.success]
  cases wait with
  | none => simp
  | some u =>
    have hlog := h.log u rfl
    simp [World.since, hlog]

theorem publishAck_acknowledges (cfg : Config) (c : Client τ) (w : World σ τ κ) {packetType : Nat}
    (hpos : 0 < packetType) (timer : τ) : Acknowledges (publishAck cfg c w packetType timer)
      (let v := waitfor cfg c w packetType timer
       if v.rc = packetType then some v.world else none) := by
  obtain ⟨ev, hwait⟩ := waitfor_wait cfg c w hpos timer
  unfold publishAck
  simp only
  generalize waitfor cfg c w packetType timer = r at *
  by_cases hrc : r.rc = packetType
  · obtain ⟨header, body, tail, ha, hbuf⟩ := hwait.found hrc
    have hack := deserializeAck_framed r.world.uninitialised header body tail ha.2.1
    rw [← hbuf] at hack
    rw [if_pos hrc, if_pos hrc, hack, if_neg (by simp)]
    split
    · exact .acked rfl rfl
    · exact .acked rfl rfl
  · rw [if_neg hrc, if_neg hrc]
    exact .unacked (by decide : FAILURE ≠ SUCCESS)

theorem publishLen_acknowledges (cfg : Config) (c : Client τ) (w : World σ τ κ) (len : Nat) (timer : τ)
    (qos : QoS) : Acknowledges (publishLen cfg c w len timer qos)
      (acknowledged cfg (sendPacket c w len timer) qos timer) := by
  unfold publishLen acknowledged awaitedAck
  simp only
  generalize sendPacket c w len timer = r
  split
  · rename_i hrc
    exact .unacked hrc
  · rename_i hrc
    split
    · exact publishAck_acknowledges cfg r.client r.world (by decide) timer
    · split
      · exact publishAck_acknowledges cfg r.client r.world (by decide) timer
      · exact .acked (not_not.mp hrc) rfl

theorem connectResend_acknowledges {cfg : Config} {v : Outcome σ τ κ} (verdict : Int) (timer : τ)
    (h : resends cfg v.client.toSession = true) :
    Acknowledges (connectResend cfg { v with rc := verdict } timer) (resendWait cfg v timer) := by
  obtain ⟨hq, hpos⟩ : cfg.qos1 = true ∧ 0 < v.client.inflightMsgid := by simpa [resends] using h
  unfold connectResend resendWait resendRequest
  simp only
  split
  · split
    · exact .unacked (by decide : FAILURE ≠ SUCCESS)
    · exact publishLen_acknowledges cfg _ v.world _ timer v.client.inflightQoS
  · rw [if_pos ⟨hq, hpos⟩, if_pos ⟨hq, hpos⟩]
    exact publishLen_acknowledges cfg _ v.world _ timer v.client.inflightQoS

theorem connectResend_idle {cfg : Config} {v : Outcome σ τ κ} (timer : τ)
    (h : resends cfg v.client.toSession = false) :
    resendWait cfg v timer = none ∧ connectResend cfg v timer = v := by
  have hidle : ¬(cfg.qos1 = true ∧ 0 < v.client.inflightMsgid) := by simpa [resends] using h
  have hidle₂ : ¬(cfg.qos2 = true ∧ 0 < v.client.inflightMsgid ∧ v.client.inflightQoS = .QOS2 ∧
      v.client.pubrel = true) :=
    fun h => hidle ⟨Config.qos1_of_qos2 h.1, h.2.1⟩
  unfold resendWait resendRequest connectResend
  simp only
  rw [if_neg hidle₂, if_neg hidle, if_neg hidle₂, if_neg hidle]
  exact ⟨rfl, rfl⟩

section Wait

variable {cfg : Config} {c : Client τ} {w : World σ τ κ} {options : ConnectData} {v : Outcome σ τ κ}

theorem connect_waited (h : connackWait cfg c w options = some v) (data : ConnackData) :
    (connect cfg c w options data).toOutcome = connectExit (connectResend cfg
      { v with rc := (connackResult v data).1 } (w.countdownMs c.commandTimeoutMs)) := by
  unfold connackWait at h
  simp only at h
  split at h
  · cases h
  · rename_i hgo
    simp only [not_or] at hgo
    cases h
    unfold connect
    simp only
    rw [if_neg hgo.1, if_neg hgo.2.1, if_neg hgo.2.2]

theorem connect_unwaited (h : connackWait cfg c w options = none) (data : ConnackData) :
    (connect cfg c w options data).rc ≠ SUCCESS := by
  unfold connect
  unfold connackWait at h
  simp only at h ⊢
  split
  · exact (by decide : FAILURE ≠ SUCCESS)
  · rename_i hconn
    split
    · exact (by decide : FAILURE ≠ SUCCESS)
    · rename_i hfit
      split
      · rename_i hrc
        exact hrc
      · rename_i hrc
        rw [if_neg (by simp [hconn, hfit, not_not.mp hrc])] at h
        cases h

theorem cycleSwitch_connecting (cfg : Config) (c : Client τ) (w : World σ τ κ) (timer : τ) :
    ∃ table, (cycleSwitch cfg (readPacket cfg c w).rc (readPacket cfg c w).client
      (readPacket cfg c w).world timer).client.toSession =
        { c.toSession with incomingQoS2messages := table } := by
  rcases readPacket_cases cfg c w with ⟨header, body, net, -, hb, hread⟩ | ⟨hrc, -⟩
  · obtain ⟨hrc, hsession, hbuf, -⟩ := received_spec c { w with net := net } header body
    obtain ⟨ev, hspec⟩ := cycleSwitch_spec cfg (received c { w with net := net } header body).world
      timer hbuf hb
    obtain ⟨table, htable⟩ := hspec.table
    exact ⟨table, by rw [hread, hrc, htable, hsession]⟩
  · obtain ⟨buf, t, hframe⟩ := readPacket_frame cfg c w
    rw [cycleSwitch_idle cfg hrc, hframe]
    exact ⟨c.incomingQoS2messages, rfl⟩

-- cycle closes the session of a connected client only
theorem cycle_connecting (cfg : Config) {c : Client τ} (w : World σ τ κ)
    (hconn : c.isconnected = false) (timer : τ) :
    ∃ table, (cycle cfg c w timer).client.toSession =
      { c.toSession with incomingQoS2messages := table } := by
  unfold cycle
  simp only
  obtain ⟨table, htable⟩ := cycleSwitch_connecting cfg c w timer
  generalize cycleSwitch cfg (readPacket cfg c w).rc (readPacket cfg c w).client
    (readPacket cfg c w).world timer = b at *
  obtain ⟨ev, -, -, -, hsession, -⟩ := cycleKeepalive_spec cfg b
  rw [htable] at hsession
  refine ⟨table, ?_⟩
  unfold cycleExit
  split
  · exact hsession
  · rw [if_neg (by simp [hsession, hconn])]
    exact hsession

theorem waitforLoop_connecting (packetType : Int) (timer : τ) (fuel : Nat) (rc : Int) (c : Client τ)
    (w : World σ τ κ) (hconn : c.isconnected = false) :
    ∃ table, (waitforLoop cfg packetType timer fuel rc c w).client.toSession =
      { c.toSession with incomingQoS2messages := table } := by
  induction fuel generalizing rc c w with
  | zero => exact ⟨c.incomingQoS2messages, rfl⟩
  | succ fuel ih =>
    simp only [waitforLoop]
    split
    · exact ⟨c.incomingQoS2messages, rfl⟩
    · obtain ⟨table, htable⟩ := cycle_connecting cfg w.tick hconn timer
      generalize cycle cfg c w.tick timer = r at *
      split
      · obtain ⟨table', htable'⟩ := ih r.rc r.client r.world (by rw [htable, hconn])
        exact ⟨table', by rw [htable', htable]⟩
      · exact ⟨table, htable⟩

theorem awaitConnack_connecting (cfg : Config) {c : Client τ} (hconn : c.isconnected = false)
    (w : World σ τ κ) (timer : τ) : ∃ table, (awaitConnack cfg c w timer).client.toSession =
      { c.toSession with incomingQoS2messages := table } := by
  unfold awaitConnack waitfor
  split
  · exact waitforLoop_connecting _ timer _ _ { c with lastReceived := w.countdown c.keepAliveInterval }
      w.tick hconn
  · exact waitforLoop_connecting _ timer _ _ c w hconn

structure Connecting (c : Client τ) (w : World σ τ κ) (options : ConnectData) (v : Outcome σ τ κ)
    (ev : List Event) : Prop where
  log : v.world.log = w.log ++ ev
  session : ∃ table, v.client.toSession = { c.configured options with incomingQoS2messages := table }
  found : v.rc = (CONNACK : Nat) → ∃ header body tail, Awaited CONNACK (heard ev) header body ∧
    v.client.readbuf = framed header body ++ tail

theorem connackWait_connecting (h : connackWait cfg c w options = some v) :
    ∃ ev, Connecting c w options v ev := by
  unfold connackWait at h
  simp only at h
  split at h
  · cases h
  · rename_i hgo
    simp only [not_or, not_not] at hgo
    obtain ⟨hconn, hfit, hrc⟩ := hgo
    cases h
    obtain ⟨hsession, ⟨-, hlog⟩ | ⟨hfailed, -⟩⟩ := sendPacket_request
      (serializeConnect_serializes cfg.maxPacketSize options) (Int.not_le.mp hfit)
      { c with toSession := c.configured options } w.tick (w.countdownMs c.commandTimeoutMs)
    · generalize sendPacket _ w.tick _ (w.countdownMs c.commandTimeoutMs) = r at *
      obtain ⟨ev, hwait⟩ := awaitConnack_wait cfg r.client r.world (w.countdownMs c.commandTimeoutMs)
      obtain ⟨table, htable⟩ := awaitConnack_connecting cfg (c := r.client)
        (by rw [hsession]; exact Bool.eq_false_iff.mpr hconn) r.world (w.countdownMs c.commandTimeoutMs)
      refine ⟨.sent (serializeConnect cfg.maxPacketSize options).2 :: ev, ?_, ⟨table, ?_⟩, ?_⟩
      · rw [hwait.log, hlog, World.tick_log, List.append_assoc, List.singleton_append]
      · rw [htable, hsession]
      · rw [heard_sent]
        exact hwait.found
    · exact absurd (hfailed.symm.trans hrc) (by decide)

omit [Network σ] [Timer τ κ] in
theorem Connecting.resends {ev : List Event} (h : Connecting c w options v ev) :
    resends cfg v.client.toSession = resends cfg c.toSession := by
  obtain ⟨table, htable⟩ := h.session
  rw [htable]
  rfl

omit [Network σ] [Timer τ κ] in
theorem Connecting.sound_iff {ev : List Event} (h : Connecting c w options v ev) (data : ConnackData) :
    ((connackResult v data).1 = SUCCESS → Accepted (heard ev)) ↔
      (v.rc = (CONNACK : Nat) → CompleteConnacks (heard ev)) := by
  by_cases hrc : v.rc = (CONNACK : Nat)
  · obtain ⟨header, body, tail, ha, hbuf⟩ := h.found hrc
    have hresult : (connackResult v data).1 =
        if 2 ≤ body.length then ((byteAt body 1).toNat : Int) else 0 := by
      have hconnack := deserializeConnack_framed ⟨0, false⟩ header body tail ha.2.1 ha.1
      rw [connackResult, if_pos hrc, hbuf, hconnack]
      simp only [if_true]
      split
      · rfl
      · rfl
    rw [hresult, ha.accepted_iff, ha.completeConnacks_iff]
    by_cases hlen : 2 ≤ body.length
    · have hcode : ((byteAt body 1).toNat : Int) = SUCCESS ↔ byteAt body 1 = 0 := by
        rw [← UInt8.toNat_inj]
        exact Int.natCast_eq_zero
      rw [if_pos hlen]
      exact iff_of_true (fun hok => ⟨hlen, hcode.mp hok⟩) (fun _ => hlen)
    · rw [if_neg hlen]
      exact iff_of_false (fun hsound => hlen (hsound rfl).1) (fun hall => hlen (hall hrc))
  · have hresult : (connackResult v data).1 = FAILURE := by rw [connackResult, if_neg hrc]
    rw [hresult]
    exact iff_of_true (fun hfalse => absurd hfalse (by decide)) (fun htrue => absurd htrue hrc)

theorem connectSound_iff (data : ConnackData) : ConnectSound cfg c w options data ↔
    ((connect cfg c w options data).rc = SUCCESS →
      Accepted (heard (w.since (connect cfg c w options data).world))) := by
  obtain ⟨ev, -, hconnects⟩ := connect_connects cfg c w options data
  refine imp_congr_left (or_iff_left_of_imp ?_)
  rintro ⟨hbefore, hafter⟩
  exact hconnects.success_of_isconnected hbefore hafter

end Wait

theorem connect_sound_iff (cfg : Config) (c : Client τ) (w : World σ τ κ) (options : ConnectData)
    (data : ConnackData) :
    ConnectSound cfg c w options data ↔ ∀ v ∈ connackWait cfg c w options,
      (resends cfg c.toSession = false → v.rc = (CONNACK : Nat) →
        CompleteConnacks (heard (w.since v.world))) ∧
      ∀ u ∈ resendWait cfg v (w.countdownMs c.commandTimeoutMs), Accepted (heard (w.since u)) := by
  rw [connectSound_iff]
  cases hwait : connackWait cfg c w options with
  | none => exact iff_of_true (fun hrc => absurd hrc (connect_unwaited hwait data)) (by simp)
  | some v =>
    obtain ⟨ev, hconnecting⟩ := connackWait_connecting hwait
    have hconnect := connect_waited hwait data
    obtain ⟨hrc, hworld, -⟩ := connectExit_toSession (connectResend cfg
      { v with rc := (connackResult v data).1 } (w.countdownMs c.commandTimeoutMs))
    rw [← hconnect] at hrc hworld
    simp only [Option.mem_some_iff, forall_eq']
    cases hresends : resends cfg c.toSession with
    | false =>
      obtain ⟨(hnone : resendWait cfg v _ = none), hidle⟩ :=
        connectResend_idle (v := { v with rc := (connackResult v data).1 })
          (w.countdownMs c.commandTimeoutMs) (hconnecting.resends.trans hresends)
      rw [hidle] at hrc hworld
      rw [hrc, hworld, hnone, World.since_eq hconnecting.log]
      simpa using hconnecting.sound_iff data
    | true =>
      have hresend := connectResend_acknowledges (connackResult v data).1
        (w.countdownMs c.commandTimeoutMs) (hconnecting.resends.trans hresends)
      rw [hrc, hworld, hresend.accepted_iff]
      simp

def persistent : ConnectData :=
  { ConnectData.initializer with keepAliveInterval := 0, cleansession := false }

def unackedPublish (cfg : Config) : Client OracleTimer :=
  (publish cfg (connect cfg (.construct cfg 30000 .oracle) (.calm [32, 2, 0, 0] 4) persistent
    ⟨0, false⟩).client (.calm [] 3) [116] [1] 0 .QOS1 false).client

theorem connect_unsound_refused_and_truncated :
    ¬ConnectSound (.standard .qos1) (unackedPublish (.standard .qos1))
        (.calm [32, 2, 0, 5, 64, 2, 0, 1] 14) persistent ⟨0, false⟩ ∧
      ¬ConnectSound (.standard .qos1) (.construct (.standard .qos1) 30000 .oracle)
        (.calm [32, 0] 8) persistent ⟨0, false⟩ := by
  decide

end MbedMqtt
