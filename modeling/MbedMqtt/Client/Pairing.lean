import MbedMqtt.Client.Lockstep
import MbedMqtt.Client.Run

namespace MbedMqtt

variable {σ τ κ : Type} {cfg cfg' : Config} {po : Bool} {w : World σ τ κ} {p : τ}
  {r r' : Outcome σ τ κ} {c : Client τ} {st : Storage}

theorem StoredAs.self (cfg cfg' : Config) (s : Session) : StoredAs cfg cfg' s s.storage :=
  ⟨fun _ => rfl, fun _ => rfl⟩

namespace Twin

theorem rc_eq (h : Twin cfg cfg' po w p r r') : r'.rc = r.rc := by
  obtain ⟨st, p₁, rfl, -, -⟩ := h
  rfl

theorem close (hk : Kin cfg cfg') (h : Twin cfg cfg' po w p r r') :
    Twin cfg cfg' po w p { r with client := r.client.closeSession cfg }
      { r' with client := r'.client.closeSession cfg' } := by
  obtain ⟨st, p₁, rfl, hh, hel⟩ := h
  obtain ⟨st', heq, hh'⟩ := closeSession_twin hk hh
  refine ⟨st', p₁, ?_, hh', hel.drop fun h => by cases h⟩
  rw [Outcome.twin_client, heq]
  rfl

theorem of_timed {p₁ : τ} (hel : Elapsed po w p r.client.pingOutstanding r.world p₁) :
    Twin cfg cfg po w p r { r with world := r.world.timed p₁ } :=
  ⟨r.client.storage, p₁, rfl, .self cfg cfg _, hel⟩

theorem timed (h : Twin cfg cfg po w p r r') :
    ∃ p₁, r' = { r with world := r.world.timed p₁ } ∧
      Elapsed po w p r.client.pingOutstanding r.world p₁ := by
  obtain ⟨st, p₁, rfl, hh, hel⟩ := h
  obtain rfl := hh.same rfl
  exact ⟨p₁, rfl, hel⟩

end Twin

theorem Elapsed.pop {po₁ : Bool} {w₁ : World σ τ κ} {p₁ : τ} (h : Elapsed po w p po₁ w₁ p₁) :
    Elapsed po w p po₁ w₁.pop p₁ :=
  ⟨h.log, h.awaits, h.timer⟩

variable [Network σ] [Timer τ κ]

section Publish

theorem sendPacket_pair (hh : StoredAs cfg cfg' c.toSession st) (w : World σ τ κ) (length : Nat)
    (timer p : τ) :
    Twin cfg cfg' c.pingOutstanding w p (sendPacket c w length timer)
      (sendPacket (c.twin st) (w.timed p) length timer) := by
  obtain ⟨t, hcl, hsend⟩ := sendPacket_cases c w length timer
  have hst : (sendPacket c w length timer).client.storage = c.storage := by
    rw [hcl]
  have hping := sendPacket_pingSent c w length timer
  refine ⟨st, p, sendPacket_twin c w length timer st p, hh.congr hst, ?_⟩
  rw [sendPacket_pingOutstanding]
  rcases hsend with ⟨-, hlog⟩ | ⟨-, hlog⟩
  · exact .still hping hlog (fun h => ⟨h, by simp⟩) p
  · exact .still hping hlog (fun h => ⟨h, by simp⟩) p

theorem publishAck_pair (cfg : Config) (packetType : Nat) (timer : τ)
    (hp : c.pingOutstanding = true → p = w.pingSent) :
    Twin cfg cfg c.pingOutstanding w p (publishAck cfg c w packetType timer)
      (publishAck cfg c (w.timed p) packetType timer) := by
  have hwait := waitfor_twin (.refl cfg) packetType timer (.self cfg cfg c.toSession) hp (.inl rfl)
  rw [twin_storage] at hwait
  simp only [publishAck]
  generalize waitfor cfg c w packetType timer = v at hwait ⊢
  generalize waitfor cfg c (w.timed p) packetType timer = v' at hwait ⊢
  obtain ⟨p₁, rfl, hel⟩ := hwait.timed
  have hclosed (w₁ : World σ τ κ) (h : Elapsed c.pingOutstanding w p v.client.pingOutstanding w₁ p₁) :
      Twin cfg cfg c.pingOutstanding w p ⟨FAILURE, v.client.closeSession cfg, w₁⟩
        ⟨FAILURE, v.client.closeSession cfg, w₁.timed p₁⟩ :=
    .of_timed (h.drop fun h => by cases h)
  simp only [World.timed_uninitialised, World.timed_pop]
  split
  · split
    · exact hclosed _ hel.pop
    split
    · exact .of_timed hel.pop
    · exact .of_timed hel.pop
  · exact hclosed _ hel

theorem publishLen_pair (hk : Kin cfg cfg') (hh : StoredAs cfg cfg' c.toSession st) (len : Nat)
    (timer : τ) (qos : QoS) (hp : c.pingOutstanding = true → p = w.pingSent)
    (hqos : cfg' = cfg ∨ qos = .QOS0) :
    Twin cfg cfg' c.pingOutstanding w p (publishLen cfg c w len timer qos)
      (publishLen cfg' (c.twin st) (w.timed p) len timer qos) := by
  have hsend := sendPacket_pair hh w len timer p
  simp only [publishLen]
  generalize sendPacket c w len timer = v at hsend ⊢
  generalize sendPacket (c.twin st) (w.timed p) len timer = v' at hsend ⊢
  obtain ⟨st₁, p₁, rfl, hh₁, hel⟩ := id hsend
  rw [Outcome.twin_rc]
  split
  · exact hsend.close hk
  rcases hqos with rfl | rfl
  · obtain rfl := hh₁.same rfl
    have hack (packetType : Nat) := (publishAck_pair cfg' packetType timer (hel.near hp)).after hel
    split
    · exact hack PUBACK
    split
    · exact hack PUBCOMP
    · exact hsend
  · simp only [reduceCtorEq, and_false, if_false]
    exact hsend

omit [Network σ] [Timer τ κ] in
theorem storeInflight_twin (hk : Kin cfg cfg') (hh : StoredAs cfg cfg' c.toSession st)
    (id len : Nat) (qos : QoS) :
    ∃ st', (c.twin st).storeInflight cfg' id len qos = (c.storeInflight cfg id len qos).twin st' ∧
      StoredAs cfg cfg' (c.storeInflight cfg id len qos).toSession st' := by
  refine ⟨((c.twin st).storeInflight cfg' id len qos).storage, ?_, ?_, ?_⟩
  · simp only [Client.storeInflight]
    split <;> split <;> rfl
  · rintro rfl
    rw [hh.same rfl, twin_storage]
  · intro hq
    have hq' := hk.qos1 hq
    have hid := hh.msgid hq
    simp only [Client.storeInflight, hq, hq', Client.twin_cleansession]
    split
    · rfl
    · exact hid

omit [Network σ] [Timer τ κ] in
theorem numberedFor_twin (c : Client τ) (st : Storage) {qos : QoS}
    (hqos : cfg' = cfg ∨ qos = .QOS0) (id : Nat) :
    (c.twin st).publishId cfg' id qos = c.publishId cfg id qos ∧
      { c.twin st with toSession := (c.twin st).numberedFor cfg' qos } =
        { c with toSession := c.numberedFor cfg qos }.twin st := by
  rcases hqos with rfl | rfl
  · refine ⟨rfl, ?_⟩
    simp only [Session.numberedFor]
    split
    · rfl
    · rfl
  · simp [Session.publishId, Session.numberedFor, Client.twin, Session.withStorage]

omit [Network σ] [Timer τ κ] in
theorem numberedFor_storage (cfg : Config) (s : Session) (qos : QoS) :
    (s.numberedFor cfg qos).storage = s.storage := by
  rw [numberedFor_eq]
  rfl

omit [Network σ] [Timer τ κ] in
theorem storeInflight_pingOutstanding (cfg : Config) (c : Client τ) (id len : Nat) (qos : QoS) :
    (c.storeInflight cfg id len qos).pingOutstanding = c.pingOutstanding := by
  unfold Client.storeInflight
  split
  · rfl
  · rfl

theorem publish_pair (hk : Kin cfg cfg') (hh : StoredAs cfg cfg' c.toSession st)
    (hp : c.pingOutstanding = true → p = w.pingSent) (topicName payload : Bytes) (id : Nat)
    {qos : QoS} (hqos : cfg' = cfg ∨ qos = .QOS0) (retained : Bool) :
    Twin cfg cfg' c.pingOutstanding w p
      (publish cfg c w topicName payload id qos retained).toOutcome
      (publish cfg' (c.twin st) (w.timed p) topicName payload id qos retained).toOutcome := by
  have htick := Elapsed.tick c.pingOutstanding w p
  obtain ⟨hid, hnum⟩ := numberedFor_twin c st hqos id
  simp only [publish, Client.twin_isconnected, Client.twin_commandTimeoutMs, World.timed_countdownMs,
    World.timed_tick, hid, hnum, hk.maxPacketSize]
  generalize serializePublish cfg.maxPacketSize 0 qos.toInt retained.toNat (c.publishId cfg id qos)
    (MQTTString.ofCString topicName) payload = s
  have hh₁ : StoredAs cfg cfg'
      ({ c with toSession := c.numberedFor cfg qos }.fillSendbuf s.2).toSession st :=
    hh.congr (numberedFor_storage cfg c.toSession qos)
  rw [Client.twin_fillSendbuf]
  split
  · exact .of_elapsed hh htick FAILURE
  split
  · exact .of_elapsed hh₁ htick FAILURE
  · obtain ⟨st₁, heq, hh₂⟩ := storeInflight_twin hk hh₁ (c.publishId cfg id qos) s.1.toNat qos
    have hpo := storeInflight_pingOutstanding cfg
      ({ c with toSession := c.numberedFor cfg qos }.fillSendbuf s.2) (c.publishId cfg id qos)
      s.1.toNat qos
    rw [heq]
    have hlen := publishLen_pair hk hh₂ (w := w.tick) s.1.toNat (w.countdownMs c.commandTimeoutMs)
      qos (by rw [hpo]; exact hp) hqos
    rw [hpo] at hlen
    exact hlen.after htick

end Publish

section Connect

theorem connectResend_pair (hk : Kin cfg cfg') (h : Twin cfg cfg' po w p r r')
    (hp : po = true → p = w.pingSent) (hidle : cfg' = cfg ∨ r.client.inflightMsgid = 0)
    (timer : τ) :
    Twin cfg cfg' po w p (connectResend cfg r timer) (connectResend cfg' r' timer) := by
  rcases hidle with rfl | hidle
  · obtain ⟨p₁, rfl, hel⟩ := h.timed
    have hlen (c : Client τ) (hc : c.pingOutstanding = r.client.pingOutstanding) (len : Nat)
        (qos : QoS) :
        Twin cfg' cfg' po w p (publishLen cfg' c r.world len timer qos)
          (publishLen cfg' c (r.world.timed p₁) len timer qos) := by
      have hpair := publishLen_pair hk (.self cfg' cfg' c.toSession) (w := r.world) (p := p₁) len timer
        qos (by rw [hc]; exact hel.near hp) (.inl rfl)
      rw [hc] at hpair
      exact hpair.after hel
    simp only [connectResend]
    split
    · split
      · exact .of_timed hel
      · exact hlen (r.client.fillSendbuf _) rfl _ _
    split
    · exact hlen (r.client.fillSendbuf _) rfl _ _
    · exact h
  · obtain ⟨st, p₁, rfl, hh, hel⟩ := id h
    have hsame (cfg : Config) (s : Outcome σ τ κ) (hs : cfg.qos1 = true → s.client.inflightMsgid = 0) :
        connectResend cfg s timer = s := by
      have hno : ¬(cfg.qos1 = true ∧ 0 < s.client.inflightMsgid) := by
        rintro ⟨hq, hpos⟩
        have := hs hq
        omega
      have hno' : ¬(cfg.qos2 = true ∧ 0 < s.client.inflightMsgid ∧ s.client.inflightQoS = .QOS2 ∧
          s.client.pubrel = true) :=
        fun h => hno ⟨Config.qos1_of_qos2 h.1, h.2.1⟩
      simp only [connectResend]
      rw [if_neg hno', if_neg hno]
    rw [hsame cfg r fun _ => hidle, hsame cfg' (r.twin st p₁) fun hq => (hh.msgid hq).trans hidle]
    exact h

omit [Network σ] [Timer τ κ] in
theorem connectExit_pair (h : Twin cfg cfg' po w p r r') :
    Twin cfg cfg' po w p (connectExit r) (connectExit r') := by
  obtain ⟨st, p₁, rfl, hh, hel⟩ := h
  simp only [connectExit, Outcome.twin_rc]
  split
  · exact ⟨st, p₁, rfl, hh.congr rfl, hel.drop fun h => by cases h⟩
  · exact ⟨st, p₁, rfl, hh, hel⟩

theorem awaitConnack_pair (hk : Kin cfg cfg') (hh : StoredAs cfg cfg' c.toSession st)
    (hp : c.pingOutstanding = true → p = w.pingSent) (timer : τ)
    (hfine : Fine cfg cfg' c.pingOutstanding w (awaitConnack cfg c w timer).world) :
    Twin cfg cfg' c.pingOutstanding w p (awaitConnack cfg c w timer)
      (awaitConnack cfg' (c.twin st) (w.timed p) timer) := by
  simp only [awaitConnack, Client.twin_keepAliveInterval] at hfine ⊢
  split
  · rename_i hpos
    rw [if_pos hpos] at hfine
    have hwait := waitfor_twin hk CONNACK timer
      (c := { c with lastReceived := w.countdown c.keepAliveInterval }) (w := w.tick) hh hp hfine
    exact hwait.after (.tick _ w p)
  · rename_i hzero
    rw [if_neg hzero] at hfine
    exact waitfor_twin hk CONNACK timer hh hp hfine

theorem connectResend_log (cfg : Config) (r : Outcome σ τ κ) (timer : τ) :
    r.world.log <+: (connectExit (connectResend cfg r timer)).world.log := by
  obtain ⟨-, hworld, -⟩ := connectExit_toSession (connectResend cfg r timer)
  obtain ⟨ev, hlog, -⟩ := connectResend_resends cfg r timer
  rw [hworld, hlog]
  exact List.prefix_append _ _

def connackOutcome (v : Outcome σ τ κ) (data : ConnackData) : Outcome σ τ κ :=
  { v with rc := (connackResult v data).1 }

def connectAnswered (cfg : Config) (c : Client τ) (w : World σ τ κ) (data : ConnackData)
    (timer : τ) : Outcome σ τ κ :=
  connectExit (connectResend cfg (connackOutcome (awaitConnack cfg c w timer) data) timer)

theorem connectAnswered_log (cfg : Config) (c : Client τ) (w : World σ τ κ) (data : ConnackData)
    (timer : τ) : w.log <+: (connectAnswered cfg c w data timer).world.log := by
  obtain ⟨ev, hwait⟩ := awaitConnack_wait cfg c w timer
  have hrest := connectResend_log cfg (connackOutcome (awaitConnack cfg c w timer) data) timer
  exact List.IsPrefix.trans ⟨ev, hwait.log.symm⟩ hrest

theorem connectAnswered_pair (hk : Kin cfg cfg') (hh : StoredAs cfg cfg' c.toSession st)
    (hp : c.pingOutstanding = true → p = w.pingSent) (data : ConnackData) (timer : τ)
    (hidle : cfg' = cfg ∨ c.inflightMsgid = 0)
    (hfine : Fine cfg cfg' c.pingOutstanding w (connectAnswered cfg c w data timer).world) :
    Twin cfg cfg' c.pingOutstanding w p (connectAnswered cfg c w data timer)
      (connectAnswered cfg' (c.twin st) (w.timed p) data timer) := by
  obtain ⟨ev, hwait⟩ := awaitConnack_wait cfg c w timer
  have hlog := connectResend_log cfg (connackOutcome (awaitConnack cfg c w timer) data) timer
  have hpair := awaitConnack_pair hk hh hp timer (hfine.before ⟨ev, hwait.log.symm⟩ hlog)
  have hidle₁ := hidle.imp_right hwait.waits.inflight_zero
  simp only [connectAnswered, connackOutcome]
  generalize awaitConnack cfg c w timer = v at hpair hidle₁ ⊢
  generalize awaitConnack cfg' (c.twin st) (w.timed p) timer = v' at hpair ⊢
  have hresult : connackResult v' data = connackResult v data := by
    obtain ⟨st₁, p₁, rfl, -, -⟩ := hpair
    rfl
  rw [hresult]
  have hrc := hpair.withRc (connackResult v data).1
  exact connectExit_pair (connectResend_pair hk hrc hp hidle₁ timer)

theorem connect_pair (hk : Kin cfg cfg') (hh : StoredAs cfg cfg' c.toSession st)
    (hp : c.pingOutstanding = true → p = w.pingSent) (options : ConnectData) (data : ConnackData)
    (hidle : cfg' = cfg ∨ c.inflightMsgid = 0 ∨
      ∀ e ∈ w.since (connect cfg c w options data).world, sentOf CONNECT e = false)
    (hfine : Fine cfg cfg' c.pingOutstanding w (connect cfg c w options data).world) :
    Twin cfg cfg' c.pingOutstanding w p (connect cfg c w options data).toOutcome
      (connect cfg' (c.twin st) (w.timed p) options data).toOutcome := by
  have htick := Elapsed.tick c.pingOutstanding w p
  have hfill : { c.twin st with toSession := (c.twin st).configured options }.fillSendbuf
        (serializeConnect cfg.maxPacketSize options).2 =
      ({ c with toSession := c.configured options }.fillSendbuf
        (serializeConnect cfg.maxPacketSize options).2).twin st := rfl
  have hs := serializeConnect_serializes cfg.maxPacketSize options
  simp only [connect, Client.twin_isconnected, Client.twin_commandTimeoutMs, World.timed_countdownMs,
    World.timed_tick, hk.maxPacketSize, hfill] at hidle hfine ⊢
  have hh₁ : StoredAs cfg cfg' ({ c with toSession := c.configured options }.fillSendbuf
      (serializeConnect cfg.maxPacketSize options).2).toSession st := hh.congr rfl
  split
  · exact .of_elapsed hh htick FAILURE
  rename_i hoff
  rw [if_neg hoff] at hidle hfine
  split
  · exact .of_elapsed hh₁ htick FAILURE
  rename_i hfit
  rw [if_neg hfit] at hidle hfine
  have hsend := sendPacket_pair hh₁ w.tick (serializeConnect cfg.maxPacketSize options).1.toNat
    (w.countdownMs c.commandTimeoutMs) p
  obtain ⟨hsession, hsent⟩ := sendPacket_request hs (Int.not_le.mp hfit)
    { c with toSession := c.configured options } w.tick (w.countdownMs c.commandTimeoutMs)
  generalize sendPacket ({ c with toSession := c.configured options }.fillSendbuf
    (serializeConnect cfg.maxPacketSize options).2) w.tick
    (serializeConnect cfg.maxPacketSize options).1.toNat (w.countdownMs c.commandTimeoutMs) = v at *
  generalize sendPacket (({ c with toSession := c.configured options }.fillSendbuf
    (serializeConnect cfg.maxPacketSize options).2).twin st) (w.tick.timed p)
    (serializeConnect cfg.maxPacketSize options).1.toNat (w.countdownMs c.commandTimeoutMs) = v' at *
  obtain ⟨st₁, p₁, rfl, hh₂, hel⟩ := id hsend
  rw [Outcome.twin_rc]
  split
  · exact hsend.after htick
  rename_i hok
  rw [if_neg hok] at hidle hfine
  have hlog : v.world.log = w.log ++ [.sent (serializeConnect cfg.maxPacketSize options).2] := by
    rcases hsent with ⟨-, hlog⟩ | ⟨hrc', -⟩
    · exact hlog
    · exact absurd (hrc'.symm.trans (not_not.mp hok)) (by decide)
  have hrest := connectAnswered_log cfg v.client v.world data (w.countdownMs c.commandTimeoutMs)
  have hstart := htick.trans hel
  have hfine₁ : Fine cfg cfg' v.client.pingOutstanding v.world (connectAnswered cfg v.client v.world
      data (w.countdownMs c.commandTimeoutMs)).world :=
    hfine.after hstart hrest
  refine (connectAnswered_pair hk hh₂ (hel.near hp) data _ ?_ hfine₁).after hstart
  rcases hidle with hsame | hzero | hun
  · exact .inl hsame
  · refine .inr ?_
    rw [hsession]
    exact hzero
  · have hmem : .sent (serializeConnect cfg.maxPacketSize options).2 ∈ w.since v.world := by
      rw [World.since_eq hlog]
      exact List.mem_singleton_self _
    have hsince := Elapsed.since_append hstart.log hrest
    have hno := hun (.sent (serializeConnect cfg.maxPacketSize options).2)
      (hsince ▸ List.mem_append_left _ hmem)
    simp [sentOf, (hs (Int.not_le.mp hfit)).2] at hno

end Connect

section Requests

omit [Network σ] [Timer τ κ] in
theorem subscribeAck_pair (hk : Kin cfg cfg') (h : Twin cfg cfg' po w p r r') (topicFilter : Bytes)
    (mh : Option Nat) (grantedQoS : Int) :
    Twin cfg cfg' po w p (subscribeAck cfg r topicFilter mh grantedQoS).toOutcome
      (subscribeAck cfg' r' topicFilter mh grantedQoS).toOutcome := by
  obtain ⟨st, p₁, rfl, hh, hel⟩ := id h
  simp only [subscribeAck, Outcome.twin_rc, Outcome.twin_client, Outcome.twin_world, World.timed_uninitialised,
    Client.twin_readbuf, Client.twin_messageHandlers, hk.charSigned]
  split
  · split
    · exact ⟨st, p₁, rfl, hh.congr rfl, hel.pop⟩
    · exact ⟨st, p₁, rfl, hh, hel.pop⟩
  · exact h.withRc FAILURE

omit [Network σ] [Timer τ κ] in
theorem unsubscribeAck_pair (h : Twin cfg cfg' po w p r r') (topicFilter : Bytes) :
    Twin cfg cfg' po w p (unsubscribeAck r topicFilter) (unsubscribeAck r' topicFilter) := by
  obtain ⟨st, p₁, rfl, hh, hel⟩ := id h
  simp only [unsubscribeAck, Outcome.twin_rc, Outcome.twin_client, Outcome.twin_world, World.timed_uninitialised,
    Client.twin_readbuf, Client.twin_messageHandlers]
  split
  · split
    · exact ⟨st, p₁, rfl, hh.congr rfl, hel.pop⟩
    · exact ⟨st, p₁, rfl, hh, hel.pop⟩
  · exact h.withRc FAILURE

omit [Network σ] [Timer τ κ] in
theorem closeOn_pair (hk : Kin cfg cfg') (h : Twin cfg cfg' po w p r r') :
    Twin cfg cfg' po w p (closeOn cfg (r.rc = FAILURE) r) (closeOn cfg' (r'.rc = FAILURE) r') := by
  rw [h.rc_eq]
  cases decide (r.rc = FAILURE) with
  | false => exact h
  | true => exact h.close hk

theorem requestOutcome_pair (hk : Kin cfg cfg') (hh : StoredAs cfg cfg' c.toSession st)
    (hp : c.pingOutstanding = true → p = w.pingSent) (request : Int × Bytes) (packetType : Nat)
    {ack ack' : Outcome σ τ κ → Outcome σ τ κ} (hlog : ∀ v, (ack v).world.log = v.world.log)
    (hack : ∀ {v v'}, Twin cfg cfg' c.pingOutstanding w p v v' →
      Twin cfg cfg' c.pingOutstanding w p (ack v) (ack' v'))
    (hfine : Fine cfg cfg' c.pingOutstanding w
      (requestOutcome cfg c w request packetType fun v =>
        closeOn cfg ((ack v).rc = FAILURE) (ack v)).world) :
    Twin cfg cfg' c.pingOutstanding w p
      (requestOutcome cfg c w request packetType fun v =>
        closeOn cfg ((ack v).rc = FAILURE) (ack v))
      (requestOutcome cfg' (c.twin st) (w.timed p) request packetType fun v =>
        closeOn cfg' ((ack' v).rc = FAILURE) (ack' v)) := by
  have htick := Elapsed.tick c.pingOutstanding w p
  have hfill : { c.twin st with toSession := (c.twin st).numbered }.fillSendbuf request.2 =
      ({ c with toSession := c.numbered }.fillSendbuf request.2).twin st := rfl
  have hh₁ : StoredAs cfg cfg' ({ c with toSession := c.numbered }.fillSendbuf request.2).toSession
      st := hh.congr rfl
  simp only [requestOutcome, Client.twin_isconnected, Client.twin_commandTimeoutMs,
    World.timed_countdownMs, World.timed_tick, hfill] at hfine ⊢
  split
  · exact Twin.close hk (.of_elapsed hh htick FAILURE)
  rename_i hon
  rw [if_neg hon] at hfine
  split
  · exact Twin.close hk (.of_elapsed hh₁ htick FAILURE)
  rename_i hfit
  rw [if_neg hfit] at hfine
  have hsend := sendPacket_pair hh₁ w.tick request.1.toNat (w.countdownMs c.commandTimeoutMs) p
  generalize sendPacket ({ c with toSession := c.numbered }.fillSendbuf request.2) w.tick
    request.1.toNat (w.countdownMs c.commandTimeoutMs) = v at *
  generalize sendPacket (({ c with toSession := c.numbered }.fillSendbuf request.2).twin st)
    (w.tick.timed p) request.1.toNat (w.countdownMs c.commandTimeoutMs) = v' at *
  obtain ⟨st₁, p₁, rfl, hh₂, hel⟩ := id hsend
  rw [Outcome.twin_rc]
  split
  · exact (hsend.after htick).close hk
  rename_i hok
  rw [if_neg hok] at hfine
  have hstart := htick.trans hel
  have hwait := waitforLoop_log cfg packetType (w.countdownMs c.commandTimeoutMs)
    (v.world.clock.length + 1) FAILURE v.client v.world
  obtain ⟨-, hworld, -⟩ := closeOn_toSession cfg
    ((ack (waitfor cfg v.client v.world packetType (w.countdownMs c.commandTimeoutMs))).rc = FAILURE)
    (ack (waitfor cfg v.client v.world packetType (w.countdownMs c.commandTimeoutMs)))
  have hfine₁ := hfine.after hstart (by rw [hworld, hlog]; exact hwait)
  rw [Fine, World.since, hworld, hlog] at hfine₁
  have hpair := (waitfor_twin hk packetType _ hh₂ (hel.near hp) hfine₁).after hstart
  exact closeOn_pair hk (hack hpair)

theorem subscribe_pair (hk : Kin cfg cfg') (hh : StoredAs cfg cfg' c.toSession st)
    (hp : c.pingOutstanding = true → p = w.pingSent) (topicFilter : Bytes) (qos : QoS)
    (mh : Option Nat) (grantedQoS : Int)
    (hfine : Fine cfg cfg' c.pingOutstanding w
      (subscribe cfg c w topicFilter qos mh grantedQoS).world) :
    Twin cfg cfg' c.pingOutstanding w p (subscribe cfg c w topicFilter qos mh grantedQoS).toOutcome
      (subscribe cfg' (c.twin st) (w.timed p) topicFilter qos mh grantedQoS).toOutcome := by
  rw [subscribe_eq_request] at hfine
  rw [subscribe_eq_request, subscribe_eq_request, hk.maxPacketSize, Client.twin_packetid]
  refine requestOutcome_pair hk hh hp _ SUBACK ?_ ?_ hfine
  · intro v
    exact (subscribeAck_answer cfg v topicFilter mh grantedQoS).log
  · intro v v' h
    exact subscribeAck_pair hk h topicFilter mh grantedQoS

theorem unsubscribe_pair (hk : Kin cfg cfg') (hh : StoredAs cfg cfg' c.toSession st)
    (hp : c.pingOutstanding = true → p = w.pingSent) (topicFilter : Bytes)
    (hfine : Fine cfg cfg' c.pingOutstanding w (unsubscribe cfg c w topicFilter).world) :
    Twin cfg cfg' c.pingOutstanding w p (unsubscribe cfg c w topicFilter)
      (unsubscribe cfg' (c.twin st) (w.timed p) topicFilter) := by
  rw [unsubscribe_eq_request, unsubscribeAnswer_eq] at hfine
  rw [unsubscribe_eq_request, unsubscribe_eq_request, unsubscribeAnswer_eq, unsubscribeAnswer_eq,
    hk.maxPacketSize, Client.twin_packetid]
  refine requestOutcome_pair hk hh hp _ UNSUBACK ?_ ?_ hfine
  · intro v
    exact (unsubscribeAck_answer v topicFilter).log
  · intro v v' h
    exact unsubscribeAck_pair h topicFilter

theorem disconnect_pair (hk : Kin cfg cfg') (hh : StoredAs cfg cfg' c.toSession st)
    (w : World σ τ κ) (p : τ) :
    Twin cfg cfg' c.pingOutstanding w p (disconnect cfg c w)
      (disconnect cfg' (c.twin st) (w.timed p)) := by
  have htick := Elapsed.tick c.pingOutstanding w p
  have hh₁ : StoredAs cfg cfg'
      (c.fillSendbuf (serializeDisconnect cfg.maxPacketSize).2).toSession st := hh
  have hsend := sendPacket_pair hh₁ w.tick (serializeDisconnect cfg.maxPacketSize).1.toNat
    (w.countdownMs c.commandTimeoutMs) p
  simp only [disconnect, Client.twin_commandTimeoutMs, World.timed_countdownMs, World.timed_tick,
    Client.twin_fillSendbuf, hk.maxPacketSize]
  split
  · exact (hsend.after htick).close hk
  · have hunfit : Elapsed c.pingOutstanding w p
        (c.fillSendbuf (serializeDisconnect cfg.maxPacketSize).2).pingOutstanding w.tick p := htick
    exact Twin.close hk (.of_elapsed hh₁ hunfit FAILURE)

end Requests

def Op.qos0 : Op → Bool
  | .publish _ _ _ qos _ => qos = .QOS0
  | .subscribe _ qos _ => qos = .QOS0
  | _ => true

def Op.fresh (s : Session) (events : List Event) : Op → Bool
  | .connect _ => s.inflightMsgid = 0 || events.all fun e => !sentOf CONNECT e
  | _ => true

theorem run_pair (hk : Kin cfg cfg') (hh : StoredAs cfg cfg' c.toSession st)
    (hp : c.pingOutstanding = true → p = w.pingSent) (op : Op)
    (hop : cfg' = cfg ∨ op.qos0 = true ∧
      op.fresh c.toSession (w.since (op.run cfg c w).world) = true)
    (hfine : Fine cfg cfg' c.pingOutstanding w (op.run cfg c w).world) :
    Twin cfg cfg' c.pingOutstanding w p (op.run cfg c w)
      (op.run cfg' (c.twin st) (w.timed p)) := by
  cases op with
  | connect options =>
    refine connect_pair hk hh hp options ⟨0, false⟩ ?_ hfine
    refine hop.imp_right fun h => ?_
    simpa [Op.fresh, Op.run] using h.2
  | publish topicName payload id qos retained =>
    refine publish_pair hk hh hp topicName payload id ?_ retained
    exact hop.imp_right fun h => by simpa [Op.qos0] using h.1
  | subscribe topicFilter qos mh => exact subscribe_pair hk hh hp topicFilter qos mh 0 hfine
  | unsubscribe topicFilter => exact unsubscribe_pair hk hh hp topicFilter hfine
  | yield timeoutMs => exact yield_twin hk timeoutMs hh hp hfine
  | disconnect => exact disconnect_pair hk hh w p
  | setMessageHandler topicFilter mh => exact ⟨st, p, rfl, hh.congr rfl, .refl _ _ _⟩
  | setDefaultMessageHandler mh => exact ⟨st, p, rfl, hh.congr rfl, .refl _ _ _⟩

def System.twin (y : System τ) (st : Storage) (p : τ) : System τ := ⟨y.client.twin st, p, y.log⟩

theorem System.perform_pair (hk : Kin cfg cfg') (y : System τ) {st : Storage} {p : τ}
    (hh : StoredAs cfg cfg' y.client.toSession st)
    (hp : y.client.pingOutstanding = true → p = y.pingSent) (call : Call σ κ)
    (hop : cfg' = cfg ∨ call.op.qos0 = true ∧
      call.op.fresh y.client.toSession (y.events cfg call) = true)
    (hfine : cfg' = cfg ∨ plain y.client.pingOutstanding (y.events cfg call) = true) :
    ∃ st₁ p₁, (y.twin st p).perform cfg' call = (y.perform cfg call).twin st₁ p₁ ∧
      (y.twin st p).rc cfg' call = y.rc cfg call ∧
      StoredAs cfg cfg' (y.perform cfg call).client.toSession st₁ ∧
      ((y.perform cfg call).client.pingOutstanding = true → p₁ = (y.perform cfg call).pingSent) ∧
      ((y.perform cfg call).pingSent = y.pingSent ∨
        ∃ e ∈ y.events cfg call, sentOf PINGREQ e = true) := by
  obtain ⟨st₁, p₁, heq, hh₁, hel⟩ := run_pair hk hh (w := y.enter call) hp call.op hop hfine
  have hrc : (y.twin st p).rc cfg' call = y.rc cfg call := congrArg (·.rc) heq
  refine ⟨st₁, p₁, ?_, hrc, hh₁, hel.near hp, ?_⟩
  · exact congrArg (fun r : Outcome σ τ κ => (⟨r.client, r.world.pingSent, r.world.log⟩ : System τ)) heq
  · rcases hel.timer with ⟨hping, -, -⟩ | ⟨-, hsent⟩
    · exact .inl hping
    · exact .inr hsent

end MbedMqtt
