import MbedMqtt.Client.Wait

namespace MbedMqtt

def awaitedAck (cfg : Config) (qos : QoS) : Option Nat :=
  if cfg.qos1 ∧ qos = .QOS1 then some PUBACK
  else if cfg.qos2 ∧ qos = .QOS2 then some PUBCOMP
  else none

theorem awaitedAck_pos {cfg : Config} {qos : QoS} {packetType : Nat}
    (h : awaitedAck cfg qos = some packetType) : 0 < packetType := by
  unfold awaitedAck at h
  split at h
  · cases h
    decide
  · split at h
    · cases h
      decide
    · cases h

namespace Session

def acknowledge (s : Session) (id : Nat) : Session :=
  if s.inflightMsgid = id then { s with inflightMsgid := 0 } else s

def closeIf (cfg : Config) (failed : Bool) (s : Session) : Session :=
  if failed then s.close cfg else s

def prepared (cfg : Config) (s : Session) (id : Nat) (packet : Bytes) (qos : QoS) : Session :=
  if cfg.qos1 && !s.cleansession then
    (s.numberedFor cfg qos).stored cfg (s.publishId cfg id qos) packet.length packet qos
  else s.numberedFor cfg qos

def resent (cfg : Config) (s : Session) (sendbuf : Bytes) : Bytes :=
  (store sendbuf 0 (s.pubbuf.take cfg.maxPacketSize)).take s.inflightLen

end Session

inductive Publishing (cfg : Config) (packet : Bytes) (qos : QoS) (s : Session) :
    Int → List Event → Session → Prop
  | unsent : Publishing cfg packet qos s FAILURE [.unsent packet] (s.close cfg)
  | sent (h : awaitedAck cfg qos = none) : Publishing cfg packet qos s SUCCESS [.sent packet] s
  | acked {packetType : Nat} {ev : List Event} {u : Session} {header : UInt8} {body : Bytes}
      (uninitialised : Nat) (h : awaitedAck cfg qos = some packetType) (hw : Waits cfg s ev u)
      (ha : Awaited packetType (heard ev) header body)
      (hl : u.isconnected = (s.isconnected && allExpected cfg (heard ev))) :
      Publishing cfg packet qos s SUCCESS (.sent packet :: ev)
        (u.acknowledge (ackId uninitialised body))
  | unacked {packetType : Nat} {ev : List Event} {u : Session}
      (h : awaitedAck cfg qos = some packetType) (hw : Waits cfg s ev u) :
      Publishing cfg packet qos s FAILURE (.sent packet :: ev) (u.close cfg)

inductive Publishes (cfg : Config) (s : Session) (topicName payload : Bytes) (id : Nat) (qos : QoS)
    (retained : Bool) : Int → List Event → Session → Prop
  | refused (h : s.isconnected = false) :
      Publishes cfg s topicName payload id qos retained FAILURE [] s
  | unfit (h : s.isconnected = true)
      (hfit : (serializePublish cfg.maxPacketSize 0 qos.toInt retained.toNat
        (s.publishId cfg id qos) (.ofCString topicName) payload).1 ≤ 0) :
      Publishes cfg s topicName payload id qos retained FAILURE [] (s.numberedFor cfg qos)
  | handed {packet : Bytes} {rc : Int} {ev : List Event} {t : Session} (h : s.isconnected = true)
      (hpacket : serializePublish cfg.maxPacketSize 0 qos.toInt retained.toNat
        (s.publishId cfg id qos) (.ofCString topicName) payload = ((packet.length : Int), packet))
      (htype : packetType packet = PUBLISH) (hlen : 0 < packet.length)
      (hp : Publishing cfg packet qos (s.prepared cfg id packet qos) rc ev t) :
      Publishes cfg s topicName payload id qos retained rc ev t

inductive Resends (cfg : Config) (s : Session) (verdict : Int) : Int → List Event → Session → Prop
  | nothing (h : ¬(cfg.qos1 = true ∧ 0 < s.inflightMsgid)) : Resends cfg s verdict verdict [] s
  | cramped (hq : cfg.qos2 = true) (hpos : 0 < s.inflightMsgid) (h2 : s.inflightQoS = .QOS2)
      (hrel : s.pubrel = true) (hsize : cfg.maxPacketSize < 4) : Resends cfg s verdict FAILURE [] s
  | pubrel {rc : Int} {ev : List Event} {t : Session} (hq : cfg.qos2 = true)
      (hpos : 0 < s.inflightMsgid) (h2 : s.inflightQoS = .QOS2) (hrel : s.pubrel = true)
      (hp : Publishing cfg (ackPacket PUBREL s.inflightMsgid) s.inflightQoS s rc ev t) :
      Resends cfg s verdict rc ev t
  | publish {rc : Int} {ev : List Event} {t : Session} (hq : cfg.qos1 = true)
      (hpos : 0 < s.inflightMsgid)
      (hrel : ¬(cfg.qos2 = true ∧ s.inflightQoS = .QOS2 ∧ s.pubrel = true)) (sendbuf : Bytes)
      (hp : Publishing cfg (s.resent cfg sendbuf) s.inflightQoS s rc ev t) :
      Resends cfg s verdict rc ev t

inductive Verdict (packets : List (UInt8 × Bytes)) : Int → Prop
  | connack {header : UInt8} {body : Bytes} (h : Awaited CONNACK packets header body) :
      Verdict packets (if 2 ≤ body.length then (byteAt body 1).toNat else 0)
  | failed : Verdict packets FAILURE

inductive Connects (cfg : Config) (options : ConnectData) (s : Session) :
    Int → List Event → Session → Prop
  | already (h : s.isconnected = true) : Connects cfg options s FAILURE [] s
  | unfit (h : s.isconnected = false)
      (hfit : (serializeConnect cfg.maxPacketSize options).1 ≤ 0) :
      Connects cfg options s FAILURE [] (s.configured options)
  | unsent {packet : Bytes} (h : s.isconnected = false)
      (hpacket : serializeConnect cfg.maxPacketSize options = ((packet.length : Int), packet))
      (htype : packetType packet = CONNECT) :
      Connects cfg options s FAILURE [.unsent packet] (s.configured options)
  | answered {packet : Bytes} {ev₁ ev₂ : List Event} {u v : Session} {verdict rc : Int}
      (h : s.isconnected = false)
      (hpacket : serializeConnect cfg.maxPacketSize options = ((packet.length : Int), packet))
      (htype : packetType packet = CONNECT) (hw : Waits cfg (s.configured options) ev₁ u)
      (hv : Verdict (heard ev₁) verdict) (hr : Resends cfg u verdict rc ev₂ v) :
      Connects cfg options s rc (.sent packet :: (ev₁ ++ ev₂))
        (if rc = SUCCESS then { v with isconnected := true } else v)

inductive Requests (cfg : Config) (request : Int × Bytes) (ackType : Nat) (topicFilter : Bytes)
    (mh : Option Nat) (s : Session) : Int → List Event → Session → Prop
  | refused (h : s.isconnected = false) :
      Requests cfg request ackType topicFilter mh s FAILURE [] (s.close cfg)
  | unfit (h : s.isconnected = true) (hfit : request.1 ≤ 0) :
      Requests cfg request ackType topicFilter mh s FAILURE [] (s.numbered.close cfg)
  | unsent (h : s.isconnected = true) (hfit : 0 < request.1) :
      Requests cfg request ackType topicFilter mh s FAILURE [.unsent request.2]
        (s.numbered.close cfg)
  | unacked {ev : List Event} {u : Session} (h : s.isconnected = true) (hfit : 0 < request.1)
      (hw : Waits cfg s.numbered ev u) :
      Requests cfg request ackType topicFilter mh s FAILURE (.sent request.2 :: ev) (u.close cfg)
  | answered {ev : List Event} {u : Session} {header : UInt8} {body : Bytes} {rc : Int}
      {slots : List MessageHandlers} (h : s.isconnected = true) (hfit : 0 < request.1)
      (hw : Waits cfg s.numbered ev u) (ha : Awaited ackType (heard ev) header body)
      (hl : u.isconnected = (s.isconnected && allExpected cfg (heard ev)))
      (hrc : rc = SUCCESS ∨ rc = FAILURE)
      (hslots : slots = u.messageHandlers ∨
        slots = (setMessageHandler u.messageHandlers topicFilter mh).2) :
      Requests cfg request ackType topicFilter mh s rc (.sent request.2 :: ev)
        (Session.closeIf cfg (rc = FAILURE) { u with messageHandlers := slots })

inductive Disconnects (cfg : Config) (s : Session) : List Event → Session → Prop
  | unfit : Disconnects cfg s [] (s.close cfg)
  | sent {packet : Bytes} (h : packetType packet = DISCONNECT) :
      Disconnects cfg s [.sent packet] (s.close cfg)
  | unsent {packet : Bytes} (h : packetType packet = DISCONNECT) :
      Disconnects cfg s [.unsent packet] (s.close cfg)

variable {σ τ κ : Type} [Network σ] [Timer τ κ]

theorem setMessageHandler_rc (slots : List MessageHandlers) (topicFilter : Bytes)
    (mh : Option Nat) : (setMessageHandler slots topicFilter mh).1 = SUCCESS ∨
      (setMessageHandler slots topicFilter mh).1 = FAILURE := by
  unfold setMessageHandler
  simp only
  split
  · cases mh <;> exact .inl rfl
  · cases mh with
    | none => exact .inr rfl
    | some h =>
      simp only
      split
      · exact .inl rfl
      · exact .inr rfl

omit [Network σ] [Timer τ κ] in
theorem closeSession_toSession (cfg : Config) (c : Client τ) :
    (c.closeSession cfg).toSession = c.toSession.close cfg := rfl

theorem publishAck_publishing {cfg : Config} {c : Client τ} {w : World σ τ κ} {packetType : Nat}
    {qos : QoS} (packet : Bytes) (timer : τ) (h : awaitedAck cfg qos = some packetType) :
    ∃ ev, (publishAck cfg c w packetType timer).world.log = w.log ++ ev ∧
      Publishing cfg packet qos c.toSession (publishAck cfg c w packetType timer).rc
        (.sent packet :: ev) (publishAck cfg c w packetType timer).client.toSession := by
  obtain ⟨ev, hwait⟩ := waitfor_wait cfg c w (awaitedAck_pos h) timer
  unfold publishAck
  simp only
  generalize waitfor cfg c w packetType timer = r at *
  refine ⟨ev, ?_⟩
  split
  · rename_i hrc
    obtain ⟨header, body, tail, ha, hbuf⟩ := hwait.found hrc
    have hack := deserializeAck_framed r.world.uninitialised header body tail ha.2.1
    rw [← hbuf] at hack
    have hacked : Publishing cfg packet qos c.toSession SUCCESS (.sent packet :: ev)
        (r.client.acknowledge (ackId r.world.uninitialised body)) :=
      .acked r.world.uninitialised h hwait.waits ha (hwait.alive (by omega))
    rw [hack, if_neg (by simp)]
    unfold Session.acknowledge at hacked
    split
    · rename_i hid
      rw [if_pos hid] at hacked
      exact ⟨hwait.log, hacked⟩
    · rename_i hid
      rw [if_neg hid] at hacked
      exact ⟨hwait.log, hacked⟩
  · exact ⟨hwait.log, .unacked h hwait.waits⟩

theorem publishLen_publishing (cfg : Config) (c : Client τ) (w : World σ τ κ) (len : Nat)
    (timer : τ) (qos : QoS) :
    ∃ ev, (publishLen cfg c w len timer qos).world.log = w.log ++ ev ∧
      Publishing cfg (c.sendbuf.take len) qos c.toSession (publishLen cfg c w len timer qos).rc ev
        (publishLen cfg c w len timer qos).client.toSession := by
  obtain ⟨t, hcl, hsend⟩ := sendPacket_cases c w len timer
  have hsession : (sendPacket c w len timer).client.toSession = c.toSession := by rw [hcl]
  unfold publishLen
  simp only
  generalize sendPacket c w len timer = r at *
  rcases hsend with ⟨hrc, hlog⟩ | ⟨hrc, hlog⟩
  · rw [if_neg (not_not_intro hrc)]
    have hack {packetType : Nat} (h : awaitedAck cfg qos = some packetType) :
        ∃ ev, (publishAck cfg r.client r.world packetType timer).world.log = w.log ++ ev ∧
          Publishing cfg (c.sendbuf.take len) qos c.toSession
            (publishAck cfg r.client r.world packetType timer).rc ev
            (publishAck cfg r.client r.world packetType timer).client.toSession := by
      obtain ⟨ev, hl, hp⟩ := publishAck_publishing (c := r.client) (w := r.world)
        (c.sendbuf.take len) timer h
      rw [hsession] at hp
      exact ⟨_, by rw [hl, hlog]; simp, hp⟩
    split
    · rename_i h1
      exact hack (by simp [awaitedAck, h1])
    · rename_i h1
      split
      · rename_i h2
        exact hack (by simp [awaitedAck, h2])
      · rename_i h2
        refine ⟨_, hlog, ?_⟩
        rw [hrc, hsession]
        exact .sent (by rw [awaitedAck, if_neg h1, if_neg h2])
  · rw [if_pos (by rw [hrc]; decide)]
    refine ⟨_, hlog, ?_⟩
    rw [hrc, closeSession_toSession, hsession]
    exact .unsent

theorem Serializes.toNat_eq {r : Int × Bytes} {type : Nat} (h : Serializes r type) (hpos : 0 < r.1) :
    r.1.toNat = r.2.length := by
  rw [(h hpos).1, Int.toNat_natCast]

theorem Serializes.eq {r : Int × Bytes} {type : Nat} (h : Serializes r type) (hpos : 0 < r.1) :
    r = ((r.2.length : Int), r.2) := by
  rw [← (h hpos).1]

theorem sendPacket_request {r : Int × Bytes} {type : Nat} (h : Serializes r type) (hpos : 0 < r.1)
    (c : Client τ) (w : World σ τ κ) (timer : τ) :
    (sendPacket (c.fillSendbuf r.2) w r.1.toNat timer).client.toSession = c.toSession ∧
      ((sendPacket (c.fillSendbuf r.2) w r.1.toNat timer).rc = SUCCESS ∧
          (sendPacket (c.fillSendbuf r.2) w r.1.toNat timer).world.log = w.log ++ [.sent r.2] ∨
        (sendPacket (c.fillSendbuf r.2) w r.1.toNat timer).rc = FAILURE ∧
          (sendPacket (c.fillSendbuf r.2) w r.1.toNat timer).world.log =
            w.log ++ [.unsent r.2]) := by
  rw [h.toNat_eq hpos]
  obtain ⟨t, hcl, hsend⟩ := sendPacket_fill c w r.2 timer
  exact ⟨by rw [hcl]; rfl, hsend⟩

theorem numberedFor_eq (cfg : Config) (s : Session) (qos : QoS) :
    s.numberedFor cfg qos = { s with packetid := s.publishId cfg s.packetid qos } := by
  rw [Session.numberedFor, Session.publishId]
  split
  · rfl
  · rfl

theorem acknowledge_eq (s : Session) (id : Nat) :
    s.acknowledge id =
      { s with inflightMsgid := if s.inflightMsgid = id then 0 else s.inflightMsgid } := by
  rw [Session.acknowledge]
  split
  · rfl
  · rfl

@[simp] theorem numberedFor_cleansession (cfg : Config) (s : Session) (qos : QoS) :
    (s.numberedFor cfg qos).cleansession = s.cleansession := by
  rw [numberedFor_eq]

@[simp] theorem acknowledge_isconnected (s : Session) (id : Nat) :
    (s.acknowledge id).isconnected = s.isconnected := by
  rw [acknowledge_eq]

@[simp] theorem acknowledge_cleansession (s : Session) (id : Nat) :
    (s.acknowledge id).cleansession = s.cleansession := by
  rw [acknowledge_eq]

@[simp] theorem acknowledge_incomingQoS2messages (s : Session) (id : Nat) :
    (s.acknowledge id).incomingQoS2messages = s.incomingQoS2messages := by
  rw [acknowledge_eq]

@[simp] theorem numberedFor_isconnected (cfg : Config) (s : Session) (qos : QoS) :
    (s.numberedFor cfg qos).isconnected = s.isconnected := by
  rw [numberedFor_eq]

@[simp] theorem prepared_isconnected (cfg : Config) (s : Session) (id : Nat) (packet : Bytes)
    (qos : QoS) : (s.prepared cfg id packet qos).isconnected = s.isconnected := by
  unfold Session.prepared
  split
  · exact numberedFor_isconnected cfg s qos
  · exact numberedFor_isconnected cfg s qos

theorem publish_publishes (cfg : Config) (c : Client τ) (w : World σ τ κ)
    (topicName payload : Bytes) (id : Nat) (qos : QoS) (retained : Bool) :
    ∃ ev, (publish cfg c w topicName payload id qos retained).world.log = w.log ++ ev ∧
      Publishes cfg c.toSession topicName payload id qos retained
        (publish cfg c w topicName payload id qos retained).rc ev
        (publish cfg c w topicName payload id qos retained).client.toSession := by
  have hs := serializePublish_serializes cfg.maxPacketSize 0 qos.toInt retained.toNat
    (c.publishId cfg id qos) (.ofCString topicName) payload
  unfold publish
  simp only
  generalize hr : serializePublish cfg.maxPacketSize 0 qos.toInt retained.toNat
    (c.publishId cfg id qos) (.ofCString topicName) payload = r at *
  split
  · rename_i hconn
    exact ⟨[], by simp, .refused (by simpa using hconn)⟩
  · rename_i hconn
    have hconn : c.isconnected = true := by simpa using hconn
    split
    · rename_i hfit
      exact ⟨[], by simp, .unfit hconn (by rw [hr]; exact hfit)⟩
    · rename_i hfit
      have hpos : 0 < r.1 := Int.not_le.mp hfit
      rw [hs.toNat_eq hpos]
      obtain ⟨ev, hlog, hp⟩ := publishLen_publishing cfg
        (({ c with toSession := c.numberedFor cfg qos }.fillSendbuf r.2).storeInflight cfg
          (c.publishId cfg id qos) r.2.length qos) w.tick r.2.length
        (w.countdownMs c.commandTimeoutMs) qos
      refine ⟨ev, hlog, .handed hconn (hr.trans (hs.eq hpos)) (hs hpos).2 ?_ ?_⟩
      · have := (hs hpos).1
        omega
      · have hbuf := take_fillSendbuf { c with toSession := c.numberedFor cfg qos } r.2
        unfold Client.storeInflight at hp ⊢
        unfold Session.prepared
        simp only [fillSendbuf_toSession, numberedFor_cleansession] at hp ⊢
        split at hp
        · rename_i hstore
          rw [if_pos hstore, if_pos hstore]
          simpa [hbuf] using hp
        · rename_i hstore
          rw [if_neg hstore, if_neg hstore]
          simpa [hbuf] using hp

theorem resent_header {cfg : Config} {s : Session} (sendbuf : Bytes) (hlen : 0 < s.inflightLen)
    (hsize : 0 < cfg.maxPacketSize) (hbuf : 0 < s.pubbuf.length) :
    byteAt (s.resent cfg sendbuf) 0 = byteAt s.pubbuf 0 := by
  obtain ⟨len, hlen⟩ : ∃ k, s.inflightLen = k + 1 := ⟨s.inflightLen - 1, by omega⟩
  obtain ⟨size, hsize⟩ : ∃ k, cfg.maxPacketSize = k + 1 := ⟨cfg.maxPacketSize - 1, by omega⟩
  cases hb : s.pubbuf with
  | nil => simp [hb] at hbuf
  | cons b bs => simp [Session.resent, hb, store_zero, hlen, hsize, byteAt]

theorem resent_eq {cfg : Config} {s : Session} (sendbuf : Bytes)
    (hsize : s.inflightLen ≤ cfg.maxPacketSize) (hbuf : s.inflightLen ≤ s.pubbuf.length) :
    s.resent cfg sendbuf = s.pubbuf.take s.inflightLen := by
  have hlen : s.inflightLen ≤ (s.pubbuf.take cfg.maxPacketSize).length := by
    rw [List.length_take]
    omega
  rw [Session.resent, store_zero, List.take_append_of_le_length hlen, List.take_take,
    Nat.min_eq_left hsize]

theorem connectResend_resends (cfg : Config) (r : Outcome σ τ κ) (timer : τ) :
    ∃ ev, (connectResend cfg r timer).world.log = r.world.log ++ ev ∧
      Resends cfg r.client.toSession r.rc (connectResend cfg r timer).rc ev
        (connectResend cfg r timer).client.toSession := by
  unfold connectResend
  simp only [serializeAck_eq]
  split
  · rename_i h
    obtain ⟨hq, hpos, h2, hrel⟩ := h
    by_cases hsize : cfg.maxPacketSize < 4
    · simp only [hsize, if_true]
      exact ⟨[], by simp, .cramped hq hpos h2 hrel hsize⟩
    · simp only [hsize, if_false]
      rw [if_neg (by decide)]
      obtain ⟨ev, hlog, hp⟩ := publishLen_publishing cfg
        (r.client.fillSendbuf (ackPacket PUBREL r.client.inflightMsgid)) r.world 4 timer
        r.client.inflightQoS
      have hbuf := take_fillSendbuf r.client (ackPacket PUBREL r.client.inflightMsgid)
      rw [ackPacket_length] at hbuf
      rw [hbuf] at hp
      exact ⟨ev, hlog, .pubrel hq hpos h2 hrel hp⟩
  · rename_i h
    split
    · rename_i hin
      obtain ⟨ev, hlog, hp⟩ := publishLen_publishing cfg
        (r.client.fillSendbuf (r.client.pubbuf.take cfg.maxPacketSize)) r.world
        r.client.inflightLen timer r.client.inflightQoS
      exact ⟨ev, hlog, .publish hin.1 hin.2 (fun hr => h ⟨hr.1, hin.2, hr.2⟩) _ hp⟩
    · rename_i hin
      exact ⟨[], by simp, .nothing hin⟩

omit [Network σ] [Timer τ κ] in
theorem connackResult_verdict {r : Outcome σ τ κ} {packets : List (UInt8 × Bytes)}
    (hfound : r.rc = (CONNACK : Nat) → ∃ header body tail, Awaited CONNACK packets header body ∧
      r.client.readbuf = framed header body ++ tail) (data : ConnackData) :
    Verdict packets (connackResult r data).1 := by
  unfold connackResult
  split
  · rename_i hrc
    obtain ⟨header, body, tail, ha, hbuf⟩ := hfound hrc
    have hconnack := deserializeConnack_framed ⟨0, false⟩ header body tail ha.2.1 ha.1
    have hverdict := Verdict.connack ha
    rw [hbuf, hconnack]
    simp only [if_true]
    split at hverdict
    · rename_i hlen
      simpa [hlen] using hverdict
    · rename_i hlen
      simpa [hlen] using hverdict
  · exact .failed

theorem awaitConnack_wait (cfg : Config) (c : Client τ) (w : World σ τ κ) (timer : τ) :
    ∃ ev, Wait cfg CONNACK c w (awaitConnack cfg c w timer) ev := by
  unfold awaitConnack
  split
  · obtain ⟨ev, h⟩ := waitfor_wait cfg
      { c with lastReceived := w.countdown c.keepAliveInterval } w.tick
      (by decide : 0 < CONNACK) timer
    exact ⟨ev, h.log, h.waits, h.alive, h.found⟩
  · exact waitfor_wait cfg c w (by decide) timer

omit [Network σ] [Timer τ κ] in
theorem connectExit_toSession (r : Outcome σ τ κ) :
    (connectExit r).rc = r.rc ∧ (connectExit r).world = r.world ∧
      (connectExit r).client.toSession =
        if r.rc = SUCCESS then { r.client.toSession with isconnected := true }
        else r.client.toSession := by
  unfold connectExit
  split <;> exact ⟨rfl, rfl, rfl⟩

theorem connect_connects (cfg : Config) (c : Client τ) (w : World σ τ κ) (options : ConnectData)
    (data : ConnackData) :
    ∃ ev, (connect cfg c w options data).world.log = w.log ++ ev ∧
      Connects cfg options c.toSession (connect cfg c w options data).rc ev
        (connect cfg c w options data).client.toSession := by
  have hs := serializeConnect_serializes cfg.maxPacketSize options
  unfold connect
  simp only
  split
  · rename_i hconn
    exact ⟨[], by simp, .already hconn⟩
  · rename_i hconn
    have hconn : c.isconnected = false := by simpa using hconn
    split
    · rename_i hfit
      exact ⟨[], by simp, .unfit hconn hfit⟩
    · rename_i hfit
      have hpos := Int.not_le.mp hfit
      obtain ⟨hsession, hsend⟩ := sendPacket_request hs hpos
        { c with toSession := c.configured options } w.tick (w.countdownMs c.commandTimeoutMs)
      generalize sendPacket _ w.tick _ (w.countdownMs c.commandTimeoutMs) = r at *
      split
      · rename_i hrc
        rcases hsend with ⟨hrc', -⟩ | ⟨hrc', hlog⟩
        · exact absurd hrc' hrc
        · refine ⟨_, hlog, ?_⟩
          simp only [hrc', hsession]
          exact .unsent hconn (hs.eq hpos) (hs hpos).2
      · rename_i hrc
        rcases hsend with ⟨-, hlog⟩ | ⟨hrc', -⟩
        swap
        · exact absurd (hrc'.symm.trans (not_not.mp hrc)) (by decide)
        obtain ⟨ev₁, hwait⟩ := awaitConnack_wait cfg r.client r.world
          (w.countdownMs c.commandTimeoutMs)
        generalize awaitConnack cfg r.client r.world (w.countdownMs c.commandTimeoutMs) = v at *
        have hv := connackResult_verdict hwait.found data
        obtain ⟨ev₂, hlog₂, hr⟩ := connectResend_resends cfg
          { v with rc := (connackResult v data).1 } (w.countdownMs c.commandTimeoutMs)
        generalize connectResend cfg { v with rc := (connackResult v data).1 }
          (w.countdownMs c.commandTimeoutMs) = e at *
        obtain ⟨hrc₃, hworld₃, hsession₃⟩ := connectExit_toSession e
        have hw := hwait.waits
        rw [hsession] at hw
        refine ⟨.sent (serializeConnect cfg.maxPacketSize options).2 :: (ev₁ ++ ev₂), ?_, ?_⟩
        · rw [hworld₃, hlog₂, hwait.log, hlog]
          simp
        · rw [hrc₃, hsession₃]
          exact .answered hconn (hs.eq hpos) (hs hpos).2 hw hv hr

structure Answer (ackType : Nat) (topicFilter : Bytes) (mh : Option Nat) (v a : Outcome σ τ κ) :
    Prop where
  log : a.world.log = v.world.log
  missed : v.rc ≠ ackType → a.rc = FAILURE ∧ a.client = v.client
  found : v.rc = ackType → (a.rc = SUCCESS ∨ a.rc = FAILURE) ∧
    ∃ slots, a.client.toSession = { v.client.toSession with messageHandlers := slots } ∧
      (slots = v.client.messageHandlers ∨
        slots = (setMessageHandler v.client.messageHandlers topicFilter mh).2)

omit [Network σ] [Timer τ κ] in
theorem subscribeAck_answer (cfg : Config) (v : Outcome σ τ κ) (topicFilter : Bytes)
    (mh : Option Nat) (grantedQoS : Int) :
    Answer SUBACK topicFilter mh v (subscribeAck cfg v topicFilter mh grantedQoS).toOutcome := by
  unfold subscribeAck
  split
  · rename_i hrc
    simp only
    split
    · exact ⟨rfl, fun h => absurd hrc h, fun _ =>
        ⟨setMessageHandler_rc v.client.messageHandlers topicFilter mh, _, rfl, .inr rfl⟩⟩
    · exact ⟨rfl, fun h => absurd hrc h, fun _ => ⟨.inl rfl, _, rfl, .inl rfl⟩⟩
  · rename_i hrc
    exact ⟨rfl, fun _ => ⟨rfl, rfl⟩, fun h => absurd h hrc⟩

omit [Network σ] [Timer τ κ] in
theorem unsubscribeAck_answer (v : Outcome σ τ κ) (topicFilter : Bytes) :
    Answer UNSUBACK topicFilter none v (unsubscribeAck v topicFilter) := by
  unfold unsubscribeAck
  split
  · rename_i hrc
    simp only
    split
    · exact ⟨rfl, fun h => absurd hrc h, fun _ => ⟨.inl rfl, _, rfl, .inr rfl⟩⟩
    · exact ⟨rfl, fun h => absurd hrc h, fun _ => ⟨.inl rfl, _, rfl, .inl rfl⟩⟩
  · rename_i hrc
    exact ⟨rfl, fun _ => ⟨rfl, rfl⟩, fun h => absurd h hrc⟩

omit [Network σ] [Timer τ κ] in
theorem Answer.rc_cases {ackType : Nat} {topicFilter : Bytes} {mh : Option Nat}
    {v a : Outcome σ τ κ} (h : Answer ackType topicFilter mh v a) :
    a.rc = SUCCESS ∨ a.rc = FAILURE := by
  by_cases hrc : v.rc = ackType
  · exact (h.found hrc).1
  · exact .inr (h.missed hrc).1

omit [Network σ] [Timer τ κ] in
theorem closeOn_toSession (cfg : Config) (failed : Bool) (r : Outcome σ τ κ) :
    (closeOn cfg failed r).rc = r.rc ∧ (closeOn cfg failed r).world = r.world ∧
      (closeOn cfg failed r).client.toSession = r.client.toSession.closeIf cfg failed := by
  unfold closeOn Session.closeIf
  cases failed <;> exact ⟨rfl, rfl, rfl⟩

omit [Network σ] [Timer τ κ] in
theorem Answer.requests {cfg : Config} {request : Int × Bytes} {ackType : Nat}
    {topicFilter : Bytes} {mh : Option Nat} {s : Session} {c : Client τ} {w : World σ τ κ}
    {v a : Outcome σ τ κ} {ev : List Event} (h : Answer ackType topicFilter mh v a)
    (hconn : s.isconnected = true) (hpos : 0 < request.1) (hsession : c.toSession = s.numbered)
    (hwait : Wait cfg ackType c w v ev) :
    Requests cfg request ackType topicFilter mh s a.rc (.sent request.2 :: ev)
      (a.client.toSession.closeIf cfg (a.rc = FAILURE)) := by
  have hw := hwait.waits
  rw [hsession] at hw
  by_cases hrc : v.rc = ackType
  · obtain ⟨hres, slots, hclient, hslots⟩ := h.found hrc
    obtain ⟨header, body, tail, ha, -⟩ := hwait.found hrc
    have halive := hwait.alive (by omega)
    rw [hsession] at halive
    rw [hclient]
    exact .answered hconn hpos hw ha halive hres hslots
  · obtain ⟨hres, hclient⟩ := h.missed hrc
    rw [hres, hclient]
    exact .unacked hconn hpos hw

omit [Network σ] [Timer τ κ] in
theorem Answer.closes {cfg : Config} {request : Int × Bytes} {ackType : Nat}
    {topicFilter : Bytes} {mh : Option Nat} {s : Session} {c : Client τ} {w : World σ τ κ}
    {v a : Outcome σ τ κ} {log ev : List Event} (h : Answer ackType topicFilter mh v a)
    (hconn : s.isconnected = true) (hpos : 0 < request.1) (hsession : c.toSession = s.numbered)
    (hlog : w.log = log ++ [.sent request.2]) (hwait : Wait cfg ackType c w v ev) :
    ∃ ev, (closeOn cfg (a.rc = FAILURE) a).world.log = log ++ ev ∧
      Requests cfg request ackType topicFilter mh s (closeOn cfg (a.rc = FAILURE) a).rc ev
        (closeOn cfg (a.rc = FAILURE) a).client.toSession := by
  obtain ⟨hrc, hworld, hclose⟩ := closeOn_toSession cfg (a.rc = FAILURE) a
  refine ⟨.sent request.2 :: ev, ?_, ?_⟩
  · rw [hworld, h.log, hwait.log, hlog, List.append_assoc, List.singleton_append]
  · rw [hrc, hclose]
    exact h.requests hconn hpos hsession hwait

def requestOutcome (cfg : Config) (c : Client τ) (w : World σ τ κ) (request : Int × Bytes)
    (packetType : Nat) (answer : Outcome σ τ κ → Outcome σ τ κ) : Outcome σ τ κ :=
  let timer := w.countdownMs c.commandTimeoutMs
  if ¬c.isconnected then ⟨FAILURE, c.closeSession cfg, w.tick⟩
  else
    let c := { c with toSession := c.numbered }.fillSendbuf request.2
    if request.1 ≤ 0 then ⟨FAILURE, c.closeSession cfg, w.tick⟩
    else
      let r := sendPacket c w.tick request.1.toNat timer
      if r.rc ≠ SUCCESS then { r with client := r.client.closeSession cfg }
      else answer (waitfor cfg r.client r.world packetType timer)

def subscribeAnswer (cfg : Config) (topicFilter : Bytes) (mh : Option Nat) (grantedQoS : Int)
    (v : Outcome σ τ κ) : Outcome σ τ κ :=
  let a := subscribeAck cfg v topicFilter mh grantedQoS
  closeOn cfg (a.rc = FAILURE) a.toOutcome

def unsubscribeAnswer (cfg : Config) (topicFilter : Bytes) (v : Outcome σ τ κ) : Outcome σ τ κ :=
  let a := unsubscribeAck v topicFilter
  closeOn cfg (a.rc ≠ SUCCESS) a

theorem subscribe_eq_request (cfg : Config) (c : Client τ) (w : World σ τ κ) (topicFilter : Bytes)
    (qos : QoS) (mh : Option Nat) (grantedQoS : Int) :
    (subscribe cfg c w topicFilter qos mh grantedQoS).toOutcome =
      requestOutcome cfg c w (serializeSubscribe cfg.maxPacketSize 0 (getNext c.packetid)
        [.ofCString topicFilter] [qos.toInt]) SUBACK
        (subscribeAnswer cfg topicFilter mh grantedQoS) := by
  simp only [subscribe, requestOutcome]
  split
  · rfl
  split
  · rfl
  split
  · rfl
  · rfl

theorem unsubscribe_eq_request (cfg : Config) (c : Client τ) (w : World σ τ κ)
    (topicFilter : Bytes) :
    unsubscribe cfg c w topicFilter =
      requestOutcome cfg c w (serializeUnsubscribe cfg.maxPacketSize 0 (getNext c.packetid)
        [.ofCString topicFilter]) UNSUBACK (unsubscribeAnswer cfg topicFilter) := rfl

theorem requestOutcome_requests {cfg : Config} {request : Int × Bytes} {type ackType : Nat}
    {topicFilter : Bytes} {mh : Option Nat} {ack : Outcome σ τ κ → Outcome σ τ κ}
    (hs : Serializes request type) (hpos : 0 < ackType)
    (hack : ∀ v, Answer ackType topicFilter mh v (ack v)) (c : Client τ) (w : World σ τ κ) :
    ∃ ev, (requestOutcome cfg c w request ackType fun v =>
        closeOn cfg ((ack v).rc = FAILURE) (ack v)).world.log = w.log ++ ev ∧
      Requests cfg request ackType topicFilter mh c.toSession
        (requestOutcome cfg c w request ackType fun v =>
          closeOn cfg ((ack v).rc = FAILURE) (ack v)).rc ev
        (requestOutcome cfg c w request ackType fun v =>
          closeOn cfg ((ack v).rc = FAILURE) (ack v)).client.toSession := by
  simp only [requestOutcome]
  split
  · rename_i hconn
    exact ⟨[], by simp, .refused (by simpa using hconn)⟩
  rename_i hconn
  have hconn : c.isconnected = true := by simpa using hconn
  split
  · rename_i hfit
    exact ⟨[], by simp, .unfit hconn hfit⟩
  rename_i hfit
  have hfit := Int.not_le.mp hfit
  obtain ⟨hsession, hsend⟩ := sendPacket_request hs hfit
    { c with toSession := c.numbered } w.tick (w.countdownMs c.commandTimeoutMs)
  generalize sendPacket _ w.tick _ (w.countdownMs c.commandTimeoutMs) = r at *
  rcases hsend with ⟨hrc, hlog⟩ | ⟨hrc, hlog⟩
  · rw [if_neg (not_not_intro hrc)]
    obtain ⟨ev, hwait⟩ := waitfor_wait cfg r.client r.world hpos (w.countdownMs c.commandTimeoutMs)
    exact (hack _).closes hconn hfit hsession hlog hwait
  · rw [if_pos (by rw [hrc]; decide)]
    refine ⟨_, hlog, ?_⟩
    rw [hrc, closeSession_toSession, hsession]
    exact .unsent hconn hfit

theorem subscribe_requests (cfg : Config) (c : Client τ) (w : World σ τ κ) (topicFilter : Bytes)
    (qos : QoS) (mh : Option Nat) (grantedQoS : Int) :
    ∃ ev, (subscribe cfg c w topicFilter qos mh grantedQoS).world.log = w.log ++ ev ∧
      Requests cfg (serializeSubscribe cfg.maxPacketSize 0 (getNext c.packetid)
          [.ofCString topicFilter] [qos.toInt]) SUBACK topicFilter mh c.toSession
        (subscribe cfg c w topicFilter qos mh grantedQoS).rc ev
        (subscribe cfg c w topicFilter qos mh grantedQoS).client.toSession := by
  rw [subscribe_eq_request]
  exact requestOutcome_requests (serializeSubscribe_serializes _ _ _ _ _) (by decide)
    (fun v => subscribeAck_answer cfg v topicFilter mh grantedQoS) c w

omit [Network σ] [Timer τ κ] in
theorem unsubscribeAnswer_eq (cfg : Config) (topicFilter : Bytes) :
    (unsubscribeAnswer cfg topicFilter : Outcome σ τ κ → Outcome σ τ κ) = fun v =>
      closeOn cfg ((unsubscribeAck v topicFilter).rc = FAILURE) (unsubscribeAck v topicFilter) := by
  funext v
  have hsame : decide ((unsubscribeAck v topicFilter).rc ≠ SUCCESS) =
      decide ((unsubscribeAck v topicFilter).rc = FAILURE) := by
    rcases (unsubscribeAck_answer v topicFilter).rc_cases with h | h <;> rw [h] <;> decide
  rw [unsubscribeAnswer, hsame]

theorem unsubscribe_requests (cfg : Config) (c : Client τ) (w : World σ τ κ)
    (topicFilter : Bytes) :
    ∃ ev, (unsubscribe cfg c w topicFilter).world.log = w.log ++ ev ∧
      Requests cfg (serializeUnsubscribe cfg.maxPacketSize 0 (getNext c.packetid)
          [.ofCString topicFilter]) UNSUBACK topicFilter none c.toSession
        (unsubscribe cfg c w topicFilter).rc ev
        (unsubscribe cfg c w topicFilter).client.toSession := by
  rw [unsubscribe_eq_request, unsubscribeAnswer_eq]
  exact requestOutcome_requests (serializeUnsubscribe_serializes _ _ _ _) (by decide)
    (fun v => unsubscribeAck_answer v topicFilter) c w

theorem disconnect_disconnects (cfg : Config) (c : Client τ) (w : World σ τ κ) :
    ∃ ev, (disconnect cfg c w).world.log = w.log ++ ev ∧
      Disconnects cfg c.toSession ev (disconnect cfg c w).client.toSession := by
  have hs := serializeZero_serializes cfg.maxPacketSize (by decide : DISCONNECT < 16)
  change Serializes (serializeDisconnect cfg.maxPacketSize) DISCONNECT at hs
  unfold disconnect
  simp only [closeSession_toSession]
  split
  · rename_i hpos
    obtain ⟨hsession, ⟨-, hlog⟩ | ⟨-, hlog⟩⟩ := sendPacket_request hs hpos c w.tick
      (w.countdownMs c.commandTimeoutMs)
    · rw [hsession]
      exact ⟨_, hlog, .sent (hs hpos).2⟩
    · rw [hsession]
      exact ⟨_, hlog, .unsent (hs hpos).2⟩
  · exact ⟨[], by simp, .unfit⟩

theorem close_disconnected (cfg : Config) (s : Session) : (s.close cfg).isconnected = false := by
  unfold Session.close Session.cleanSession
  simp only
  split <;> rfl

theorem CycleAct.stays_disconnected {cfg : Config} {s t : Session} {ev : List Event}
    (hs : s.isconnected = false) (h : CycleAct cfg s ev t) : t.isconnected = false := by
  rcases h.session_cases with ⟨table, rfl⟩ | rfl
  · exact hs
  · exact close_disconnected cfg s

theorem Waits.stays_disconnected {cfg : Config} {s t : Session} {ev : List Event}
    (h : Waits cfg s ev t) (hs : s.isconnected = false) : t.isconnected = false :=
  h.chain.preserves (I := fun s => s.isconnected = false)
    (fun hs hact => hact.stays_disconnected hs) hs

theorem CycleAct.inflight_zero {cfg : Config} {s t : Session} {ev : List Event}
    (hs : s.inflightMsgid = 0) (h : CycleAct cfg s ev t) : t.inflightMsgid = 0 := by
  rcases h.session_cases with ⟨table, rfl⟩ | rfl
  · exact hs
  · unfold Session.close Session.cleanSession
    simp only
    split
    · simp only [hs, ite_self]
    · exact hs

theorem Waits.inflight_zero {cfg : Config} {s t : Session} {ev : List Event}
    (h : Waits cfg s ev t) (hs : s.inflightMsgid = 0) : t.inflightMsgid = 0 :=
  h.chain.preserves (I := fun s => s.inflightMsgid = 0) (fun hs hact => hact.inflight_zero hs) hs

theorem Publishing.stays_disconnected {cfg : Config} {packet : Bytes} {qos : QoS} {s t : Session}
    {rc : Int} {ev : List Event} (h : Publishing cfg packet qos s rc ev t)
    (hs : s.isconnected = false) : t.isconnected = false := by
  cases h with
  | unsent => exact close_disconnected cfg s
  | sent => exact hs
  | acked _ _ hw =>
    rw [acknowledge_isconnected]
    exact hw.stays_disconnected hs
  | unacked => exact close_disconnected cfg _

theorem Connects.of_connected {cfg : Config} {options : ConnectData} {s t : Session} {rc : Int}
    {ev : List Event} (h : Connects cfg options s rc ev t) (hs : s.isconnected = true) :
    ev = [] ∧ t = s := by
  cases h with
  | already => exact ⟨rfl, rfl⟩
  | unfit hno => simp [hs] at hno
  | unsent hno => simp [hs] at hno
  | answered hno => simp [hs] at hno

theorem Connects.success_of_isconnected {cfg : Config} {options : ConnectData} {s t : Session}
    {rc : Int} {ev : List Event} (h : Connects cfg options s rc ev t)
    (hs : s.isconnected = false) (ht : t.isconnected = true) : rc = SUCCESS := by
  cases h with
  | already h => simp [hs] at h
  | unfit => simp [Session.configured, hs] at ht
  | unsent => simp [Session.configured, hs] at ht
  | answered _ _ _ hw _ hr =>
    have hu := hw.stays_disconnected hs
    by_contra hrc
    rw [if_neg hrc] at ht
    cases hr with
    | nothing => simp [hu] at ht
    | cramped => simp [hu] at ht
    | pubrel _ _ _ _ hp => simp [hp.stays_disconnected hu] at ht
    | publish _ _ _ _ hp => simp [hp.stays_disconnected hu] at ht

end MbedMqtt
