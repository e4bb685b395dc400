import MbedMqtt.Library.Chain
import MbedMqtt.Library.Steps
import MbedMqtt.Client.Calls
import MbedMqtt.ClientC.Wait

namespace MbedMqtt.MQTTClientC

inductive Op where
  | connect (options : Option ConnectData)
  | publish (topicName payload : Bytes) (id : Nat) (qos : QoS) (retained : Nat)
  | subscribe (topicFilter : Bytes) (qos : QoS) (mh : Option Nat)
  | unsubscribe (topicFilter : Bytes)
  | yield (timeoutMs : Nat)
  | run
  | disconnect
  | setMessageHandler (topicFilter : Bytes) (mh : Option Nat)
  -- the application writes the field itself
  | defaultMessageHandler (mh : Option Nat)
  deriving DecidableEq, Repr

def Op.isConnect : Op → Bool
  | .connect _ => true
  | _ => false

def isRequest (packetType : Nat) : Bool :=
  packetType = CONNECT || packetType = PUBLISH || packetType = SUBSCRIBE ||
    packetType = UNSUBSCRIBE || packetType = DISCONNECT

inductive Act (bufSize : Nat) (connecting : Prop) : Session → List Event → Session → Prop
  | turn {s t : Session} {ev : List Event} (h : TurnAct bufSize s ev t) :
      Act bufSize connecting s ev t
  | request (s : Session) {packet : Bytes} {ev : List Event}
      (h : isRequest (packetType packet) = true) (ha : Attempt packet ev) :
      Act bufSize connecting s ev s
  | close (s : Session) : Act bufSize connecting s [] s.close
  | numbered (s : Session) : Act bufSize connecting s [] s.numbered
  | configured (s : Session) (cleansession : Bool) (h : connecting) :
      Act bufSize connecting s [] { s with cleansession := cleansession }
  | opened (s : Session) (h : connecting) : Act bufSize connecting s [] s.opened
  | handlers (s : Session) (slots : List MessageHandlers) :
      Act bufSize connecting s [] { s with messageHandlers := slots }
  | defaultHandler (s : Session) (mh : Option Nat) :
      Act bufSize connecting s [] { s with defaultMessageHandler := mh }

-- an operation that leaves a connected client connected
def keeps (op : Op) (rc : Int) (packets : List (UInt8 × Bytes)) : Bool :=
  match op with
  | .connect _ => true
  | .disconnect => false
  | .setMessageHandler _ _ => true
  | .defaultMessageHandler _ => true
  | .run => 0 ≤ rc && allHandled packets
  | _ => rc = SUCCESS && allHandled packets

def follows (connected : Bool) (op : Op) (rc : Int) (packets : List (UInt8 × Bytes)) : Bool :=
  connected && keeps op rc packets || op.isConnect && rc = SUCCESS

structure Accepted (packets : List (UInt8 × Bytes)) (header : UInt8) (body : Bytes) : Prop where
  awaited : Awaited CONNACK packets header body
  code : 2 ≤ body.length → byteAt body 1 = 0

structure Done (bufSize : Nat) (op : Op) (s : Session) (rc : Int) (ev : List Event)
    (t : Session) : Prop where
  acts : Chain (Act bufSize (s.isconnected = false)) s ev t
  follows : t.isconnected = follows s.isconnected op rc (heard ev)
  accepted : op.isConnect = true → rc = SUCCESS →
    ∃ header body, Accepted (heard ev) header body

variable {σ τ κ : Type}

theorem TurnAct.stays_disconnected {bufSize : Nat} {s t : Session} {ev : List Event}
    (h : TurnAct bufSize s ev t) (hs : s.isconnected = false) : t.isconnected = false := by
  cases h with
  | idle hp ht => exact exit_isconnected hp ht hs
  | read _ _ hp ht => exact exit_isconnected hp ht (by simpa using hs)

theorem turns_acts {bufSize : Nat} {connecting : Prop} {s t : Session} {ev : List Event}
    (h : Chain (TurnAct bufSize) s ev t) : Chain (Act bufSize connecting) s ev t :=
  h.mono .turn

theorem numberedFor_acts (bufSize : Nat) (connecting : Prop) (s : Session) (qos : QoS) :
    Chain (Act bufSize connecting) s [] (s.numberedFor qos) := by
  unfold Session.numberedFor
  split
  · exact .single (.numbered s)
  · exact .nil s

theorem numberedFor_isconnected (s : Session) (qos : QoS) :
    (s.numberedFor qos).isconnected = s.isconnected := by
  unfold Session.numberedFor
  split
  · rfl
  · rfl

section

variable [Network σ] [Timer τ κ]

def Op.perform (target : Target) (c : Client τ) (w : World σ τ κ) : Op → Result σ τ κ
  | .connect options => (MQTTConnectWithResults target c w options ⟨0, false⟩).toResult
  | .publish topicName payload id qos retained =>
      (MQTTPublish target c w topicName payload id qos retained).toResult
  | .subscribe topicFilter qos mh => (MQTTSubscribeWithResults target c w topicFilter qos mh 0).1
  | .unsubscribe topicFilter => MQTTUnsubscribe target c w topicFilter
  | .yield timeoutMs => MQTTYield target c w timeoutMs
  | .run => MQTTRun target c w
  | .disconnect => MQTTDisconnect target c w
  | .setMessageHandler topicFilter mh => MQTTSetMessageHandler c w topicFilter mh
  | .defaultMessageHandler mh =>
      ⟨SUCCESS, c.onSession fun s => { s with defaultMessageHandler := mh }, w⟩

structure System (τ : Type) where
  client : Client τ
  log : List Event

structure Call (σ κ : Type) where
  op : Op
  target : Target
  net : σ
  clock : List κ
  stack : List Nat

namespace System

def start (c : Client τ) (commandTimeoutMs : Nat) (sendbuf : Bytes) (sendbufSize : Nat)
    (readbuf : Bytes) (readbufSize : Nat) (idle : τ) : System τ :=
  ⟨MQTTClientInit c commandTimeoutMs sendbuf sendbufSize readbuf readbufSize idle, []⟩

def enter (y : System τ) (call : Call σ κ) : World σ τ κ :=
  ⟨call.net, call.clock, call.stack, y.client.lastSent, y.log⟩

def outcome (y : System τ) (call : Call σ κ) : Result σ τ κ :=
  call.op.perform call.target y.client (y.enter call)

def rc (y : System τ) (call : Call σ κ) : Int := (y.outcome call).rc

def perform (y : System τ) (call : Call σ κ) : System τ :=
  ⟨(y.outcome call).client, (y.outcome call).world.log⟩

def run (y : System τ) (calls : List (Call σ κ)) : System τ := calls.foldl perform y

def events (y : System τ) (call : Call σ κ) : List Event := (y.perform call).log.drop y.log.length

end System

theorem send_request (target : Target) {packet : Int × Bytes} {type : Nat}
    (hs : Serializes packet type) (hfit : 0 < packet.1) (c : Client τ) (w : World σ τ κ)
    (timer : τ) :
    ∃ t ev, (send target (c.fillBuf packet.2) w packet.1.toNat timer).client =
        { c.fillBuf packet.2 with lastSent := t } ∧
      Attempt packet.2 ev ∧
      (send target (c.fillBuf packet.2) w packet.1.toNat timer).world.log = w.log ++ ev ∧
      ((send target (c.fillBuf packet.2) w packet.1.toNat timer).rc = SUCCESS ∨
        (send target (c.fillBuf packet.2) w packet.1.toNat timer).rc = FAILURE) := by
  have hlen : packet.1.toNat = packet.2.length := by rw [(hs hfit).1, Int.toNat_natCast]
  rw [hlen]
  obtain ⟨t, hcl, ⟨hrc, hlog⟩ | ⟨hrc, hlog⟩⟩ := send_fill target c w packet.2 timer
  · exact ⟨t, _, hcl, .inl rfl, hlog, .inl hrc⟩
  · exact ⟨t, _, hcl, .inr rfl, hlog, .inr hrc⟩

end

-- what a request has done before its failure closes the session
structure Requested (connecting : Prop) (c : Client τ) (w : World σ τ κ) (r : Result σ τ κ)
    (ev : List Event) : Prop where
  log : r.world.log = w.log ++ ev
  acts : Chain (Act c.bufSize connecting) c.toSession ev r.client.toSession
  bufSize : r.client.bufSize = c.bufSize
  rc : r.rc = SUCCESS ∨ r.rc = FAILURE
  alive : r.rc = SUCCESS → r.client.isconnected = (c.isconnected && allHandled (heard ev))

theorem Requested.failed {connecting : Prop} {c c' : Client τ} {w w' : World σ τ κ}
    (hlog : w'.log = w.log) (hacts : Chain (Act c.bufSize connecting) c.toSession [] c'.toSession)
    (hsize : c'.bufSize = c.bufSize) : Requested connecting c w ⟨FAILURE, c', w'⟩ [] :=
  ⟨by simp [hlog], hacts, hsize, .inr rfl, fun h => by simp at h⟩

theorem Requested.closed {connecting : Prop} {c : Client τ} {w : World σ τ κ}
    {r : Result σ τ κ} {ev : List Event} (h : Requested connecting c w r ev)
    (hconn : c.isconnected = true) :
    (closeOnFailure r).world.log = w.log ++ ev ∧
      (closeOnFailure r).client.bufSize = c.bufSize ∧
      Chain (Act c.bufSize connecting) c.toSession ev (closeOnFailure r).client.toSession ∧
      (closeOnFailure r).client.isconnected =
        (c.isconnected && (closeOnFailure r).rc = SUCCESS && allHandled (heard ev)) := by
  unfold closeOnFailure
  rcases h.rc with hrc | hrc
  · rw [if_neg (by rw [hrc]; decide)]
    refine ⟨h.log, h.bufSize, h.acts, ?_⟩
    rw [h.alive hrc, hrc, hconn]
    simp
  · rw [if_pos hrc]
    have hclose := h.acts.snoc (.close r.client.toSession)
    rw [List.append_nil] at hclose
    refine ⟨h.log, h.bufSize, hclose, ?_⟩
    rw [hconn, hrc]
    exact r.client.toSession.close_isconnected

theorem Requested.after_send {connecting : Prop} {c c' : Client τ} {w w' : World σ τ κ}
    {r : Result σ τ κ} {packet : Bytes} {ev₁ ev₂ : List Event}
    (htype : isRequest (packetType packet) = true) (ha : Attempt packet ev₁)
    (hs : c'.toSession = c.toSession) (hsize : c'.bufSize = c.bufSize)
    (hlog : w'.log = w.log ++ ev₁) (h : Requested connecting c' w' r ev₂) :
    Requested connecting c w r (ev₁ ++ ev₂) := by
  obtain ⟨hl, hacts, hb, hrc, halive⟩ := h
  rw [hsize, hs] at hacts
  rw [hs] at halive
  refine ⟨by rw [hl, hlog, List.append_assoc], (Chain.single (.request _ htype ha)).trans hacts,
    hb.trans hsize, hrc, fun h => ?_⟩
  rw [halive h, heard_append, ha.heard_eq, List.nil_append]

theorem Requested.only_send {connecting : Prop} {c : Client τ} {w : World σ τ κ}
    {r : Result σ τ κ} {packet : Bytes} {ev : List Event}
    (htype : isRequest (packetType packet) = true) (ha : Attempt packet ev)
    (hs : r.client.toSession = c.toSession) (hsize : r.client.bufSize = c.bufSize)
    (hlog : r.world.log = w.log ++ ev) (hrc : r.rc = SUCCESS ∨ r.rc = FAILURE) :
    Requested connecting c w r ev := by
  refine ⟨hlog, ?_, hsize, hrc, fun _ => ?_⟩
  · rw [hs]
    exact .single (.request _ htype ha)
  · rw [hs, ha.heard_eq]
    simp

theorem awaitedAck_pos {qos : QoS} {ackType : Nat} (h : awaitedAck qos = some ackType) :
    0 < ackType := by
  cases qos <;> cases h <;> decide

variable [Ipstack σ] [Timer τ κ]

theorem publishAck_requested (target : Target) (connecting : Prop) (c : Client τ)
    (w : World σ τ κ) {ackType : Nat} (hpos : 0 < ackType) (timer : τ) :
    ∃ ev, Requested connecting c w (publishAck target c w ackType timer) ev := by
  obtain ⟨ev, h⟩ := waitfor_wait target c w hpos timer
  unfold publishAck
  simp only
  split
  · rename_i hrc
    refine ⟨ev, h.log, turns_acts h.turns, h.bufSize, ?_, fun _ => h.alive (by omega)⟩
    split
    · exact .inr rfl
    · exact .inl rfl
  · exact ⟨ev, h.log, turns_acts h.turns, h.bufSize, .inr rfl, fun h => by simp at h⟩

theorem publishSend_requested (target : Target) (connecting : Prop) (c : Client τ)
    (w : World σ τ κ) {packet : Int × Bytes} (hs : Serializes packet PUBLISH) (qos : QoS)
    (timer : τ) :
    ∃ ev, Requested connecting c w (publishSend target c w packet qos timer) ev := by
  unfold publishSend
  simp only
  split
  · exact ⟨[], .failed rfl (.nil _) rfl⟩
  · rename_i hfit
    have hfit := Int.not_le.mp hfit
    have htype : isRequest (packetType packet.2) = true := by
      rw [(hs hfit).2]
      rfl
    obtain ⟨t, ev, hcl, ha, hlog, hrc⟩ := send_request target hs hfit c w timer
    generalize send target (c.fillBuf packet.2) w packet.1.toNat timer = r at *
    have hsession : r.client.toSession = c.toSession := by rw [hcl]; rfl
    have hsize : r.client.bufSize = c.bufSize := by rw [hcl]; rfl
    have honly : Requested connecting c w r ev := .only_send htype ha hsession hsize hlog hrc
    split
    · exact ⟨ev, honly⟩
    · split
      · rename_i ackType hack
        obtain ⟨ev', h⟩ := publishAck_requested target connecting r.client r.world
          (awaitedAck_pos hack) timer
        exact ⟨ev ++ ev', h.after_send htype ha hsession hsize hlog⟩
      · exact ⟨ev, honly⟩

structure Acks {δ : Type} (ack : Result σ τ κ → Result σ τ κ × δ) (v : Result σ τ κ) : Prop where
  log : (ack v).1.world.log = v.world.log
  bufSize : (ack v).1.client.bufSize = v.client.bufSize
  session : ∃ slots, (ack v).1.client.toSession = { v.client.toSession with messageHandlers := slots }
  rc : (ack v).1.rc = SUCCESS ∨ (ack v).1.rc = FAILURE

theorem request_requested {δ : Type} (target : Target) (connecting : Prop) (c : Client τ)
    (w : World σ τ κ) {packet : Int × Bytes} {type ackType : Nat} (hs : Serializes packet type)
    (htype : isRequest type = true) (hpos : 0 < ackType) (data : δ)
    {ack : Result σ τ κ → Result σ τ κ × δ} (hack : ∀ v, Acks ack v) :
    ∃ ev, Requested connecting c w (request target c w packet ackType data ack).1 ev := by
  have hnumbered : Chain (Act c.bufSize connecting) c.toSession [] c.numbered :=
    .single (.numbered c.toSession)
  unfold request
  simp only
  split
  · exact ⟨[], .failed rfl hnumbered rfl⟩
  · rename_i hfit
    have hfit := Int.not_le.mp hfit
    have htype : isRequest (packetType packet.2) = true := by rwa [(hs hfit).2]
    obtain ⟨t, ev, hcl, ha, hlog, hrc⟩ := send_request target hs hfit
      (c.onSession Session.numbered) w.tick (w.countdownMs c.commandTimeoutMs)
    generalize send target ((c.onSession Session.numbered).fillBuf packet.2) w.tick packet.1.toNat
      (w.countdownMs c.commandTimeoutMs) = r at *
    have hsession : r.client.toSession = c.numbered := by rw [hcl]; rfl
    have hsize : r.client.bufSize = c.bufSize := by rw [hcl]; rfl
    have hacts : Chain (Act c.bufSize connecting) c.toSession ev r.client.toSession := by
      rw [hsession]
      exact hnumbered.snoc (.request _ htype ha)
    have hconn : r.client.isconnected = c.isconnected := by rw [hsession]; rfl
    split
    · refine ⟨ev, hlog, hacts, hsize, hrc, fun _ => ?_⟩
      simp [hconn, ha.heard_eq]
    · obtain ⟨ev', h⟩ := waitfor_wait target r.client r.world hpos
        (w.countdownMs c.commandTimeoutMs)
      generalize waitfor target r.client r.world ackType (w.countdownMs c.commandTimeoutMs) = v at *
      have hturns := h.turns
      rw [hsize] at hturns
      have hwait := hacts.trans (turns_acts hturns)
      have hlog' : v.world.log = w.log ++ (ev ++ ev') := by
        rw [h.log, hlog, World.tick_log, List.append_assoc]
      split
      · rename_i hv
        obtain ⟨hl, hb, ⟨slots, hslots⟩, hrc'⟩ := hack v
        have hend := hwait.snoc (.handlers v.client.toSession slots)
        rw [List.append_nil] at hend
        refine ⟨ev ++ ev', hl.trans hlog', by rw [hslots]; exact hend, ?_, hrc', fun _ => ?_⟩
        · rw [hb, h.bufSize, hsize]
        · rw [hslots, heard_append, ha.heard_eq, List.nil_append, ← hconn]
          exact h.alive (by omega)
      · exact ⟨ev ++ ev', hlog', hwait, h.bufSize.trans hsize, .inr rfl, fun h => by simp at h⟩

omit [Ipstack σ] [Timer τ κ] in
theorem subscribeAck_acks (target : Target) (topicFilter : Bytes) (mh : Option Nat)
    (v : Result σ τ κ) : Acks (subscribeAck target topicFilter mh) v := by
  unfold subscribeAck
  constructor
  · simp only
    split
    · rfl
    · rfl
  · simp only
    split
    · rfl
    · rfl
  · simp only
    split
    · exact ⟨_, rfl⟩
    · exact ⟨v.client.messageHandlers, rfl⟩
  · simp only
    split
    · rw [setMessageHandler_eq]
      exact setMessageHandler_rc _ _ _
    · exact .inl rfl

omit [Ipstack σ] [Timer τ κ] in
theorem unsubscribeAck_acks (topicFilter : Bytes) (v : Result σ τ κ) :
    Acks (unsubscribeAck topicFilter) v := by
  unfold unsubscribeAck
  simp only
  constructor
  · split
    · rfl
    · rfl
  · split
    · rfl
    · rfl
  · split
    · exact ⟨_, rfl⟩
    · exact ⟨v.client.messageHandlers, rfl⟩
  · split
    · exact .inl rfl
    · exact .inl rfl

omit [Ipstack σ] [Timer τ κ] in
theorem connack_verdict {v : Result σ τ κ} {packets : List (UInt8 × Bytes)} (data : ConnackData)
    (hfound : v.rc = CONNACK → ∃ header body tail, Awaited CONNACK packets header body ∧
      v.client.readbuf = framed header body ++ tail) (hrc : (connackResult v data).1 = SUCCESS) :
    ∃ header body, Accepted packets header body := by
  unfold connackResult at hrc
  split at hrc
  · rename_i h
    obtain ⟨header, body, tail, ha, hbuf⟩ := hfound h
    rw [hbuf, deserializeConnack_framed ⟨0, false⟩ header body tail ha.2.1 ha.1] at hrc
    refine ⟨header, body, ha, fun hlen => ?_⟩
    simp only [hlen, if_true, Nat.cast_eq_zero] at hrc
    exact UInt8.toNat_inj.mp hrc
  · simp at hrc

theorem connect_done (target : Target) (c : Client τ) (w : World σ τ κ)
    (options : Option ConnectData) (data : ConnackData) :
    ∃ ev, (MQTTConnectWithResults target c w options data).world.log = w.log ++ ev ∧
      (MQTTConnectWithResults target c w options data).client.bufSize = c.bufSize ∧
      Done c.bufSize (.connect options) c.toSession
        (MQTTConnectWithResults target c w options data).rc ev
        (MQTTConnectWithResults target c w options data).client.toSession := by
  by_cases hconn : c.isconnected = true
  · have h : MQTTConnectWithResults target c w options data = ⟨⟨FAILURE, c, w⟩, data⟩ := by
      simp [MQTTConnectWithResults, hconn]
    rw [h]
    exact ⟨[], by simp, rfl, .nil _, by simp [follows, keeps, hconn], fun _ h => by simp at h⟩
  have hconn : c.isconnected = false := by simpa using hconn
  generalize hopt : options.getD ConnectData.initializer = opt
  have hconfigured : Chain (Act c.bufSize (c.isconnected = false)) c.toSession []
      { c.toSession with cleansession := opt.cleansession } :=
    .single (.configured _ _ hconn)
  have hfailed {rc : Int} {ev : List Event} {t : Session} (hrc : rc ≠ SUCCESS)
      (hacts : Chain (Act c.bufSize (c.isconnected = false)) c.toSession ev t)
      (ht : t.isconnected = false) : Done c.bufSize (.connect options) c.toSession rc ev t := by
    refine ⟨hacts, ?_, fun _ h => absurd h hrc⟩
    simp [follows, hconn, hrc, ht]
  have hs := serializeConnect_serializes c.bufSize opt
  unfold MQTTConnectWithResults
  simp only [hconn, hopt, Bool.false_eq_true, if_false]
  generalize hc' : ({ c.configured opt with
    lastReceived := w.tick.countdown (c.configured opt).keepAliveInterval } : Client τ) = c'
  have hsession : c'.toSession = { c.toSession with cleansession := opt.cleansession } := by
    rw [← hc']
    rfl
  have hsize : c'.bufSize = c.bufSize := by
    rw [← hc']
    rfl
  have hstill : c'.isconnected = false := by rw [hsession, ← hconn]
  have hbuf : (c.configured opt).bufSize = c.bufSize := rfl
  rw [hbuf]
  generalize serializeConnect c.bufSize opt = packet at *
  split
  · refine ⟨[], by simp, hsize, hfailed (by simp) ?_ hstill⟩
    simp only [Client.fillBuf_toSession, hsession]
    exact hconfigured
  rename_i hfit
  have hfit := Int.not_le.mp hfit
  have htype : isRequest (packetType packet.2) = true := by
    rw [(hs hfit).2]
    rfl
  obtain ⟨t, ev, hcl, ha, hlog, hrc⟩ := send_request target hs hfit c' w.tick.tick
    (w.countdownMs c.commandTimeoutMs)
  generalize send target (c'.fillBuf packet.2) w.tick.tick packet.1.toNat
    (w.countdownMs c.commandTimeoutMs) = r at *
  have hrs : r.client.toSession = { c.toSession with cleansession := opt.cleansession } := by
    rw [hcl, ← hsession]
    rfl
  have hrb : r.client.bufSize = c.bufSize := by
    rw [hcl, ← hsize]
    rfl
  have hsent : Chain (Act c.bufSize (c.isconnected = false)) c.toSession ev r.client.toSession := by
    rw [hrs]
    exact hconfigured.snoc (.request _ htype ha)
  have hrconn : r.client.isconnected = false := by rw [hrs, ← hconn]
  split
  · rename_i hne
    exact ⟨ev, hlog, hrb, hfailed hne hsent hrconn⟩
  obtain ⟨ev', h⟩ := waitfor_wait target r.client r.world (by decide : 0 < CONNACK)
    (w.countdownMs c.commandTimeoutMs)
  generalize waitfor target r.client r.world (CONNACK : Nat)
    (w.countdownMs c.commandTimeoutMs) = v at *
  have hturns := h.turns
  rw [hrb] at hturns
  have hwait := hsent.trans (turns_acts hturns)
  have hvconn : v.client.isconnected = false :=
    hturns.preserves (I := fun s => s.isconnected = false)
      (fun hs hact => hact.stays_disconnected hs) hrconn
  have hheard : heard (ev ++ ev') = heard ev' := by rw [heard_append, ha.heard_eq, List.nil_append]
  have hverdict := connack_verdict data h.found
  simp only
  generalize connackResult v data = verdict at *
  refine ⟨ev ++ ev', ?_, ?_, ?_⟩
  · unfold connectExit
    split
    · simp [h.log, hlog]
    · simp [h.log, hlog]
  · unfold connectExit
    split
    · exact h.bufSize.trans hrb
    · exact h.bufSize.trans hrb
  · unfold connectExit
    split
    · rename_i hok
      have hok : verdict.1 = SUCCESS := hok
      have hopened := hwait.snoc (.opened v.client.toSession hconn)
      rw [List.append_nil] at hopened
      refine ⟨hopened, ?_, fun _ _ => by rw [hheard]; exact hverdict hok⟩
      simp [follows, Op.isConnect, hok, Session.opened]
    · rename_i hno
      exact hfailed hno hwait hvconn

theorem publish_done (target : Target) (c : Client τ) (w : World σ τ κ)
    (topicName payload : Bytes) (id : Nat) (qos : QoS) (retained : Nat) :
    ∃ ev, (MQTTPublish target c w topicName payload id qos retained).world.log = w.log ++ ev ∧
      (MQTTPublish target c w topicName payload id qos retained).client.bufSize = c.bufSize ∧
      Done c.bufSize (.publish topicName payload id qos retained) c.toSession
        (MQTTPublish target c w topicName payload id qos retained).rc ev
        (MQTTPublish target c w topicName payload id qos retained).client.toSession := by
  by_cases hconn : c.isconnected = true
  swap
  · have hconn : c.isconnected = false := by simpa using hconn
    simp only [MQTTPublish, hconn, Bool.false_eq_true, not_false_eq_true, if_true]
    exact ⟨[], by simp [closeOnFailure], rfl, .single (.close c.toSession),
      by simp [follows, keeps, Op.isConnect, closeOnFailure, Client.closeSession], fun h => by cases h⟩
  simp only [MQTTPublish, hconn, not_true_eq_false, if_false]
  have hser := serializePublish_serializes c.bufSize 0 qos.toInt retained (c.publishId id qos)
    (.ofCString topicName) payload
  obtain ⟨ev, h⟩ := publishSend_requested target (c.isconnected = false)
    (c.onSession (·.numberedFor qos)) w.tick hser qos (w.countdownMs c.commandTimeoutMs)
  have hstill : (c.onSession (·.numberedFor qos)).isconnected = true := by
    simp [numberedFor_isconnected, hconn]
  obtain ⟨hlog, hsize, hacts, hfollows⟩ := h.closed hstill
  refine ⟨ev, hlog, hsize, ?_, ?_, fun h => by cases h⟩
  · simpa using (numberedFor_acts c.bufSize (c.isconnected = false) c.toSession qos).trans hacts
  · rw [hfollows, hstill]
    simp [follows, keeps, Op.isConnect, hconn]

theorem request_done {δ : Type} (target : Target) {op : Op} (c : Client τ) (w : World σ τ κ)
    {packet : Int × Bytes} {type ackType : Nat} (hs : Serializes packet type)
    (htype : isRequest type = true) (hpos : 0 < ackType) (data : δ)
    {ack : Result σ τ κ → Result σ τ κ × δ} (hack : ∀ v, Acks ack v) (hop : op.isConnect = false)
    (hfollows : ∀ conn rc packets,
      follows conn op rc packets = (conn && rc = SUCCESS && allHandled packets))
    (hconn : c.isconnected = true) :
    ∃ ev, (closeOnFailure (request target c w packet ackType data ack).1).world.log = w.log ++ ev ∧
      (closeOnFailure (request target c w packet ackType data ack).1).client.bufSize = c.bufSize ∧
      Done c.bufSize op c.toSession
        (closeOnFailure (request target c w packet ackType data ack).1).rc ev
        (closeOnFailure (request target c w packet ackType data ack).1).client.toSession := by
  obtain ⟨ev, h⟩ := request_requested target (c.isconnected = false) c w hs htype hpos data hack
  obtain ⟨hlog, hsize, hacts, hlink⟩ := h.closed hconn
  refine ⟨ev, hlog, hsize, hacts, ?_, fun h => by simp [hop] at h⟩
  rw [hlink, hfollows]

omit [Ipstack σ] [Timer τ κ] in
theorem refused_done {op : Op} (c : Client τ) (w : World σ τ κ) (hop : op.isConnect = false)
    (hfollows : ∀ conn rc packets,
      follows conn op rc packets = (conn && rc = SUCCESS && allHandled packets)) :
    ∃ ev, (closeOnFailure ⟨FAILURE, c, w⟩).world.log = w.log ++ ev ∧
      (closeOnFailure ⟨FAILURE, c, w⟩).client.bufSize = c.bufSize ∧
      Done c.bufSize op c.toSession (closeOnFailure ⟨FAILURE, c, w⟩).rc ev
        (closeOnFailure ⟨FAILURE, c, w⟩).client.toSession := by
  refine ⟨[], by simp [closeOnFailure], rfl, .single (.close c.toSession), ?_,
    fun h => by simp [hop] at h⟩
  rw [hfollows]
  simp [closeOnFailure, Client.closeSession]

theorem subscribe_done (target : Target) (c : Client τ) (w : World σ τ κ) (topicFilter : Bytes)
    (qos : QoS) (mh : Option Nat) (grantedQoS : Int) :
    ∃ ev, (MQTTSubscribeWithResults target c w topicFilter qos mh grantedQoS).1.world.log =
        w.log ++ ev ∧
      (MQTTSubscribeWithResults target c w topicFilter qos mh grantedQoS).1.client.bufSize =
        c.bufSize ∧
      Done c.bufSize (.subscribe topicFilter qos mh) c.toSession
        (MQTTSubscribeWithResults target c w topicFilter qos mh grantedQoS).1.rc ev
        (MQTTSubscribeWithResults target c w topicFilter qos mh grantedQoS).1.client.toSession := by
  unfold MQTTSubscribeWithResults
  split
  · exact refused_done c w rfl fun _ _ _ => by simp [follows, keeps, Op.isConnect, Bool.and_assoc]
  · rename_i hconn
    exact request_done target c w (serializeSubscribe_serializes _ _ _ _ _) rfl (by decide) _
      (subscribeAck_acks target topicFilter mh) rfl
      (fun _ _ _ => by simp [follows, keeps, Op.isConnect, Bool.and_assoc]) (by simpa using hconn)

theorem unsubscribe_done (target : Target) (c : Client τ) (w : World σ τ κ)
    (topicFilter : Bytes) :
    ∃ ev, (MQTTUnsubscribe target c w topicFilter).world.log = w.log ++ ev ∧
      (MQTTUnsubscribe target c w topicFilter).client.bufSize = c.bufSize ∧
      Done c.bufSize (.unsubscribe topicFilter) c.toSession
        (MQTTUnsubscribe target c w topicFilter).rc ev
        (MQTTUnsubscribe target c w topicFilter).client.toSession := by
  unfold MQTTUnsubscribe
  split
  · exact refused_done c w rfl fun _ _ _ => by simp [follows, keeps, Op.isConnect, Bool.and_assoc]
  · rename_i hconn
    exact request_done target c w (serializeUnsubscribe_serializes _ _ _ _) rfl (by decide) _
      (unsubscribeAck_acks topicFilter) rfl
      (fun _ _ _ => by simp [follows, keeps, Op.isConnect, Bool.and_assoc]) (by simpa using hconn)

theorem disconnect_done (target : Target) (c : Client τ) (w : World σ τ κ) :
    ∃ ev, (MQTTDisconnect target c w).world.log = w.log ++ ev ∧
      (MQTTDisconnect target c w).client.bufSize = c.bufSize ∧
      Done c.bufSize .disconnect c.toSession (MQTTDisconnect target c w).rc ev
        (MQTTDisconnect target c w).client.toSession := by
  have hs := serializeZero_serializes c.bufSize (by decide : DISCONNECT < 16)
  change Serializes (serializeDisconnect c.bufSize) DISCONNECT at hs
  have hclose {s : Session} {ev : List Event} (h : Chain (Act c.bufSize (c.isconnected = false))
      c.toSession ev s) : Done c.bufSize .disconnect c.toSession (MQTTDisconnect target c w).rc ev
        s.close := by
    have hacts := h.snoc (.close s)
    rw [List.append_nil] at hacts
    exact ⟨hacts, by simp [follows, keeps, Op.isConnect], fun h => by cases h⟩
  unfold MQTTDisconnect at *
  simp only at *
  split
  · rename_i hfit
    have htype : isRequest (packetType (serializeDisconnect c.bufSize).2) = true := by
      rw [(hs hfit).2]
      rfl
    obtain ⟨t, ev, hcl, ha, hlog, -⟩ := send_request target hs hfit c w.tick
      (w.countdownMs c.commandTimeoutMs)
    have hsession : (send target (c.fillBuf (serializeDisconnect c.bufSize).2) w.tick
        (serializeDisconnect c.bufSize).1.toNat
        (w.countdownMs c.commandTimeoutMs)).client.toSession = c.toSession := by rw [hcl]; rfl
    rw [if_pos hfit] at hclose
    refine ⟨ev, hlog, by simp [hcl, Client.closeSession], ?_⟩
    simp only [Client.closeSession, Client.onSession_toSession, hsession]
    exact hclose (.single (.request _ htype ha))
  · rename_i hfit
    rw [if_neg hfit] at hclose
    exact ⟨[], by simp, rfl, hclose (.nil _)⟩

theorem perform_done (y : System τ) (call : Call σ κ) :
    (y.perform call).log = y.log ++ y.events call ∧
      (y.perform call).client.bufSize = y.client.bufSize ∧
      Done y.client.bufSize call.op y.client.toSession (y.rc call) (y.events call)
        (y.perform call).client.toSession := by
  suffices h : ∃ ev, (y.outcome call).world.log = y.log ++ ev ∧
      (y.outcome call).client.bufSize = y.client.bufSize ∧
      Done y.client.bufSize call.op y.client.toSession (y.rc call) ev
        (y.outcome call).client.toSession by
    obtain ⟨ev, hlog, hsize, hdone⟩ := h
    have hev : y.events call = ev := by simp [System.events, System.perform, hlog]
    rw [hev]
    exact ⟨hlog, hsize, hdone⟩
  obtain ⟨op, target, net, clock, stack⟩ := call
  unfold System.rc System.outcome
  cases op with
  | connect options => exact connect_done target y.client _ options _
  | publish topicName payload id qos retained =>
    exact publish_done target y.client _ topicName payload id qos retained
  | subscribe topicFilter qos mh => exact subscribe_done target y.client _ topicFilter qos mh 0
  | unsubscribe topicFilter => exact unsubscribe_done target y.client _ topicFilter
  | yield timeoutMs =>
    obtain ⟨ev, h⟩ := yield_yield target y.client (y.enter ⟨.yield timeoutMs, target, net, clock,
      stack⟩) timeoutMs
    refine ⟨ev, h.log, h.bufSize, turns_acts h.turns, ?_, fun h => by cases h⟩
    by_cases hrc : (MQTTYield target y.client (y.enter ⟨.yield timeoutMs, target, net, clock,
        stack⟩) timeoutMs).rc = SUCCESS
    · rw [Op.perform, h.alive hrc]
      simp [follows, keeps, Op.isConnect, hrc]
    · rw [Op.perform, h.dead hrc]
      simp [follows, keeps, Op.isConnect, hrc]
  | run =>
    obtain ⟨ev, h⟩ := cycle_turn target y.client (y.enter ⟨.run, target, net, clock, stack⟩).tick
      ((y.enter ⟨.run, target, net, clock, stack⟩).countdownMs 500)
    refine ⟨ev, h.log, h.bufSize, .single (.turn h.act), ?_, fun h => by cases h⟩
    rw [Op.perform, MQTTRun]
    generalize cycle target y.client (y.enter ⟨.run, target, net, clock, stack⟩).tick
      ((y.enter ⟨.run, target, net, clock, stack⟩).countdownMs 500) = r at *
    by_cases hrc : 0 ≤ r.rc
    · rw [h.alive hrc]
      simp [follows, keeps, Op.isConnect, hrc]
    · rw [h.dead (by omega)]
      simp [follows, keeps, Op.isConnect, hrc]
  | disconnect => exact disconnect_done target y.client _
  | setMessageHandler topicFilter mh =>
    exact ⟨[], by simp [Op.perform, MQTTSetMessageHandler, System.enter], rfl,
      .single (.handlers _ _), by simp [follows, keeps, Op.isConnect, Op.perform,
        MQTTSetMessageHandler], fun h => by cases h⟩
  | defaultMessageHandler mh =>
    exact ⟨[], by simp [Op.perform, System.enter], rfl, .single (.defaultHandler _ _),
      by simp [follows, keeps, Op.isConnect, Op.perform], fun h => by cases h⟩

end MbedMqtt.MQTTClientC
