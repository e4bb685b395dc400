import MbedMqtt.Client.Run
import MbedMqtt.Contract.SNSession
import MbedMqtt.Library.Simulation

-- the client of `MQTTClientMbedOs.cpp`, over the two clients it wraps
namespace MbedMqtt.MbedOs

abbrev NSAPI_ERROR_OK : Int := 0
abbrev NSAPI_ERROR_UNSUPPORTED : Int := -3002
abbrev NSAPI_ERROR_NO_CONNECTION : Int := -3004

inductive SocketKind where
  | tcp
  | tls
  | udp
  | dtls
  deriving DecidableEq, Repr

def SocketKind.isStream : SocketKind → Bool
  | .tcp => true
  | .tls => true
  | .udp => false
  | .dtls => false

-- a message's own id is not used; `assign` is the application's change to a topic it keeps
inductive Method where
  | connect (options : ConnectData)
  | connectSN (options : MQTTSN.ConnectData)
  | publish (topicName payload : Bytes) (qos : QoS) (retained : Bool)
  | publishSN (topicName : MQTTSNGW.TopicId) (payload : Bytes) (qos : QoS) (retained : Bool)
  | subscribe (topicFilter : Bytes) (qos : QoS) (mh : Option Nat)
  | subscribeSN (topicFilter : Nat) (qos : QoS) (mh : Option Nat)
  | unsubscribe (topicFilter : Bytes)
  | unsubscribeSN (topicFilter : Nat)
  | yield (timeoutMs : Nat)
  | disconnect
  | isConnected
  | setDefaultMessageHandler (mh : Option Nat)
  | setMessageHandler (topicFilter : Bytes) (mh : Option Nat)
  | assign (topicFilter : Nat) (topic : MQTTSNGW.TopicId)
  deriving Repr

structure Invocation (σ κ : Type) where
  method : Method
  net : MQTTNetworkMbedOs σ
  clock : List κ
  stack : List Nat

structure MQTTClient (τ : Type) where
  client : Option (System τ)
  clientSN : Option (MQTTSN.System τ)

variable {σ τ κ : Type}

namespace Invocation

def call (r : Invocation σ κ) (op : Op) : Call (MQTTNetworkMbedOs σ) κ :=
  ⟨op, r.net, r.clock, r.stack⟩

def request (r : Invocation σ κ) (op : MQTTSN.Op) : MQTTSN.Request (MQTTNetworkMbedOs σ) κ :=
  ⟨op, r.net, r.clock, r.stack⟩

end Invocation

def checked (ret : Int) : Int := if ret < 0 then NSAPI_ERROR_NO_CONNECTION else ret

-- what the constructors of the wrapped clients leave unset is taken from the arguments
structure Setup (τ : Type) where
  commandTimeoutMs : Nat
  idle : τ
  duration : Nat
  cleansession : Bool

namespace MQTTClient

def construct (cfg : MQTTSN.Config) (setup : Setup τ) (kind : SocketKind) : MQTTClient τ :=
  if kind.isStream then ⟨some (.start cfg.toConfig setup.commandTimeoutMs setup.idle), none⟩
  else ⟨none, some (.start cfg setup.commandTimeoutMs setup.idle setup.duration setup.cleansession)⟩

def isConnected (m : MQTTClient τ) : Bool :=
  match m.client, m.clientSN with
  | some y, none => y.client.isconnected
  | none, some y => y.client.isconnected
  | _, _ => false

variable [SocketType σ] [Timer τ κ]

def onClient (cfg : MQTTSN.Config) (m : MQTTClient τ) (r : Invocation σ κ) (op : Op) :
    MQTTClient τ × Int :=
  match m.client with
  | none => (m, NSAPI_ERROR_NO_CONNECTION)
  | some y =>
      ({ m with client := some (y.perform cfg.toConfig (r.call op)) },
        checked (y.rc cfg.toConfig (r.call op)))

def onClientSN (cfg : MQTTSN.Config) (m : MQTTClient τ) (r : Invocation σ κ) (op : MQTTSN.Op) :
    MQTTClient τ × Int :=
  match m.clientSN with
  | none => (m, NSAPI_ERROR_NO_CONNECTION)
  | some y =>
      ({ m with clientSN := some (y.perform cfg (r.request op)) }, checked (y.rc cfg (r.request op)))

def onEither (cfg : MQTTSN.Config) (m : MQTTClient τ) (r : Invocation σ κ) (op : Op)
    (opSN : MQTTSN.Op) : MQTTClient τ × Int :=
  if m.client.isSome then m.onClient cfg r op else m.onClientSN cfg r opSN

-- with only `clientSN` set it is `client` that is dereferenced
def setDefaultMessageHandler (cfg : MQTTSN.Config) (m : MQTTClient τ) (r : Invocation σ κ)
    (mh : Option Nat) : Option (MQTTClient τ × Int) :=
  match m.client with
  | some y =>
      some ({ m with client := some (y.perform cfg.toConfig (r.call (.setDefaultMessageHandler mh))) },
        NSAPI_ERROR_OK)
  | none => if m.clientSN.isSome then none else some (m, NSAPI_ERROR_OK)

-- the only method that passes a negative code of the wrapped client on
def setMessageHandler (cfg : MQTTSN.Config) (m : MQTTClient τ) (r : Invocation σ κ)
    (topicFilter : Bytes) (mh : Option Nat) : MQTTClient τ × Int :=
  if m.clientSN.isSome then (m, NSAPI_ERROR_UNSUPPORTED)
  else
    match m.client with
    | none => (m, NSAPI_ERROR_NO_CONNECTION)
    | some y =>
        let call := r.call (.setMessageHandler topicFilter mh)
        ({ m with client := some (y.perform cfg.toConfig call) }, y.rc cfg.toConfig call)

def assign (cfg : MQTTSN.Config) (m : MQTTClient τ) (r : Invocation σ κ) (topicFilter : Nat)
    (topic : MQTTSNGW.TopicId) : MQTTClient τ × Int :=
  ({ m with clientSN := m.clientSN.map fun y =>
      y.perform cfg (r.request (.other (.assign topicFilter topic))) }, NSAPI_ERROR_OK)

-- nothing where a null pointer is dereferenced
def step (cfg : MQTTSN.Config) (m : MQTTClient τ) (r : Invocation σ κ) :
    Option (MQTTClient τ × Int) :=
  match r.method with
  | .connect options => some (m.onClient cfg r (.connect options))
  | .connectSN options => some (m.onClientSN cfg r (.connect options))
  | .publish topicName payload qos retained =>
      some (m.onClient cfg r (.publish topicName payload 0 qos retained))
  | .publishSN topicName payload qos retained =>
      some (m.onClientSN cfg r (.publish topicName payload 0 qos retained))
  | .subscribe topicFilter qos mh => some (m.onClient cfg r (.subscribe topicFilter qos mh))
  | .subscribeSN topicFilter qos mh =>
      some (m.onClientSN cfg r (.other (.subscribe topicFilter qos mh)))
  | .unsubscribe topicFilter => some (m.onClient cfg r (.unsubscribe topicFilter))
  | .unsubscribeSN topicFilter => some (m.onClientSN cfg r (.other (.unsubscribe topicFilter)))
  | .yield timeoutMs => some (m.onEither cfg r (.yield timeoutMs) (.other (.yield timeoutMs)))
  | .disconnect => some (m.onEither cfg r .disconnect (.disconnect 0))
  | .isConnected => some (m, m.isConnected.toNat)
  | .setDefaultMessageHandler mh => m.setDefaultMessageHandler cfg r mh
  | .setMessageHandler topicFilter mh => some (m.setMessageHandler cfg r topicFilter mh)
  | .assign topicFilter topic => some (m.assign cfg r topicFilter topic)

end MQTTClient

-- the operation of the wrapped MQTT client that a method comes to
def Method.op : Method → Option Op
  | .connect options => some (.connect options)
  | .publish topicName payload qos retained => some (.publish topicName payload 0 qos retained)
  | .subscribe topicFilter qos mh => some (.subscribe topicFilter qos mh)
  | .unsubscribe topicFilter => some (.unsubscribe topicFilter)
  | .yield timeoutMs => some (.yield timeoutMs)
  | .disconnect => some .disconnect
  | .setDefaultMessageHandler mh => some (.setDefaultMessageHandler mh)
  | .setMessageHandler topicFilter mh => some (.setMessageHandler topicFilter mh)
  | _ => none

def Method.opSN : Method → Option MQTTSN.Op
  | .connectSN options => some (.connect options)
  | .publishSN topicName payload qos retained => some (.publish topicName payload 0 qos retained)
  | .subscribeSN topicFilter qos mh => some (.other (.subscribe topicFilter qos mh))
  | .unsubscribeSN topicFilter => some (.other (.unsubscribe topicFilter))
  | .yield timeoutMs => some (.other (.yield timeoutMs))
  | .disconnect => some (.disconnect 0)
  | .assign topicFilter topic => some (.other (.assign topicFilter topic))
  | _ => none

def Method.setsDefault : Method → Bool
  | .setDefaultMessageHandler _ => true
  | _ => false

def Method.setsHandler : Method → Bool
  | .setMessageHandler _ _ => true
  | _ => false

def Answers (method : Method) (code : Int) : Prop :=
  0 ≤ code ∨ code = NSAPI_ERROR_NO_CONNECTION ∨
    method.setsHandler = true ∧ (code = NSAPI_ERROR_UNSUPPORTED ∨ code = FAILURE)

theorem checked_answers (method : Method) (ret : Int) : Answers method (checked ret) := by
  unfold checked
  split
  · exact .inr (.inl rfl)
  · exact .inl (by omega)

theorem negative_of_checked {ret : Int} (h : checked ret = NSAPI_ERROR_NO_CONNECTION) : ret < 0 := by
  by_contra hret
  rw [checked, if_neg hret] at h
  exact hret (h ▸ by decide)

def Invocation.streamCall (r : Invocation σ κ) : Option (Call (MQTTNetworkMbedOs σ) κ) :=
  r.method.op.map r.call

def Invocation.datagramRequest (r : Invocation σ κ) :
    Option (MQTTSN.Request (MQTTNetworkMbedOs σ) κ) := r.method.opSN.map r.request

-- a method that leaves `m`, with the code that the wrapped client returned, if it was called
def Forwards (m : MQTTClient τ) (method : Method) (rc : Option Int)
    (r : Option (MQTTClient τ × Int)) : Prop :=
  ∃ code, r = some (m, code) ∧ Answers method code ∧
    (code = NSAPI_ERROR_NO_CONNECTION → ∀ ret ∈ rc, ret < 0)

namespace Forwards

variable {m : MQTTClient τ} {method : Method}

theorem checked (ret : Int) :
    Forwards m method (some ret) (some (m, MbedOs.checked ret)) := by
  refine ⟨_, rfl, checked_answers method ret, ?_⟩
  rintro hcode _ ⟨⟩
  exact negative_of_checked hcode

theorem refused : Forwards m method none (some (m, NSAPI_ERROR_NO_CONNECTION)) :=
  ⟨_, rfl, .inr (.inl rfl), fun _ _ hret => nomatch hret⟩

theorem answered {code : Int} (hcode : 0 ≤ code) (rc : Option Int) :
    Forwards m method rc (some (m, code)) :=
  ⟨code, rfl, .inl hcode, fun hno => absurd (hno ▸ hcode) (by decide)⟩

theorem set {ret : Int} (hmethod : method.setsHandler = true) (hret : ret = SUCCESS ∨ ret = FAILURE) :
    Forwards m method (some ret) (some (m, ret)) := by
  rcases hret with rfl | rfl
  · exact answered (by decide) _
  · exact ⟨_, rfl, .inr (.inr ⟨hmethod, .inr rfl⟩), fun hno => absurd hno (by decide)⟩

theorem unsupported (hmethod : method.setsHandler = true) :
    Forwards m method none (some (m, NSAPI_ERROR_UNSUPPORTED)) :=
  ⟨_, rfl, .inr (.inr ⟨hmethod, .inl rfl⟩), fun hno => absurd hno (by decide)⟩

end Forwards

section Wrapped

variable [SocketType σ] [Timer τ κ]

theorem step_stream (cfg : MQTTSN.Config) (y : System τ) (r : Invocation σ κ) :
    Forwards ⟨some (r.streamCall.elim y (y.perform cfg.toConfig)), none⟩ r.method
      (r.streamCall.map (y.rc cfg.toConfig)) (MQTTClient.step cfg ⟨some y, none⟩ r) := by
  obtain ⟨method, net, clock, stack⟩ := r
  cases method with
  | connect _ | publish _ _ _ _ | subscribe _ _ _ | unsubscribe _ | yield _ | disconnect =>
    exact .checked _
  | connectSN _ | publishSN _ _ _ _ | subscribeSN _ _ _ | unsubscribeSN _ => exact .refused
  | isConnected => exact .answered (Int.natCast_nonneg _) _
  | setDefaultMessageHandler _ => exact .answered le_rfl _
  | setMessageHandler _ _ => exact .set rfl (setMessageHandler_rc _ _ _)
  | assign _ _ => exact .answered le_rfl _

theorem step_datagram (cfg : MQTTSN.Config) (y : MQTTSN.System τ) {r : Invocation σ κ}
    (hdefault : r.method.setsDefault = false) :
    Forwards ⟨none, some (r.datagramRequest.elim y (y.perform cfg))⟩ r.method
      (r.datagramRequest.map (y.rc cfg)) (MQTTClient.step cfg ⟨none, some y⟩ r) := by
  obtain ⟨method, net, clock, stack⟩ := r
  cases method with
  | connectSN _ | publishSN _ _ _ _ | subscribeSN _ _ _ | unsubscribeSN _ | yield _ | disconnect =>
    exact .checked _
  | connect _ | publish _ _ _ _ | subscribe _ _ _ | unsubscribe _ => exact .refused
  | isConnected => exact .answered (Int.natCast_nonneg _) _
  | setDefaultMessageHandler _ => cases hdefault
  | setMessageHandler _ _ => exact .unsupported rfl
  | assign _ _ => exact .answered le_rfl _

theorem step_dereferences (cfg : MQTTSN.Config) (y : MQTTSN.System τ) {r : Invocation σ κ}
    (hdefault : r.method.setsDefault = true) :
    MQTTClient.step cfg ⟨none, some y⟩ r = none := by
  obtain ⟨method, net, clock, stack⟩ := r
  cases method with
  | setDefaultMessageHandler _ => rfl
  | _ => cases hdefault

theorem run_stream (cfg : MQTTSN.Config) (y : System τ) (rs : List (Invocation σ κ)) :
    ∃ codes, runTrace (MQTTClient.step cfg) ⟨some y, none⟩ rs =
        some (⟨some (y.run cfg.toConfig (rs.filterMap Invocation.streamCall)), none⟩, codes) ∧
      List.Forall₂ (fun r code => Answers r.method code) rs codes := by
  induction rs generalizing y with
  | nil => exact ⟨[], rfl, .nil⟩
  | cons r rs ih =>
    obtain ⟨code, hstep, hanswers, -⟩ := step_stream cfg y r
    obtain ⟨codes, hrun, hall⟩ := ih (r.streamCall.elim y (y.perform cfg.toConfig))
    refine ⟨code :: codes, ?_, .cons hanswers hall⟩
    simp only [runTrace, hstep, hrun, Option.map_some]
    cases hcall : r.streamCall with
    | none => rw [List.filterMap_cons_none hcall, Option.elim_none]
    | some call =>
      rw [List.filterMap_cons_some hcall, Option.elim_some]
      rfl

theorem run_datagram (cfg : MQTTSN.Config) (y : MQTTSN.System τ) {rs : List (Invocation σ κ)}
    (hdefault : ∀ r ∈ rs, r.method.setsDefault = false) :
    ∃ codes, runTrace (MQTTClient.step cfg) ⟨none, some y⟩ rs =
        some (⟨none, some (y.run cfg (rs.filterMap Invocation.datagramRequest))⟩, codes) ∧
      List.Forall₂ (fun r code => Answers r.method code) rs codes := by
  induction rs generalizing y with
  | nil => exact ⟨[], rfl, .nil⟩
  | cons r rs ih =>
    obtain ⟨hfirst, hrest⟩ := List.forall_mem_cons.mp hdefault
    obtain ⟨code, hstep, hanswers, -⟩ := step_datagram cfg y hfirst
    obtain ⟨codes, hrun, hall⟩ := ih (r.datagramRequest.elim y (y.perform cfg)) hrest
    refine ⟨code :: codes, ?_, .cons hanswers hall⟩
    simp only [runTrace, hstep, hrun, Option.map_some]
    cases hrequest : r.datagramRequest with
    | none => rw [List.filterMap_cons_none hrequest, Option.elim_none]
    | some request =>
      rw [List.filterMap_cons_some hrequest, Option.elim_some]
      rfl

theorem run_dereferences (cfg : MQTTSN.Config) (y : MQTTSN.System τ) {rs : List (Invocation σ κ)}
    (hdefault : ∃ r ∈ rs, r.method.setsDefault = true) :
    runTrace (MQTTClient.step cfg) ⟨none, some y⟩ rs = none := by
  induction rs generalizing y with
  | nil =>
    obtain ⟨r, hr, -⟩ := hdefault
    cases hr
  | cons r rs ih =>
    cases hfirst : r.method.setsDefault with
    | true => simp only [runTrace, step_dereferences cfg y hfirst]
    | false =>
      obtain ⟨code, hstep, -⟩ := step_datagram cfg y hfirst
      have hrest : ∃ r ∈ rs, r.method.setsDefault = true := by
        obtain ⟨r', hr', hsets⟩ := hdefault
        rcases List.mem_cons.mp hr' with rfl | hr'
        · rw [hfirst] at hsets
          cases hsets
        · exact ⟨r', hr', hsets⟩
      simp only [runTrace, hstep, ih _ hrest, Option.map_none]

-- what the wrapped clients have come to after the calls of their own family
def MQTTClient.wrapped (cfg : MQTTSN.Config) (setup : Setup τ) (kind : SocketKind)
    (rs : List (Invocation σ κ)) : MQTTClient τ :=
  if kind.isStream then
    ⟨some (System.run cfg.toConfig (.start cfg.toConfig setup.commandTimeoutMs setup.idle)
      (rs.filterMap Invocation.streamCall)), none⟩
  else
    ⟨none, some (MQTTSN.System.run cfg
      (.start cfg setup.commandTimeoutMs setup.idle setup.duration setup.cleansession)
      (rs.filterMap Invocation.datagramRequest))⟩

theorem wrapper_forwards (cfg : MQTTSN.Config) (setup : Setup τ) (kind : SocketKind)
    (rs : List (Invocation σ κ)) :
    (runTrace (MQTTClient.step cfg) (.construct cfg setup kind) rs = none ↔
      kind.isStream = false ∧ ∃ r ∈ rs, r.method.setsDefault = true) ∧
    ∀ m codes, runTrace (MQTTClient.step cfg) (.construct cfg setup kind) rs = some (m, codes) →
      m = .wrapped cfg setup kind rs ∧
        List.Forall₂ (fun r code => Answers r.method code) rs codes := by
  cases hkind : kind.isStream with
  | true =>
    obtain ⟨codes, hrun, hanswers⟩ := run_stream cfg
      (.start cfg.toConfig setup.commandTimeoutMs setup.idle) rs
    rw [MQTTClient.construct, MQTTClient.wrapped, if_pos hkind, if_pos hkind, hrun]
    refine ⟨by simp, ?_⟩
    rintro m codes ⟨⟩
    exact ⟨rfl, hanswers⟩
  | false =>
    rw [MQTTClient.construct, MQTTClient.wrapped, if_neg (Bool.eq_false_iff.mp hkind),
      if_neg (Bool.eq_false_iff.mp hkind)]
    by_cases hdefault : ∃ r ∈ rs, r.method.setsDefault = true
    · rw [run_dereferences cfg _ hdefault]
      exact ⟨⟨fun _ => ⟨rfl, hdefault⟩, fun _ => rfl⟩, fun _ _ hrun => nomatch hrun⟩
    · have hnone : ∀ r ∈ rs, r.method.setsDefault = false := fun r hr =>
        Bool.eq_false_iff.mpr fun hsets => hdefault ⟨r, hr, hsets⟩
      obtain ⟨codes, hrun, hanswers⟩ := run_datagram cfg
        (.start cfg setup.commandTimeoutMs setup.idle setup.duration setup.cleansession) hnone
      rw [hrun]
      refine ⟨⟨(fun hno => nomatch hno), fun h => absurd h.2 hdefault⟩, ?_⟩
      rintro m codes ⟨⟩
      exact ⟨rfl, hanswers⟩

end Wrapped

section Errors

theorem cycle_failed [Network σ] [Timer τ κ] {cfg : Config} {c : Client τ} {w : World σ τ κ}
    {timer : τ}
    (h : (cycle cfg c w timer).rc < 0) : (cycle cfg c w timer).client.isconnected = false := by
  unfold cycle at h ⊢
  by_cases hrc : (cycleKeepalive cfg (cycleSwitch cfg (readPacket cfg c w).rc
      (readPacket cfg c w).client (readPacket cfg c w).world timer)).rc = SUCCESS
  · -- the packet type is what is returned, and a negative one has left the switch already
    have hexit := h
    simp only [cycleExit, hrc, if_true] at hexit
    have hne : (readPacket cfg c w).rc ≠ 0 := by omega
    rw [cycleSwitch_idle cfg (by omega)] at hrc
    simp [cycleKeepalive, hne] at hrc
  · exact (cycleExit_failed cfg _ hrc).2.2.2.1

theorem yieldLoop_failed [Network σ] [Timer τ κ] {cfg : Config} {timer : τ} {fuel : Nat}
    {c : Client τ} {w : World σ τ κ} (h : (yieldLoop cfg timer fuel c w).rc < 0) :
    (yieldLoop cfg timer fuel c w).client.isconnected = false := by
  induction fuel generalizing c w with
  | zero => exact absurd h (lt_irrefl (0 : Int))
  | succ fuel ih =>
    simp only [yieldLoop] at h ⊢
    split_ifs at h ⊢ with hexpired hfailed
    · exact absurd h (lt_irrefl (0 : Int))
    · exact cycle_failed hfailed
    · exact ih h

-- a call whose failure leaves an open connection open
def keepsOpen (cfg : Config) (s : Session) : Op → Bool
  | .connect _ => true
  | .publish topicName payload id qos retained =>
      decide ((serializePublish cfg.maxPacketSize 0 qos.toInt retained.toNat
        (s.publishId cfg id qos) (.ofCString topicName) payload).1 ≤ 0)
  | .setMessageHandler _ _ => true
  | .setDefaultMessageHandler _ => true
  | _ => false

theorem publishing_failed {cfg : Config} {packet : Bytes} {qos : QoS} {s t : Session} {rc : Int}
    {ev : List Event} (h : Publishing cfg packet qos s rc ev t) (hrc : rc < 0) :
    t.isconnected = false := by
  cases h with
  | unsent => exact close_disconnected cfg s
  | sent => exact absurd hrc (by decide)
  | acked => exact absurd hrc (by decide)
  | unacked => exact close_disconnected cfg _

theorem requests_failed {cfg : Config} {request : Int × Bytes} {ackType : Nat} {topicFilter : Bytes}
    {mh : Option Nat} {s t : Session} {rc : Int} {ev : List Event}
    (h : Requests cfg request ackType topicFilter mh s rc ev t) (hrc : rc < 0) :
    t.isconnected = false := by
  cases h with
  | refused => exact close_disconnected cfg _
  | unfit => exact close_disconnected cfg _
  | unsent => exact close_disconnected cfg _
  | unacked => exact close_disconnected cfg _
  | answered _ _ _ _ _ hcode =>
    rcases hcode with rfl | rfl
    · exact absurd hrc (by decide)
    · exact close_disconnected cfg _

theorem runs_failed {cfg : Config} {s t : Session} {op : Op} {rc : Int} {ev : List Event}
    (h : Runs cfg s op rc ev t) (hrc : rc < 0)
    (hyield : ∀ timeoutMs, op = .yield timeoutMs → t.isconnected = false) :
    t.isconnected = (s.isconnected && keepsOpen cfg s op) := by
  cases h with
  | connect h =>
    rw [keepsOpen, Bool.and_true]
    cases hs : s.isconnected with
    | true => rw [(h.of_connected hs).2, hs]
    | false =>
      refine Bool.eq_false_iff.mpr fun ht => ?_
      rw [h.success_of_isconnected hs ht] at hrc
      exact absurd hrc (by decide)
  | publish h =>
    cases h with
    | refused hs => simp [hs]
    | unfit hs hfit => simp [keepsOpen, hs, hfit]
    | @handed packet _ _ _ hs hpacket _ hlen hp =>
      have hfit : ¬(packet.length : Int) ≤ 0 := by omega
      rw [publishing_failed hp hrc, keepsOpen, hpacket, hs, decide_eq_false hfit]
      rfl
  | subscribe h => simp [requests_failed h hrc, keepsOpen]
  | unsubscribe h => simp [requests_failed h hrc, keepsOpen]
  | yield => simp [hyield _ rfl, keepsOpen]
  | disconnect h =>
    have hclosed : t.isconnected = false := by
      cases h with
      | unfit => exact close_disconnected cfg s
      | sent => exact close_disconnected cfg s
      | unsent => exact close_disconnected cfg s
    simp [hclosed, keepsOpen]
  | setMessageHandler => simp [keepsOpen]
  | setDefaultMessageHandler => exact absurd hrc (by decide)

theorem keeps_failed {cfg : MQTTSN.Config} {s : MQTTSN.Session} {rc : Int} (hrc : rc < 0)
    (op : MQTTSN.Op) : op.keeps cfg s rc = op.keeps cfg s FAILURE := by
  have hne : ¬rc = SUCCESS := by
    rintro rfl
    exact absurd hrc (by decide)
  cases op with
  | other call => cases call <;> simp [MQTTSN.Op.keeps, hne]
  | _ => simp [MQTTSN.Op.keeps, hne]

variable [SocketType σ] [Timer τ κ]

namespace MQTTClient

def after (cfg : MQTTSN.Config) (m : MQTTClient τ) (r : Invocation σ κ) : MQTTClient τ :=
  ((m.step cfg r).map (·.1)).getD m

def keeps (cfg : MQTTSN.Config) (m : MQTTClient τ) (method : Method) : Bool :=
  match m.client, m.clientSN with
  | some y, _ => (method.op.map (keepsOpen cfg.toConfig y.client.toSession)).getD true
  | none, some y =>
      (method.opSN.map (MQTTSN.Op.keeps cfg y.client.toSession FAILURE)).getD true
  | none, none => true

-- an error leaves the client connected only where it was and the call keeps it so
def Reports (cfg : MQTTSN.Config) (m : MQTTClient τ) (r : Invocation σ κ) : Prop :=
  ∀ m', m.step cfg r = some (m', NSAPI_ERROR_NO_CONNECTION) →
    m'.isConnected = (m.isConnected && m.keeps cfg r.method)

inductive Wraps : MQTTClient τ → Prop
  | stream (y : System τ) : Wraps ⟨some y, none⟩
  | datagram (y : MQTTSN.System τ) (h : y.client.slot.Loaded) : Wraps ⟨none, some y⟩

theorem construct_wraps (cfg : MQTTSN.Config) (setup : Setup τ) (kind : SocketKind) :
    Wraps (construct cfg setup kind) := by
  unfold construct
  split
  · exact .stream _
  · exact .datagram _ (MQTTSN.start_loaded cfg _ _ _ _)

theorem Wraps.after {m : MQTTClient τ} (h : Wraps m) (cfg : MQTTSN.Config) (r : Invocation σ κ) :
    Wraps (m.after cfg r) := by
  cases h with
  | stream y =>
    obtain ⟨code, hstep, -⟩ := step_stream cfg y r
    rw [MQTTClient.after, hstep]
    exact .stream _
  | datagram y hloaded =>
    cases hdefault : r.method.setsDefault with
    | true =>
      rw [MQTTClient.after, step_dereferences cfg y hdefault]
      exact .datagram y hloaded
    | false =>
      obtain ⟨code, hstep, -⟩ := step_datagram cfg y hdefault
      rw [MQTTClient.after, hstep]
      refine .datagram _ ?_
      cases r.datagramRequest with
      | none => exact hloaded
      | some request => exact (MQTTSN.perform_performed cfg hloaded request).loaded hloaded

theorem reports_stream (cfg : MQTTSN.Config) (y : System τ) (r : Invocation σ κ) :
    Reports cfg ⟨some y, none⟩ r := by
  intro m' hm'
  obtain ⟨code, hstep, -, hnegative⟩ := step_stream cfg y r
  rw [hstep] at hm'
  obtain ⟨rfl, rfl⟩ := Prod.mk.inj (Option.some.inj hm')
  cases hop : r.method.op with
  | none => simp [Invocation.streamCall, hop, isConnected, keeps]
  | some op =>
    simp only [Invocation.streamCall, hop, Option.map_some, Option.elim_some] at hnegative ⊢
    have hrc := hnegative trivial _ rfl
    obtain ⟨-, hruns⟩ := y.perform_runs cfg.toConfig (r.call op)
    have hyield : ∀ timeoutMs, op = .yield timeoutMs →
        (y.perform cfg.toConfig (r.call op)).client.isconnected = false := by
      rintro timeoutMs rfl
      exact yieldLoop_failed hrc
    have hfailed : (y.perform cfg.toConfig (r.call op)).client.isconnected =
        (y.client.isconnected && keepsOpen cfg.toConfig y.client.toSession op) :=
      runs_failed hruns hrc hyield
    simpa [isConnected, keeps, hop] using hfailed

theorem reports_datagram (cfg : MQTTSN.Config) (y : MQTTSN.System τ) (hloaded : y.client.slot.Loaded)
    (r : Invocation σ κ) : Reports cfg ⟨none, some y⟩ r := by
  intro m' hm'
  cases hdefault : r.method.setsDefault with
  | true =>
    rw [step_dereferences cfg y hdefault] at hm'
    cases hm'
  | false =>
    obtain ⟨code, hstep, -, hnegative⟩ := step_datagram cfg y hdefault
    rw [hstep] at hm'
    obtain ⟨rfl, rfl⟩ := Prod.mk.inj (Option.some.inj hm')
    cases hop : r.method.opSN with
    | none => simp [Invocation.datagramRequest, hop, isConnected, keeps]
    | some op =>
      simp only [Invocation.datagramRequest, hop, Option.map_some, Option.elim_some] at hnegative ⊢
      have hrc := hnegative trivial _ rfl
      have hperformed : (y.perform cfg (r.request op)).client.isconnected =
          (y.client.isconnected && op.keeps cfg y.client.toSession (y.rc cfg (r.request op)) ||
            op.isConnect && decide (y.rc cfg (r.request op) = SUCCESS)) :=
        (MQTTSN.perform_performed cfg hloaded (r.request op)).isconnected
      have hne : ¬y.rc cfg (r.request op) = SUCCESS := by
        intro hsuccess
        rw [hsuccess] at hrc
        exact absurd hrc (by decide)
      rw [keeps_failed hrc, decide_eq_false hne, Bool.and_false, Bool.or_false] at hperformed
      simpa [isConnected, keeps, hop] using hperformed

end MQTTClient

theorem errors_disconnect (cfg : MQTTSN.Config) (setup : Setup τ) (kind : SocketKind)
    (rs : List (Invocation σ κ)) :
    Steps (MQTTClient.after cfg) (MQTTClient.Reports cfg) (.construct cfg setup kind) rs := by
  have hwraps := MQTTClient.construct_wraps cfg setup kind
  generalize MQTTClient.construct cfg setup kind = m at hwraps
  induction rs generalizing m with
  | nil => trivial
  | cons r rs ih =>
    refine ⟨?_, ih _ (hwraps.after cfg r)⟩
    cases hwraps with
    | stream y => exact MQTTClient.reports_stream cfg y r
    | datagram y hloaded => exact MQTTClient.reports_datagram cfg y hloaded r

end Errors

end MbedMqtt.MbedOs
