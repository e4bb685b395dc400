import MbedMqtt.Gateway.Process
import MbedMqtt.Contract.SleepQueue
import MbedMqtt.Library.Steps

namespace MbedMqtt.MQTTSNGW

open PacketHandleTask

def BrokerSendTask.loses (packet : MQTTGWPacket) (connection : Connection) (attempt : Attempt) :
    Bool :=
  match exchange packet connection attempt with
  | .refused => renewed packet connection = .closed
  | .broken => true
  | .sent => false

namespace Process

abbrev lossEvent (c : Nat) : Event := .brokerRecv c (.setHeader DISCONNECT)

def Reacts (c : Nat) (before after : Process) : Prop :=
  (after.task.clients c).status = .disconnected ∧
    after.clientSendQue = before.clientSendQue ++ [(c, .disconnect 0)]

def Orphaned (s : Process) (c : Nat) : Prop :=
  s.erased c = false ∧ (s.task.clients c).isActive = true ∧ s.network c = .closed

instance (c : Nat) (before after : Process) : Decidable (Reacts c before after) :=
  inferInstanceAs (Decidable (_ ∧ _))

instance (s : Process) (c : Nat) : Decidable (Orphaned s c) :=
  inferInstanceAs (Decidable (_ ∧ _ ∧ _))

theorem handleEvent_loss (gw : Gateway) (ids : MessageIds) (clients : Nat → Client) (c : Nat) :
    handleEvent gw ids clients (lossEvent c) = .done c (.unchanged (clients c)) := by
  have htype : (MQTTGWPacket.setHeader DISCONNECT).getType = DISCONNECT := rfl
  simp only [handleEvent]
  split
  · simp [aggregateBrokerPacket, htype, DISCONNECT, CONNACK, PINGRESP, PUBLISH, PUBREL, PUBACK,
      PUBREC, PUBCOMP, SUBACK, UNSUBACK]
  · simp [transparentBrokerPacket, htype, DISCONNECT, CONNACK, PINGRESP, PUBLISH, PUBREL, PUBACK,
      PUBREC, PUBCOMP, SUBACK, UNSUBACK, Result.ofOption]

theorem loss_discarded (cfg : Config) {s : Process} {c : Nat} {rest : List Event}
    (hrunning : s.task.fault = false) (halive : s.erased c = false)
    (hitems : s.task.packetEventQue.items = lossEvent c :: rest) (ids : MessageIds) :
    step cfg s (.packetHandle ids) = { s with task := take s.task } := by
  have hfinish : finish s.task (.done c (.unchanged (s.task.clients c))) = take s.task := by
    simp [finish, apply, Handled.unchanged, take]
  simp only [step, hrunning, Bool.false_eq_true, if_false, packetHandle, hitems, dangling, halive,
    handleEvent_loss, conclude, hfinish]
  simp [dispatch, setAdapter, Handled.unchanged]

def Attached (s : Process) : Prop :=
  ∀ c, s.network c = .closed → (s.task.clients c).status.isUp = false

def Unharmed (cfg : Config) (s : Process) : Act → Prop
  | .packetHandle _ => ∀ ev ∈ s.task.packetEventQue.items.head?,
      ∀ c ∈ activated cfg.gw s.task.clients ev, s.network c ≠ .closed
  | .brokerSend attempt => ∀ m ∈ s.brokerSendQue.head?,
      BrokerSendTask.loses m.2 (s.network (BrokerSendTask.getClient cfg s m.1)) attempt = true →
        (s.task.clients (BrokerSendTask.getClient cfg s m.1)).status.isUp = false
  | .brokerRecv c .disconnected => (s.task.clients c).status.isUp = false
  | _ => True

namespace Attached

variable {s : Process}

theorem congr {after : Process} (h : Attached s) (hclients : after.task.clients = s.task.clients)
    (hnetwork : after.network = s.network) : Attached after := by
  intro c hclosed
  rw [hclients]
  exact h c (hnetwork ▸ hclosed)

theorem setClient (h : Attached s) {c : Nat} {client : Client}
    (hdown : s.network c = .closed → client.status.isUp = false) :
    Attached (s.setClient c client) :=
  (Function.forall_update_iff s.task.clients fun a client =>
    s.network a = .closed → client.status.isUp = false).mpr ⟨hdown, fun a _ => h a⟩

theorem stand (h : Attached s) {c : Nat} {client : Client} (hstands : Stands (s.task.clients c) client) :
    Attached (s.setClient c client) :=
  h.setClient fun hclosed => hstands.down (h c hclosed)

theorem setNetwork (h : Attached s) {c : Nat} {connection : Connection}
    (hdown : connection = .closed → (s.task.clients c).status.isUp = false) :
    Attached (s.setNetwork c connection) :=
  (Function.forall_update_iff s.network fun a connection =>
    connection = .closed → (s.task.clients a).status.isUp = false).mpr ⟨hdown, fun a _ => h a⟩

theorem crash (h : Attached s) : Attached s.crash := h.congr rfl rfl

theorem post (h : Attached s) (events : List Event) : Attached (s.post events) := h.congr rfl rfl

theorem brokerRecv (h : Attached s) {cfg : Config} {c : Nat} {reading : Reading}
    (hunharmed : Unharmed cfg s (.brokerRecv c reading)) :
    Attached (BrokerRecvTask.run cfg s c reading) := by
  unfold BrokerRecvTask.run
  split
  · exact h
  cases reading with
  | packet packet =>
    simp only [BrokerRecvTask.receive]
    split
    · exact h.post _
    · exact h
  | disconnected =>
    have hclosed : Attached (s.setNetwork c (s.network c).close) := h.setNetwork fun _ => hunharmed
    simp only [BrokerRecvTask.receive, BrokerRecvTask.erase]
    split
    · exact hclosed.congr rfl rfl
    · exact hclosed
  | failed =>
    simp only [BrokerRecvTask.receive]
    split
    · exact h.post _
    · exact h
  | noMemory => exact h

theorem brokerSend (h : Attached s) {cfg : Config} {attempt : Attempt}
    (hunharmed : Unharmed cfg s (.brokerSend attempt)) : Attached (BrokerSendTask.run cfg s attempt) := by
  unfold BrokerSendTask.run
  split
  · exact h
  rename_i c packet rest hque
  simp only
  split
  · exact h.crash
  have hdown := hunharmed (c, packet) (by rw [hque]; rfl)
  simp only [BrokerSendTask.loses] at hdown
  have hpopped : Attached { s with brokerSendQue := rest } := h.congr rfl rfl
  cases hexchange : BrokerSendTask.exchange packet (s.network (BrokerSendTask.getClient cfg s c)) attempt with
  | refused =>
    refine hpopped.setNetwork fun hclosed => hdown ?_
    simpa only [hexchange, decide_eq_true_eq] using hclosed
  | broken => exact (hpopped.setNetwork fun _ => hdown (by rw [hexchange])).post _
  | sent =>
    have hopen : Attached ({ s with brokerSendQue := rest }.setNetwork
        (BrokerSendTask.getClient cfg s c) .established) := hpopped.setNetwork nofun
    simp only [BrokerSendTask.conclude]
    split
    · exact stand (hopen.congr rfl rfl) (.connectSended _)
    · exact hopen.congr rfl rfl

theorem clientSend (h : Attached s) (cfg : Config) : Attached (ClientSendTask.run cfg s) := by
  unfold ClientSendTask.run
  split
  · exact h
  split
  · exact h.crash
  unfold ClientSendTask.unicastToClient
  split
  · exact h.congr rfl rfl
  split
  · exact h.congr rfl rfl
  · exact h.congr rfl rfl

theorem checkProxy (h : Attached s) (type : AdapterType) (timeup : Timeup) (channel : Channel) :
    Attached (Process.checkProxy s type timeup channel) := by
  simp only [Process.checkProxy]
  split
  · exact h.crash
  · exact ((h.stand (Proxy.checkConnection_stands _ _ _ _)).congr rfl rfl).post _

theorem checkAdapter (h : Attached s) (timeup : AdapterType → Channel → Timeup) (type : AdapterType) :
    Attached (Process.checkAdapter s timeup type) := by
  simp only [Process.checkAdapter]
  split
  · exact (h.checkProxy _ _ _).checkProxy _ _ _
  · exact h.checkProxy _ _ _

theorem checkConnection (h : Attached s) (cfg : Config) (timeup : AdapterType → Channel → Timeup) :
    Attached (Process.checkConnection cfg s timeup) := by
  have haggregater : Attached
      (if cfg.gw.aggregaterActive then Process.checkAdapter s timeup .aggregater else s) := by
    split
    · exact h.checkAdapter timeup _
    · exact h
  simp only [Process.checkConnection]
  split
  · exact haggregater.checkAdapter timeup _
  · exact haggregater

theorem packetHandle (h : Attached s) {cfg : Config} {ids : MessageIds}
    (hunharmed : Unharmed cfg s (.packetHandle ids)) : Attached (Process.packetHandle cfg s ids) := by
  unfold Process.packetHandle
  split
  · exact h
  rename_i ev rest hitems
  split
  · exact h.crash
  have hclosed := hunharmed ev (by rw [hitems]; rfl)
  cases hresult : handleEvent cfg.gw ids s.task.clients ev with
  | nothing => exact h.congr rfl rfl
  | fault => exact h.congr rfl rfl
  | done target handled =>
    simp only [Process.conclude]
    split
    · exact h.crash
    have hset : Attached (s.setClient target handled.client) := by
      by_cases hactivated : activated cfg.gw s.task.clients ev = some target
      · exact h.setClient fun hnetwork => absurd hnetwork (hclosed target hactivated)
      · exact h.stand (handleEvent_stands hactivated hresult)
    exact hset.congr rfl rfl

theorem step (h : Attached s) {cfg : Config} {act : Act} (hunharmed : Unharmed cfg s act) :
    Attached (Process.step cfg s act) := by
  unfold Process.step
  split
  · exact h
  cases act with
  | searchgw => exact h.post _
  | clientRecv c packet =>
    simp only
    split
    · exact h
    · exact h.post _
  | setForwarder c =>
    simp only
    split
    · exact h
    · exact h.setClient fun hclosed => h c hclosed
  | brokerRecv c reading => exact h.brokerRecv hunharmed
  | packetHandle ids => exact h.packetHandle hunharmed
  | checkConnection timeup =>
    simp only
    split
    · exact h.checkConnection cfg timeup
    · exact h
  | brokerSend attempt => exact h.brokerSend hunharmed
  | clientSend => exact h.clientSend cfg

end Attached

theorem lost_exchange_orphans (cfg : Config) {s : Process} {c d : Nat} {packet : MQTTGWPacket}
    {rest : List (Nat × MQTTGWPacket)} {attempt : Attempt} (hrunning : s.task.fault = false)
    (hque : s.brokerSendQue = (c, packet) :: rest) (hd : BrokerSendTask.getClient cfg s c = d)
    (halive : s.erased c = false ∧ s.erased d = false)
    (hactive : (s.task.clients d).isActive = true)
    (hloses : BrokerSendTask.loses packet (s.network d) attempt = true) :
    Orphaned (step cfg s (.brokerSend attempt)) d := by
  simp only [BrokerSendTask.loses] at hloses
  simp only [step, hrunning, Bool.false_eq_true, if_false, BrokerSendTask.run, hque, hd, halive,
    Bool.or_self]
  cases hexchange : BrokerSendTask.exchange packet (s.network d) attempt with
  | refused =>
    rw [hexchange] at hloses
    exact ⟨halive.2, hactive, (Function.update_self d _ _).trans (of_decide_eq_true hloses)⟩
  | broken => exact ⟨halive.2, hactive, Function.update_self d _ _⟩
  | sent =>
    rw [hexchange] at hloses
    cases hloses

def reached (cfg : Config) (clients : Nat → Client) (adapters : AdapterType → Adapter)
    (acts : List Act) : Process :=
  run cfg (initial clients adapters) acts

theorem broker_loss_unheeded (cfg : Config) (clients : Nat → Client)
    (adapters : AdapterType → Adapter) (acts : List Act) :
    (∀ c rest ids, (reached cfg clients adapters acts).task.fault = false →
      (reached cfg clients adapters acts).erased c = false →
      (reached cfg clients adapters acts).task.packetEventQue.items = lossEvent c :: rest →
      ¬Reacts c (reached cfg clients adapters acts)
        (reached cfg clients adapters (acts ++ [.packetHandle ids]))) ∧
    (Steps (step cfg) (Unharmed cfg) (initial clients adapters) acts →
      ∀ c, ¬Orphaned (reached cfg clients adapters acts) c) ∧
    ∀ c d packet rest attempt, (reached cfg clients adapters acts).task.fault = false →
      (reached cfg clients adapters acts).brokerSendQue = (c, packet) :: rest →
      BrokerSendTask.getClient cfg (reached cfg clients adapters acts) c = d →
      (reached cfg clients adapters acts).erased c = false →
      (reached cfg clients adapters acts).erased d = false →
      ((reached cfg clients adapters acts).task.clients d).isActive = true →
      BrokerSendTask.loses packet ((reached cfg clients adapters acts).network d) attempt = true →
      Orphaned (reached cfg clients adapters (acts ++ [.brokerSend attempt])) d := by
  have hstep : ∀ act, reached cfg clients adapters (acts ++ [act]) =
      step cfg (reached cfg clients adapters acts) act := fun act => List.foldl_concat ..
  refine ⟨?_, ?_, ?_⟩
  · intro c rest ids hrunning halive hitems hreacts
    rw [hstep, loss_discarded cfg hrunning halive hitems ids] at hreacts
    simpa using hreacts.2
  · intro hsteps c horphaned
    have hstart : Attached (initial clients adapters) := fun _ hclosed => Connection.noConfusion hclosed
    have hattached : Attached (reached cfg clients adapters acts) :=
      Steps.invariant (fun hunharmed hattached => hattached.step hunharmed) hsteps hstart
    have hdown := hattached c horphaned.2.2
    rw [of_decide_eq_true horphaned.2.1] at hdown
    cases hdown
  · intro c d packet rest attempt hrunning hque hd hsender hreceiver hactive hloses
    rw [hstep]
    exact lost_exchange_orphans cfg hrunning hque hd ⟨hsender, hreceiver⟩ hactive hloses

instance (cfg : Config) (s : Process) : ∀ act, Decidable (Unharmed cfg s act)
  | .packetHandle _ => inferInstanceAs (Decidable (∀ ev ∈ s.task.packetEventQue.items.head?,
      ∀ c ∈ activated cfg.gw s.task.clients ev, s.network c ≠ .closed))
  | .brokerSend attempt => inferInstanceAs (Decidable (∀ m ∈ s.brokerSendQue.head?,
      BrokerSendTask.loses m.2 (s.network (BrokerSendTask.getClient cfg s m.1)) attempt = true →
        (s.task.clients (BrokerSendTask.getClient cfg s m.1)).status.isUp = false))
  | .brokerRecv c .disconnected =>
      inferInstanceAs (Decidable ((s.task.clients c).status.isUp = false))
  | .brokerRecv _ (.packet _) => .isTrue trivial
  | .brokerRecv _ .failed => .isTrue trivial
  | .brokerRecv _ .noMemory => .isTrue trivial
  | .searchgw => .isTrue trivial
  | .clientRecv _ _ => .isTrue trivial
  | .setForwarder _ => .isTrue trivial
  | .checkConnection _ => .isTrue trivial
  | .clientSend => .isTrue trivial

def plainConfig : Config := ⟨bareGateway, fun _ => false, false, fun _ => false⟩

def plainAdapters : AdapterType → Adapter := fun _ => .setup false 1 2

def connected : List Act :=
  [.clientRecv 0 (.connect (some ⟨false, false, 60⟩)), .packetHandle noIds, .brokerSend ⟨true, true⟩,
    .brokerRecv 0 (.packet ⟨0x20, 2, [0, 0]⟩), .packetHandle noIds, .clientSend]

def pinged (sent : Bool) : List Act :=
  connected ++ [.clientRecv 0 .pingreq, .packetHandle noIds, .brokerSend ⟨true, sent⟩]

theorem broker_loss_unheeded_pinged :
    ¬Reacts 0 (reached plainConfig freshClients plainAdapters (pinged false))
      (reached plainConfig freshClients plainAdapters (pinged false ++ [.packetHandle noIds])) ∧
    ¬Orphaned (reached plainConfig freshClients plainAdapters (pinged true)) 0 :=
  ⟨(broker_loss_unheeded plainConfig freshClients plainAdapters (pinged false)).1 0 [] noIds
      (by decide +kernel) (by decide +kernel) (by decide +kernel),
    (broker_loss_unheeded plainConfig freshClients plainAdapters (pinged true)).2.1
      (by decide +kernel) 0⟩

theorem broker_loss_stranded :
    (reached plainConfig freshClients plainAdapters (pinged false)).task.packetEventQue.items =
      [lossEvent 0] ∧
    ¬Reacts 0 (reached plainConfig freshClients plainAdapters (pinged false))
      (reached plainConfig freshClients plainAdapters (pinged false ++ [.packetHandle noIds])) ∧
    Idle (reached plainConfig freshClients plainAdapters (pinged false ++ [.packetHandle noIds])) ∧
    Orphaned (reached plainConfig freshClients plainAdapters (pinged false ++ [.packetHandle noIds]))
      0 := by
  refine ⟨?_, ?_, ?_, ?_⟩ <;> decide +kernel

end Process

end MbedMqtt.MQTTSNGW
