import MbedMqtt.Library.Steps
import MbedMqtt.Gateway.Stage
import MbedMqtt.Contract.SleepQueue

namespace MbedMqtt.MQTTSNGW

open PacketHandleTask

inductive Signal where
  | connect (read : Bool)
  | disconnect (sleeps : Bool)
  | pingreq
  | pingresp
  | connack (accepted : Bool)
  | connectSended
  | disconnected
  deriving DecidableEq, Repr

def ClientStatus.next (status : ClientStatus) : Signal → ClientStatus
  | .connect read =>
      match status with
      | .asleep | .awake => .active
      | status => if read then .disconnected else status
  | .disconnect sleeps =>
      match status with
      | .active => if sleeps then .asleep else .disconnected
      | .asleep | .awake => .disconnected
      | status => status
  | .pingreq =>
      match status with
      | .asleep | .awake => .awake
      | status => status
  | .pingresp =>
      match status with
      | .asleep | .awake => .asleep
      | status => status
  | .connack accepted => if accepted then .active else .disconnected
  | .connectSended => .connecting
  | .disconnected => .disconnected

-- what leaves a client that is up as it is
def Signal.holds (status : ClientStatus) : Signal → Bool
  | .connect read => status ≠ .active || !read
  | .disconnect sleeps => status = .active && sleeps
  | .pingreq => true
  | .pingresp => true
  | .connack accepted => accepted
  | .connectSended => false
  | .disconnected => false

theorem ClientStatus.next_isUp (status : ClientStatus) (signal : Signal) :
    (status.next signal).isUp =
      (status.isUp && signal.holds status || decide (signal = .connack true)) := by
  cases signal with
  | connect read => cases status <;> cases read <;> rfl
  | disconnect sleeps => cases status <;> cases sleeps <;> rfl
  | pingreq => cases status <;> rfl
  | pingresp => cases status <;> rfl
  | connack accepted => cases status <;> cases accepted <;> rfl
  | connectSended => cases status <;> rfl
  | disconnected => cases status <;> rfl

def MQTTSNPacket.signal : MQTTSNPacket → Option Signal
  | .connect data => some (.connect data.isSome)
  | .disconnect duration => some (.disconnect (duration ≠ 0))
  | .pingreq => some .pingreq
  | .pingresp => some .pingresp
  | _ => none

def Event.signal : Event → Option Signal
  | .clientRecv _ packet => packet.signal
  | .brokerRecv _ packet =>
      if packet.getType = CONNACK then some (.connack (accepts packet))
      else if packet.getType = PINGRESP then some .pingresp
      else none
  | .broadcast => none

def ClientStatus.after (status : ClientStatus) (signal : Option Signal) : ClientStatus :=
  signal.elim status status.next

section Turns

variable {gw : Gateway} {ids : MessageIds} {clients : Nat → Client} {client : Client}
  {handled : Handled}

theorem Client.updateStatus_signal (client : Client) {packet : MQTTSNPacket}
    (hconnect : ∀ data, packet ≠ .connect (some data)) :
    (client.updateStatus packet).status = client.status.after packet.signal := by
  obtain ⟨_, status, _, _, _, _, _, _, _, _, _, _, _⟩ := client
  cases packet with
  | connect data =>
    cases data with
    | some data => exact absurd rfl (hconnect data)
    | none => cases status <;> rfl
  | disconnect duration =>
    by_cases hduration : duration = 0
    · subst hduration
      cases status <;> rfl
    · have hsignal : (MQTTSNPacket.disconnect duration).signal = some (.disconnect true) :=
        congrArg (fun sleeps => some (Signal.disconnect sleeps)) (decide_eq_true hduration)
      rw [hsignal]
      cases status with
      | active => exact congrArg Client.status (if_pos hduration)
      | _ => rfl
  | _ => cases status <;> rfl

theorem ClientTurn.status {packet : MQTTSNPacket} (h : ClientTurn gw client packet handled)
    (hadapter : client.isAdapter = false) :
    (handled.client.updateStatus packet).status = client.status.after packet.signal := by
  cases h with
  | connect data =>
    cases hawake : client.isSleep || client.isAwake with
    | true =>
      have hanswer : (MQTTSNConnectionHandler.handleConnect gw client (some data)).client.status =
          client.status := by
        simp [MQTTSNConnectionHandler.handleConnect, hawake, sendStoredPublish, Handled.unchanged]
      simp only [Bool.or_eq_true, Client.isSleep, Client.isAwake, decide_eq_true_eq] at hawake
      unfold Client.updateStatus Client.updateActive Client.updateSleeping
      rw [hanswer]
      rcases hawake with hstatus | hstatus
      · rw [hstatus]
        rfl
      · rw [hstatus]
        rfl
    | false =>
      have hanswer : (MQTTSNConnectionHandler.handleConnect gw client (some data)).client.status =
          .disconnected := by
        simp only [MQTTSNConnectionHandler.handleConnect, hawake, Bool.false_eq_true, if_false,
          MQTTSNConnectionHandler.prepareConnect, hadapter, MQTTSNConnectionHandler.cleanSession]
        split_ifs <;> rfl
      simp only [Bool.or_eq_false_iff, Client.isSleep, Client.isAwake, decide_eq_false_iff_not]
        at hawake
      have hstatus : (Client.updateStatus
          (MQTTSNConnectionHandler.handleConnect gw client (some data)).client
          (.connect (some data))).status = .disconnected := by
        rw [Client.updateStatus, hanswer]
        exact hanswer
      rw [hstatus]
      cases hbefore : client.status with
      | asleep => exact absurd hbefore hawake.1
      | awake => exact absurd hbefore hawake.2
      | _ => rfl
  | willtopic data =>
    refine (Client.updateStatus_signal _ ?_).trans rfl
    intro other heq
    cases heq
  | willmsg willmsg =>
    have hlogin : (MQTTSNConnectionHandler.handleWillmsg gw client (some willmsg)).client.status =
        client.status := by
      unfold MQTTSNConnectionHandler.handleWillmsg
      split_ifs <;> rfl
    refine (Client.updateStatus_signal _ ?_).trans (by rw [hlogin])
    intro other heq
    cases heq
  | publish packet relayed =>
    refine (Client.updateStatus_signal _ ?_).trans (by rw [relayed.login.status])
    intro other heq
    cases heq
  | settled hopens settled =>
    have hconnect : ∀ data, packet ≠ .connect (some data) := by
      intro data heq
      rw [heq] at hopens
      cases hopens
    rw [Client.updateStatus_signal _ hconnect, settled.login.status]

theorem BrokerTurn.status {packet : MQTTGWPacket} (h : BrokerTurn client packet handled) (c : Nat) :
    handled.client.status = client.status.after (Event.brokerRecv c packet).signal := by
  cases h with
  | connack htype =>
    have hsignal : (Event.brokerRecv c packet).signal = some (.connack (accepts packet)) :=
      if_pos htype
    rw [hsignal]
    simp only [MQTTGWConnectionHandler.handleConnack, Handled.toClient, Client.connackSended,
      Client.disconnected, ClientStatus.after, Option.elim_some, ClientStatus.next, accepts, htype,
      decide_true, Bool.true_and, decide_eq_true_eq]
    split_ifs <;> rfl
  | pingresp htype =>
    have hsignal : (Event.brokerRecv c packet).signal = some .pingresp := by
      simp [Event.signal, htype]
    rw [hsignal]
    refine (Client.updateStatus_signal client ?_).trans rfl
    intro other heq
    cases heq
  | settled hconnack hpingresp settled =>
    rw [settled.login.status, Event.signal, if_neg hconnack, if_neg hpingresp]
    rfl

theorem handleEvent_status {ev : Event} {c : Nat} (hoff : gw.aggregaterActive = false)
    (hplain : ∀ d, (clients d).isAggregater = false) (hadapter : (clients c).isAdapter = false)
    (h : handleEvent gw ids clients ev = .done c handled) :
    handled.client.status = (clients c).status.after ev.signal := by
  cases handleEvent_dispatched h with
  | @client _ packet answer hpacket =>
    rw [clientPacket, if_neg (by simp [isAggregatedClient, hoff])] at hpacket
    exact (transparentClientPacket_turn hpacket).status hadapter
  | transparent _ hpacket => exact (transparentBrokerPacket_turn hpacket).status c
  | @aggregate d _ haggregater => simp [hplain d] at haggregater

end Turns

def signalOf (c : Nat) (s : State) : Act → Option Signal
  | .post _ => none
  | .handle _ =>
      match s.packetEventQue.items with
      | [] => none
      | ev :: _ => if ev.concerns c then ev.signal else none
  | .connectSended d => if d = c then some .connectSended else none
  | .disconnected d => if d = c then some .disconnected else none

def heeded (c : Nat) (s : State) (act : Act) : Option Signal :=
  if s.fault then none else signalOf c s act

def StatusHolds (c : Nat) (s : State) (act : Act) : Prop :=
  ∀ signal ∈ heeded c s act, signal.holds (s.clients c).status = true

structure Unaggregated (gw : Gateway) (c : Nat) (s : State) : Prop where
  off : gw.aggregaterActive = false
  plain : ∀ d, (s.clients d).isAggregater = false
  regular : (s.clients c).isAdapter = false

theorem transparentClientPacket_fault {gw : Gateway} {client : Client} {packet : MQTTSNPacket}
    (h : transparentClientPacket gw client packet = none) : packet.signal = none := by
  cases packet with
  | connect data => cases h
  | disconnect duration => cases h
  | pingreq => cases h
  | pingresp => cases h
  | _ => rfl

theorem handleEvent_fault {gw : Gateway} {ids : MessageIds} {clients : Nat → Client} {ev : Event}
    (hoff : gw.aggregaterActive = false) (h : handleEvent gw ids clients ev = .fault) :
    ev.signal = none := by
  cases ev with
  | broadcast => cases h
  | clientRecv c packet =>
    cases hpacket : transparentClientPacket gw (clients c) packet with
    | none => exact transparentClientPacket_fault hpacket
    | some answer =>
      have hanswer : clientPacket gw ids (clients c) packet = some answer := by
        rw [clientPacket, if_neg (by simp [isAggregatedClient, hoff]), hpacket]
      rw [handleEvent_clientRecv hanswer] at h
      cases h
  | brokerRecv c packet =>
    simp only [handleEvent] at h
    split at h
    · cases h
    by_cases hconnack : packet.getType = CONNACK
    · simp [transparentBrokerPacket, hconnack, Result.ofOption] at h
    by_cases hpingresp : packet.getType = PINGRESP
    · simp [transparentBrokerPacket, hpingresp, Result.ofOption] at h
    rw [Event.signal, if_neg hconnack, if_neg hpingresp]

namespace Unaggregated

variable {gw : Gateway} {c : Nat} {s : State}

theorem step (h : Unaggregated gw c s) (act : Act) : Unaggregated gw c (step gw s act) where
  off := h.off
  plain d := (isAggregater_of_identity (step_identity gw s act d)).trans (h.plain d)
  regular := by
    have htype := congrArg Prod.fst (step_identity gw s act c)
    have hregular := h.regular
    simp only [Client.identity] at htype
    simpa only [Client.isAdapter, htype] using hregular

theorem handle_status (h : Unaggregated gw c s) {ids : MessageIds} {ev : Event}
    (hitems : s.packetEventQue.items.head? = some ev) :
    ((finish s (handleEvent gw ids s.clients ev)).clients c).status =
      (s.clients c).status.after (if ev.concerns c then ev.signal else none) := by
  cases hresult : handleEvent gw ids s.clients ev with
  | nothing =>
    obtain rfl := handleEvent_nothing hresult
    rfl
  | fault =>
    rw [handleEvent_fault h.off hresult, ite_self]
    rfl
  | done target handled =>
    rw [handleEvent_target h.plain hresult c]
    simp only [finish, decide_eq_true_eq]
    split
    · rename_i htarget
      subst htarget
      rw [apply_client]
      exact handleEvent_status h.off h.plain h.regular hresult
    · rename_i htarget
      rw [apply_other htarget]
      rfl

theorem status (h : Unaggregated gw c s) (act : Act) :
    ((PacketHandleTask.step gw s act).clients c).status =
      (s.clients c).status.after (heeded c s act) := by
  cases hfault : s.fault with
  | true => simp [heeded, step_fault hfault, hfault, ClientStatus.after]
  | false =>
    simp only [heeded, hfault, Bool.false_eq_true, if_false]
    cases act with
    | post ev => simp [PacketHandleTask.step, hfault, signalOf, ClientStatus.after]
    | handle ids =>
      cases hitems : s.packetEventQue.items with
      | nil => simp [step_empty hfault hitems, signalOf, hitems, ClientStatus.after]
      | cons ev rest =>
        rw [step_handle hfault hitems, h.handle_status (by rw [hitems]; rfl)]
        simp only [signalOf, hitems]
    | connectSended d =>
      by_cases hd : d = c
      · simp [PacketHandleTask.step, hfault, signalOf, hd, ClientStatus.after,
          Client.connectSended, ClientStatus.next]
      · simp [PacketHandleTask.step, hfault, signalOf, hd, ClientStatus.after,
          Function.update_of_ne (Ne.symm hd)]
    | disconnected d =>
      by_cases hd : d = c
      · simp [PacketHandleTask.step, hfault, signalOf, hd, ClientStatus.after,
          Client.disconnected, ClientStatus.next]
      · simp [PacketHandleTask.step, hfault, signalOf, hd, ClientStatus.after,
          Function.update_of_ne (Ne.symm hd)]

end Unaggregated

def accepted (c : Nat) (s : State) (act : Act) : Prop := heeded c s act = some (.connack true)

theorem up_latch (gw : Gateway) (c : Nat) : Latch (step gw) (Unaggregated gw c)
    (fun s => (s.clients c).status.isUp = true) (accepted c) (StatusHolds c) where
  stays _ act h := h.step act
  intro s act h := by
    rw [h.status act, accepted, StatusHolds]
    cases heeded c s act with
    | none => simp [ClientStatus.after]
    | some signal => simp [ClientStatus.after, ClientStatus.next_isUp]

theorem up_iff_accepted {gw : Gateway} {clients : Nat → Client} {c : Nat}
    (hunaggregated : Unaggregated gw c (initial clients))
    (hdown : (clients c).status.isUp = false) (acts : List Act) :
    ((run gw (initial clients) acts).clients c).status.isUp = true ↔
      ∃ pre act post, acts = pre ++ act :: post ∧
        accepted c (run gw (initial clients) pre) act ∧
        Steps (step gw) (StatusHolds c) (step gw (run gw (initial clients) pre) act) post :=
  (up_latch gw c).iff_set hunaggregated (by simp [initial, hdown]) acts

theorem up_iff_accepted_asleep :
    ((run bareGateway (initial freshClients) fallAsleep).clients 0).status.isUp = true ∧
    (((run bareGateway (initial freshClients) fallAsleep).clients 0).status.isUp = true ↔
      ∃ pre act post, fallAsleep = pre ++ act :: post ∧
        accepted 0 (run bareGateway (initial freshClients) pre) act ∧
        Steps (step bareGateway) (StatusHolds 0)
          (step bareGateway (run bareGateway (initial freshClients) pre) act) post) :=
  ⟨by decide +kernel, up_iff_accepted ⟨rfl, fun _ => rfl, rfl⟩ rfl fallAsleep⟩

end MbedMqtt.MQTTSNGW
