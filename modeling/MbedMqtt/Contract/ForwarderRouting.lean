import MbedMqtt.Contract.SleepQueue
import MbedMqtt.Gateway.ClientRecvTask
import MbedMqtt.Library.Steps

namespace MbedMqtt.MQTTSNGW

namespace ClientRecvTask

def Routed (gw : Gateway) (s : State) (sender : SensorNetAddress) (nodeId : WirelessNodeId)
    (inner : SNMessage) (c : Nat) : Prop :=
  (step gw s (.receive sender (.encapsulated nodeId inner))).posted =
    s.posted ++ [.clientRecv c inner.toPacket]

def Routable (s : State) (sender : SensorNetAddress) (inner : SNMessage) (c : Nat) : Prop :=
  match s.clientList.getClient sender with
  | some client => client = c
  | none =>
      match inner with
      | .connect clientID _ => s.clientList.getClientById clientID = some c
      | _ => False

def Forwards (P : State → SensorNetAddress → WirelessNodeId → SNMessage → Nat → Prop) (s : State) :
    Act → Prop
  | .receive sender (.encapsulated nodeId inner) => s.fault = false →
      ∀ f ∈ getForwarder s sender, ∀ c ∈ s.registry f nodeId, P s sender nodeId inner c
  | _ => True

def Known (s : State) : Prop :=
  ∀ f id, ∀ c ∈ s.registry f id, c < s.clientList.nextClient

section Lookup

variable {gw : Gateway} {s : State}

theorem getClientById_fresh {list : ClientList} {clientId : Bytes} {c : Nat}
    (h : list.getClientById clientId = some c) : c < list.nextClient := by
  obtain ⟨listed, hfound, rfl⟩ := Option.map_eq_some_iff.mp h
  exact list.fresh listed (List.mem_of_find?_eq_some hfound)

theorem createClient_anonymous (list : ClientList) (clientId : Bytes) (type : Nat) :
    list.createClient none clientId type =
      if list.clients.length > MAX_CLIENTS then (list, none)
      else (list.newClient none clientId type, some list.nextClient) := rfl

end Lookup

namespace Known

variable {gw : Gateway} {s : State}

theorem addClient (h : Known s) {f c : Nat} {id : WirelessNodeId}
    (hc : c < s.clientList.nextClient) : Known (ClientRecvTask.addClient s f c id) := by
  have hslots : ∀ other, ∀ a ∈ Function.update (s.registry f) id (some c) other,
      a < s.clientList.nextClient := by
    refine (Function.forall_update_iff (s.registry f) fun _ entry =>
      ∀ a ∈ entry, a < s.clientList.nextClient).mpr ⟨?_, fun other _ => h f other⟩
    rintro _ ⟨⟩
    exact hc
  exact (Function.forall_update_iff s.registry fun _ slots =>
    ∀ other, ∀ a ∈ slots other, a < s.clientList.nextClient).mpr ⟨hslots, fun g _ => h g⟩

theorem post (h : Known s) (ev : Event) : Known (ClientRecvTask.post s ev) := h

theorem relist (h : Known s) {list : ClientList}
    (hnext : s.clientList.nextClient ≤ list.nextClient) : Known { s with clientList := list } :=
  fun f id c hc => Nat.lt_of_lt_of_le (h f id c hc) hnext

theorem connectForwarded (h : Known s) (gw : Gateway) (f : Nat) (nodeId : WirelessNodeId)
    (clientID : Bytes) (packet : MQTTSNPacket) :
    Known (ClientRecvTask.connectForwarded gw s f nodeId clientID packet) := by
  unfold ClientRecvTask.connectForwarded
  split
  · rename_i c hfound
    exact (h.addClient (getClientById_fresh hfound)).post _
  · rw [createClient_anonymous]
    split_ifs
    · exact h
    · have hlisted : Known { s with clientList := s.clientList.newClient none clientID (createType gw) } :=
        h.relist (Nat.le_succ _)
      exact (hlisted.addClient (Nat.lt_succ_self _)).post _

theorem connectDirect (h : Known s) (gw : Gateway) (sender : SensorNetAddress) (clientID : Bytes)
    (packet : MQTTSNPacket) : Known (ClientRecvTask.connectDirect gw s sender clientID packet) := by
  unfold ClientRecvTask.connectDirect
  split
  · rename_i c _
    exact (h.relist (Nat.le_refl _)).post (.clientRecv c packet)
  split
  · rename_i list c hcreate
    refine (h.relist ?_).post _
    unfold ClientList.createClient at hcreate
    split at hcreate
    · cases hcreate
    split at hcreate
    · obtain rfl := congrArg Prod.fst hcreate
      exact Nat.le_refl _
    · obtain rfl := congrArg Prod.fst hcreate
      exact Nat.le_succ _
  · exact h

theorem handover (h : Known s) (gw : Gateway) (sender : SensorNetAddress) (message : SNMessage) :
    Known (ClientRecvTask.handover gw s sender message) := by
  simp only [ClientRecvTask.handover]
  split
  · exact h.post _
  unfold ClientRecvTask.newClient
  split
  · split
    · exact h.connectForwarded gw _ _ _ _
    · exact h.connectDirect gw sender _ _
  · exact h

theorem receive (h : Known s) (gw : Gateway) (sender : SensorNetAddress) (message : SNMessage) :
    Known (ClientRecvTask.receive gw s sender message) := by
  unfold ClientRecvTask.receive
  split
  · exact h
  · exact h
  · exact h.post _
  · split
    · exact h
    · exact h.handover gw sender _

theorem erase (h : Known s) (c : Nat) (sessionStatus : Bool) :
    Known (ClientRecvTask.erase s c sessionStatus) := by
  unfold ClientRecvTask.erase
  split
  · intro f id a ha
    simp only at ha
    split at ha
    · cases ha
    · exact h f id a ha
  · exact h

theorem step (h : Known s) (gw : Gateway) (act : Act) : Known (ClientRecvTask.step gw s act) := by
  unfold ClientRecvTask.step
  split
  · exact h
  cases act with
  | receive sender message => exact h.receive gw sender message
  | erase c sessionStatus => exact h.erase c sessionStatus

end Known

theorem posted_iff (s : State) {c client : Nat} (packet : MQTTSNPacket) :
    (post s (.clientRecv client packet)).posted = s.posted ++ [.clientRecv c packet] ↔ client = c := by
  simp [post]

theorem unposted {posted : List Event} (ev : Event) : ¬posted = posted ++ [ev] := by
  simp

theorem connectForwarded_iff (gw : Gateway) {s : State} {c : Nat} (hc : c < s.clientList.nextClient)
    (f : Nat) (nodeId : WirelessNodeId) (clientID : Bytes) (packet : MQTTSNPacket) :
    (connectForwarded gw s f nodeId clientID packet).posted = s.posted ++ [.clientRecv c packet] ↔
      s.clientList.getClientById clientID = some c := by
  unfold connectForwarded
  cases hfound : s.clientList.getClientById clientID with
  | some client => exact (posted_iff (addClient s f client nodeId) packet).trans Option.some_inj.symm
  | none =>
    rw [createClient_anonymous]
    refine iff_of_false ?_ nofun
    split_ifs
    · exact unposted _
    · intro hposted
      exact absurd ((posted_iff (addClient _ f s.clientList.nextClient nodeId) packet).mp hposted)
        (Nat.ne_of_gt hc)

theorem routed_iff (gw : Gateway) {s : State} {sender : SensorNetAddress} {f c : Nat}
    {nodeId : WirelessNodeId} {inner : SNMessage} (hknown : Known s) (hrunning : s.fault = false)
    (hforwarder : getForwarder s sender = some f) (hregistered : s.registry f nodeId = some c) :
    Routed gw s sender nodeId inner c ↔ Routable s sender inner c := by
  have hreceive : step gw s (.receive sender (.encapsulated nodeId inner)) =
      handover gw s sender (.encapsulated nodeId inner) := by
    simp [step, hrunning, receive, rejected, SNMessage.isEncapsulated]
  simp only [Routed, Routable, hreceive, handover, unwrap, hforwarder]
  cases s.clientList.getClient sender with
  | some client => exact posted_iff s _
  | none =>
    cases inner with
    | connect clientID data => exact connectForwarded_iff gw (hknown f nodeId c hregistered) _ _ _ _
    | _ => exact iff_of_false (unposted _) id

theorem forwarder_routing_iff (gw : Gateway) (clientList : ClientList)
    (addresses : List SensorNetAddress) (acts : List Act) :
    Steps (step gw) (Forwards (Routed gw)) (initial clientList addresses) acts ↔
    Steps (step gw) (Forwards fun s sender _ inner c => Routable s sender inner c)
      (initial clientList addresses) acts := by
  refine Steps.congr_under (J := Known) (fun hknown => hknown.step gw _) ?_
    fun _ _ c hc => absurd hc (Option.not_mem_none c)
  intro s act hknown
  cases act with
  | erase c sessionStatus => exact Iff.rfl
  | receive sender message =>
    cases message with
    | encapsulated nodeId inner =>
      exact forall_congr' fun hrunning => forall_congr' fun f => forall_congr' fun hforwarder =>
        forall_congr' fun c => forall_congr' fun hregistered =>
          routed_iff gw hknown hrunning hforwarder hregistered
    | _ => exact Iff.rfl

def forwarderAddress : SensorNetAddress := ⟨10000, 0x7F000001⟩

def registering : Act :=
  .receive forwarderAddress (.encapsulated [1] (.connect [0x63] ⟨true, false, 60⟩))

def encapsulatedPing : Act := .receive forwarderAddress (.encapsulated [1] (.other .pingreq))

def oneForwarder : State := initial ⟨[], 0, false, nofun⟩ [forwarderAddress]

def registeredNode : State := step bareGateway oneForwarder registering

theorem forwarder_routing_lost :
    registeredNode.registry 0 [1] = some 0 ∧
    (registeredNode.forwarders[0]?).bind (·.getClient [1]) = some 0 ∧
    (step bareGateway registeredNode encapsulatedPing).posted = registeredNode.posted ∧
    ¬Steps (step bareGateway) (Forwards (Routed bareGateway)) oneForwarder
      [registering, encapsulatedPing] := by
  have hposted : (step bareGateway registeredNode encapsulatedPing).posted = registeredNode.posted := by
    decide +kernel
  have hregistered : registeredNode.registry 0 [1] = some 0 := by decide +kernel
  refine ⟨hregistered, by decide +kernel, hposted, ?_⟩
  intro hrouted
  have hping : Routed bareGateway registeredNode forwarderAddress [1] (.other .pingreq) 0 :=
    hrouted.2.1 (by decide +kernel) 0 (by decide +kernel) 0 hregistered
  exact unposted _ (hposted.symm.trans hping)

end ClientRecvTask

end MbedMqtt.MQTTSNGW
