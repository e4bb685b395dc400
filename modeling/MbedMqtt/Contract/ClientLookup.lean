import Mathlib.Data.List.Nodup
import MbedMqtt.Contract.SleepQueue
import MbedMqtt.Gateway.ClientRecvTask
import MbedMqtt.SNPacket.Wire

namespace MbedMqtt.MQTTSNGW

-- a client id as a C string or by its length
structure IdString where
  string : MQTTString
  single : string.Single
  terminated : ∀ text ∈ string.cstring, 0 ∉ text

def IdString.id (given : IdString) : Bytes := given.string.text

def ClientList.findClient (list : ClientList) (clientId : MQTTString) : Option ListedClient :=
  let clID := match clientId.cstring with
    | some text => text
    | none => clientId.data.getD []
  list.clients.find? fun listed =>
    strncmpEqual (MQTTSN.mqttsnstrlen clientId) listed.clientId clID

structure FindsExactly (list : ClientList) (given : IdString) : Prop where
  exact : ∀ listed, list.findClient given.string = some listed → listed.clientId = given.id
  found : list.findClient given.string ≠ none ↔ ∃ listed ∈ list.clients, listed.clientId = given.id

-- the ids that `strncmp` does not tell from `given`: up to a NUL or up to the length of `given`
def Extends (given stored : Bytes) : Prop :=
  given <+: stored ∨ 0 ∈ given ∧ cStr stored = cStr given

-- a client with another id that extends `id` stands behind one with `id`
def Unshadowed (list : ClientList) (id : Bytes) : Prop :=
  ∀ pre listed post, list.clients = pre ++ listed :: post → Extends id listed.clientId →
    listed.clientId ≠ id → ∃ exact ∈ pre, exact.clientId = id

-- with a node id the CONNECT comes encapsulated from a forwarder
structure NewConnect where
  state : ClientRecvTask.State
  sender : SensorNetAddress
  nodeId : Option WirelessNodeId
  data : SNConnect
  distinct : (state.clientList.clients.map (·.client)).Nodup
  unknown : state.clientList.getClient sender = none
  forwarded : nodeId ≠ none → ClientRecvTask.getForwarder state sender ≠ none

namespace NewConnect

def message (connect : NewConnect) (id : Bytes) : SNMessage :=
  match connect.nodeId with
  | none => .connect id connect.data
  | some nodeId => .encapsulated nodeId (.connect id connect.data)

def received (connect : NewConnect) (gw : Gateway) (id : Bytes) : ClientRecvTask.State :=
  ClientRecvTask.receive gw connect.state connect.sender (connect.message id)

def posts (connect : NewConnect) (gw : Gateway) (id : Bytes) : List Event :=
  (connect.received gw id).posted.drop connect.state.posted.length

end NewConnect

-- a client with another id stays as it was, and the CONNECT does not become an event of it
def KeepsSessions (gw : Gateway) (connect : NewConnect) (id : Bytes) : Prop :=
  ∀ listed ∈ connect.state.clientList.clients, listed.clientId ≠ id →
    listed ∈ (connect.received gw id).clientList.clients ∧
      ∀ packet, .clientRecv listed.client packet ∉ connect.posts gw id

section Strncmp

theorem cStr_cons (byte : UInt8) (text : Bytes) :
    cStr (byte :: text) = if byte = 0 then [] else byte :: cStr text := by
  rw [cStr, List.takeWhile_cons]
  split_ifs with h <;> simp_all [cStr]

theorem strncmpEqual_iff (stored given : Bytes) :
    strncmpEqual given.length stored given = true ↔ Extends given stored := by
  induction given generalizing stored with
  | nil => exact iff_of_true rfl (.inl List.nil_prefix)
  | cons byte given ih =>
    rw [List.length_cons, strncmpEqual, Bool.and_eq_true, Bool.or_eq_true, decide_eq_true_eq,
      decide_eq_true_eq, List.headD_cons, List.tail_cons, ih]
    cases stored with
    | nil =>
      simp only [Extends, cStr_cons]
      split_ifs with hzero
      · simp [hzero, cStr]
      · simp [cStr, Ne.symm hzero]
    | cons first stored =>
      rw [Extends, Extends, List.cons_prefix_cons, cStr_cons, cStr_cons]
      rcases eq_or_ne first byte with hsame | hother
      · subst hsame
        split_ifs with hzero
        · simp [hzero]
        · simp [hzero, Ne.symm hzero]
      · refine iff_of_false (fun h => hother h.1) ?_
        rintro (⟨hsame, -⟩ | ⟨-, htext⟩)
        · exact hother hsame.symm
        · split_ifs at htext with hfirst hbyte
          · exact hother (hfirst.trans hbyte.symm)
          · exact hother (List.cons.inj htext).1

theorem strncmpEqual_take (n : Nat) (stored text : Bytes) :
    strncmpEqual n stored (text.take n) = strncmpEqual n stored text := by
  induction n generalizing stored text with
  | zero => rfl
  | succ n ih =>
    cases text with
    | nil => rfl
    | cons byte text =>
      rw [List.take_succ_cons, strncmpEqual, strncmpEqual, List.headD_cons, List.headD_cons,
        List.tail_cons, List.tail_cons, ih]

end Strncmp

section Lookup

variable {list : ClientList} {given : IdString}

def takenFor (id : Bytes) (listed : ListedClient) : Bool :=
  strncmpEqual id.length listed.clientId id

theorem takenFor_iff (id : Bytes) (listed : ListedClient) :
    takenFor id listed = true ↔ Extends id listed.clientId := strncmpEqual_iff _ _

theorem takenFor_self {id : Bytes} {listed : ListedClient} (h : listed.clientId = id) :
    takenFor id listed = true := by
  rw [takenFor_iff, h]
  exact .inl List.prefix_rfl

theorem findClient_text (list : ClientList) (given : IdString) :
    list.findClient given.string = list.clients.find? (takenFor given.id) := by
  obtain ⟨⟨cstring, len, data⟩, ⟨-, hheld⟩, -⟩ := given
  cases cstring with
  | some text => rfl
  | none =>
    have hlen : ((data.getD []).take len).length = len := List.length_take_of_le (hheld rfl)
    refine congrArg (list.clients.find? ·) (funext fun listed => ?_)
    simp only [MQTTSN.mqttsnstrlen, takenFor, IdString.id, MQTTString.text]
    rw [hlen, strncmpEqual_take]

theorem getClientById_findClient (list : ClientList) (given : IdString) :
    list.getClientById given.id = (list.findClient given.string).map (·.client) := by
  rw [findClient_text]
  rfl

theorem unshadowed_iff (list : ClientList) (id : Bytes) :
    Unshadowed list id ↔
      ∀ listed, list.clients.find? (takenFor id) = some listed → listed.clientId = id := by
  constructor
  · intro h listed hfound
    obtain ⟨htaken, pre, post, hlist, hpre⟩ := List.find?_eq_some_iff_append.mp hfound
    by_contra hother
    obtain ⟨first, hfirst, hid⟩ := h pre listed post hlist ((takenFor_iff id listed).mp htaken) hother
    have hnot := hpre first hfirst
    rw [takenFor_self hid] at hnot
    exact absurd hnot (by decide)
  · intro h pre listed post hlist hextends hother
    rw [hlist, List.find?_append] at h
    cases hpre : pre.find? (takenFor id) with
    | some first =>
      rw [hpre, Option.some_or] at h
      exact ⟨first, List.mem_of_find?_eq_some hpre, h first rfl⟩
    | none =>
      rw [hpre, Option.none_or,
        List.find?_cons_of_pos ((takenFor_iff id listed).mpr hextends)] at h
      exact absurd (h listed rfl) hother

theorem findsExactly_iff (list : ClientList) (given : IdString) :
    FindsExactly list given ↔ Unshadowed list given.id := by
  rw [unshadowed_iff, ← findClient_text]
  constructor
  · intro h
    exact h.exact
  · intro hexact
    refine ⟨hexact, ?_⟩
    constructor
    · intro hfound
      obtain ⟨listed, hlisted⟩ := Option.ne_none_iff_exists'.mp hfound
      have hmem := hlisted
      rw [findClient_text] at hmem
      exact ⟨listed, List.mem_of_find?_eq_some hmem, hexact listed hlisted⟩
    · rintro ⟨listed, hmem, hid⟩
      rw [findClient_text, ← Option.isSome_iff_ne_none, List.find?_isSome]
      exact ⟨listed, hmem, takenFor_self hid⟩

end Lookup

section Connect

variable {gw : Gateway} {connect : NewConnect} {given : IdString}

theorem received_direct (hnode : connect.nodeId = none) (gw : Gateway) (id : Bytes) :
    connect.received gw id =
      ClientRecvTask.connectDirect gw connect.state connect.sender id
        (.connect (some connect.data)) := by
  have hunknown := connect.unknown
  have hnone : connect.state.clientList.clients.find?
      (·.sensorNetAddr.isMatch connect.sender) = none := Option.map_eq_none_iff.mp hunknown
  have hrejected : ClientRecvTask.rejected gw connect.state connect.sender
      (.connect id connect.data) = false := by
    simp [ClientRecvTask.rejected, ClientList.isQoSm1At, hnone]
  simp only [NewConnect.received, NewConnect.message, hnode, ClientRecvTask.receive, hrejected,
    Bool.false_eq_true, if_false, ClientRecvTask.handover, ClientRecvTask.unwrap, hunknown,
    ClientRecvTask.newClient]

theorem received_forwarded {nodeId : WirelessNodeId} (hnode : connect.nodeId = some nodeId)
    (gw : Gateway) (id : Bytes) : ∃ f, connect.received gw id =
      ClientRecvTask.connectForwarded gw connect.state f nodeId id (.connect (some connect.data)) := by
  have hunknown := connect.unknown
  obtain ⟨f, hforwarder⟩ := Option.ne_none_iff_exists'.mp
    (connect.forwarded (by rw [hnode]; exact Option.some_ne_none nodeId))
  refine ⟨f, ?_⟩
  have hrejected : ClientRecvTask.rejected gw connect.state connect.sender
      (.encapsulated nodeId (.connect id connect.data)) = false := rfl
  simp only [NewConnect.received, NewConnect.message, hnode, ClientRecvTask.receive, hrejected,
    Bool.false_eq_true, if_false, ClientRecvTask.handover, ClientRecvTask.unwrap, hforwarder, hunknown,
    ClientRecvTask.newClient]

-- the client that is found is the only one changed, and the CONNECT becomes its event
structure NewConnect.Hands (connect : NewConnect) (found : ListedClient) (after : ClientRecvTask.State) : Prop where
  clients : ∃ change : ListedClient → ListedClient, after.clientList.clients =
    connect.state.clientList.clients.map fun listed =>
      if listed.client = found.client then change listed else listed
  posted : after.posted =
    connect.state.posted ++ [.clientRecv found.client (.connect (some connect.data))]

theorem received_found (gw : Gateway) {found : ListedClient}
    (h : connect.state.clientList.findClient given.string = some found) :
    connect.Hands found (connect.received gw given.id) := by
  have hsome : connect.state.clientList.getClientById given.id = some found.client := by
    rw [getClientById_findClient, h, Option.map_some]
  cases hnode : connect.nodeId with
  | none =>
    rw [received_direct hnode]
    simp only [ClientRecvTask.connectDirect, hsome]
    exact ⟨⟨_, rfl⟩, rfl⟩
  | some nodeId =>
    obtain ⟨f, hreceived⟩ := received_forwarded hnode gw given.id
    rw [hreceived]
    simp only [ClientRecvTask.connectForwarded, hsome]
    exact ⟨⟨_, rfl⟩, rfl⟩

-- no client is found: every listed one stays, and the CONNECT becomes the event of a new one at most
structure NewConnect.Enrols (connect : NewConnect) (after : ClientRecvTask.State) : Prop where
  clients : ∀ listed ∈ connect.state.clientList.clients, listed ∈ after.clientList.clients
  posted : after.posted = connect.state.posted ∨ after.posted = connect.state.posted ++
    [.clientRecv connect.state.clientList.nextClient (.connect (some connect.data))]

theorem received_new (gw : Gateway)
    (h : connect.state.clientList.findClient given.string = none) :
    connect.Enrols (connect.received gw given.id) := by
  have hunknown := connect.unknown
  have hnone : connect.state.clientList.getClientById given.id = none := by
    rw [getClientById_findClient, h, Option.map_none]
  cases hnode : connect.nodeId with
  | none =>
    rw [received_direct hnode]
    simp only [ClientRecvTask.connectDirect, hnone, ClientList.createClient, Option.bind_some, hunknown]
    split_ifs
    · exact ⟨fun listed hmem => hmem, .inl rfl⟩
    · exact ⟨fun listed hmem => List.mem_append_left _ hmem, .inr rfl⟩
  | some nodeId =>
    obtain ⟨f, hreceived⟩ := received_forwarded hnode gw given.id
    rw [hreceived]
    simp only [ClientRecvTask.connectForwarded, hnone, ClientList.createClient, Option.bind_none]
    split_ifs
    · exact ⟨fun listed hmem => hmem, .inl rfl⟩
    · refine ⟨fun listed hmem => ?_, .inr rfl⟩
      have hclient := Nat.ne_of_lt (connect.state.clientList.fresh listed hmem)
      exact List.mem_map.mpr ⟨listed, List.mem_append_left _ hmem, if_neg hclient⟩

theorem keepsSessions_new
    (h : connect.state.clientList.findClient given.string = none) :
    KeepsSessions gw connect given.id := by
  obtain ⟨hclients, hposted⟩ := received_new gw h
  intro listed hmem hother
  refine ⟨hclients listed hmem, fun packet hpost => ?_⟩
  rw [NewConnect.posts] at hpost
  rcases hposted with hposted | hposted
  · rw [hposted, List.drop_length] at hpost
    cases hpost
  · rw [hposted, List.drop_left, List.mem_singleton] at hpost
    have hfresh := connect.state.clientList.fresh listed hmem
    injection hpost with hclient
    exact absurd hclient (Nat.ne_of_lt hfresh)

theorem keepsSessions_found {found : ListedClient}
    (h : connect.state.clientList.findClient given.string = some found) :
    KeepsSessions gw connect given.id ↔ found.clientId = given.id := by
  have hfound : found ∈ connect.state.clientList.clients := by
    rw [findClient_text] at h
    exact List.mem_of_find?_eq_some h
  obtain ⟨⟨change, hclients⟩, hposted⟩ := received_found gw h
  have hposts : connect.posts gw given.id = [.clientRecv found.client (.connect (some connect.data))] := by
    rw [NewConnect.posts, hposted, List.drop_left]
  constructor
  · intro hkeeps
    by_contra hother
    exact (hkeeps found hfound hother).2 _ (hposts ▸ List.mem_singleton_self _)
  · intro hid listed hmem hother
    have hclient : listed.client ≠ found.client := by
      intro hsame
      have hequal := List.inj_on_of_nodup_map connect.distinct hmem hfound hsame
      rw [hequal] at hother
      exact hother hid
    refine ⟨?_, fun packet hpost => ?_⟩
    · rw [hclients]
      exact List.mem_map.mpr ⟨listed, hmem, if_neg hclient⟩
    · rw [hposts, List.mem_singleton] at hpost
      injection hpost with hsame
      exact hclient hsame

theorem keepsSessions_iff (gw : Gateway) (connect : NewConnect) (given : IdString) :
    KeepsSessions gw connect given.id ↔ Unshadowed connect.state.clientList given.id := by
  rw [unshadowed_iff, ← findClient_text]
  cases hfound : connect.state.clientList.findClient given.string with
  | none => exact iff_of_true (keepsSessions_new hfound) fun listed h => by cases h
  | some found =>
    rw [keepsSessions_found hfound]
    constructor
    · rintro hid listed h
      rwa [← Option.some.inj h]
    · intro h
      exact h found rfl

end Connect

theorem client_lookup_exact_iff (given : IdString) :
    (∀ list : ClientList, FindsExactly list given ↔ Unshadowed list given.id) ∧
    ∀ (gw : Gateway) (connect : NewConnect),
      KeepsSessions gw connect given.id ↔ Unshadowed connect.state.clientList given.id :=
  ⟨fun list => findsExactly_iff list given, fun gw connect => keepsSessions_iff gw connect given⟩

def gateway12 : ListedClient := ⟨0, [0x67, 0x77, 0x31, 0x32], ⟨1883, 0x0a000001⟩, false, false, false⟩

def gateway1 : IdString where
  string := .ofLenString [0x67, 0x77, 0x31]
  single := ⟨by decide, by decide⟩
  terminated := by decide

def connectGateway1 : NewConnect where
  state := ClientRecvTask.initial ⟨[gateway12], 1, false, by decide⟩ []
  sender := ⟨1884, 0x0a000002⟩
  nodeId := none
  data := ⟨false, false, 0⟩
  distinct := by decide
  unknown := by decide
  forwarded := by decide

theorem client_lookup_takes_prefix :
    connectGateway1.state.clientList.findClient gateway1.string = some gateway12 ∧
    gateway12.clientId ≠ gateway1.id ∧
    (connectGateway1.received bareGateway gateway1.id).clientList.clients =
      [{ gateway12 with sensorNetAddr := ⟨1884, 0x0a000002⟩ }] ∧
    ¬FindsExactly connectGateway1.state.clientList gateway1 ∧
    ¬KeepsSessions bareGateway connectGateway1 gateway1.id := by
  have hfind : connectGateway1.state.clientList.findClient gateway1.string = some gateway12 := by
    decide
  have hother : gateway12.clientId ≠ gateway1.id := by decide
  refine ⟨hfind, hother, by rfl, fun h => ?_, fun h => ?_⟩
  · exact hother (h.exact gateway12 hfind)
  · exact absurd (h gateway12 (by decide) hother).1 (by decide)

end MbedMqtt.MQTTSNGW
