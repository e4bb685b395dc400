import MbedMqtt.Contract.LinkStatus

namespace MbedMqtt.MQTTSNGW

open PacketHandleTask

-- what a client has said of its connection: the last CONNECT, the last WILLTOPIC since
structure Handshake where
  connect : Option SNConnect
  will : Option SNWilltopic
  deriving DecidableEq, Repr

def Handshake.hear (client : Client) (heard : Handshake) : Event → Handshake
  | .clientRecv _ (.connect (some data)) =>
      if client.isSleep || client.isAwake then heard else ⟨some data, none⟩
  | .clientRecv _ (.willtopic (some data)) => { heard with will := some data }
  | _ => heard

def asked (gw : Gateway) (clientId : Bytes) : Option SNConnect → Connect
  | none => .zero
  | some data =>
      { Connect.zero with
        clientID := clientId
        version := gw.mqttVersion
        keepAliveTimer := data.duration.toNat
        will := data.willFlag
        password := gw.loginId.isSome && gw.password.isSome
        username := gw.loginId.isSome && gw.password.isSome
        cleanstart := data.cleansession }

def willed (connect : Connect) : Option SNWilltopic → Connect
  | none => connect
  | some will =>
      { connect with willTopic := cStr will.topic, willQoS := will.qos, willRetain := will.retain }

def composed (gw : Gateway) (clientId : Bytes) (heard : Handshake) (willMsg : Bytes) : Connect :=
  { willed (asked gw clientId heard.connect) heard.will with willMsg := willMsg }

structure Dialling where
  heard : Handshake
  event : Event
  packet : MQTTGWPacket
  deriving DecidableEq, Repr

inductive Dials (gw : Gateway) (clientId : Bytes) : Dialling → Prop
  | plain (c : Nat) (data : SNConnect) (will : data.willFlag = false) :
      Dials gw clientId ⟨⟨some data, none⟩, .clientRecv c (.connect (some data)),
        .setCONNECT (composed gw clientId ⟨some data, none⟩ []) gw.loginId gw.password⟩
  | willed (c : Nat) (heard : Handshake) (willmsg : Bytes) (will : heard.will.isSome = true) :
      Dials gw clientId ⟨heard, .clientRecv c (.willmsg (some willmsg)),
        .setCONNECT (composed gw clientId heard (cStr willmsg)) gw.loginId gw.password⟩

structure Talk where
  heard : Handshake
  dialled : List Dialling

def connectsOf (sent : List MQTTGWPacket) : List MQTTGWPacket :=
  sent.filter (·.getType = CONNECT)

def talkOf (c : Nat) : Observer Talk where
  posted talk _ _ := talk
  handled talk _ s ev target handled :=
    if target = c then
      let heard := talk.heard.hear (s.clients c) ev
      ⟨heard, talk.dialled ++ (connectsOf handled.brokerSend).map (⟨heard, ev, ·⟩)⟩
    else talk

structure Follows (gw : Gateway) (client : Client) (heard : Handshake) : Prop where
  data : ∃ willMsg, client.connectData = composed gw client.clientId heard willMsg
  waiting : client.waitWillMsgFlg = true → heard.will.isSome = true

structure Yields (client after : Client) : Prop where
  connectData : after.connectData = client.connectData
  waitWillMsgFlg : after.waitWillMsgFlg = true → client.waitWillMsgFlg = true

section Turns

variable {gw : Gateway} {ids : MessageIds} {clients : Nat → Client} {client after : Client}
  {handled : Handled} {heard : Handshake}

theorem Yields.refl (client : Client) : Yields client client := ⟨rfl, id⟩

theorem Yields.trans {middle : Client} (h : Yields client middle) (k : Yields middle after) :
    Yields client after :=
  ⟨k.connectData.trans h.connectData, fun hafter => h.waitWillMsgFlg (k.waitWillMsgFlg hafter)⟩

theorem Login.yields (h : Login client after) : Yields client after :=
  ⟨h.connectData, fun hafter => h.waitWillMsgFlg ▸ hafter⟩

theorem Yields.disconnected (client : Client) : Yields client client.disconnected :=
  ⟨rfl, fun hafter => Bool.noConfusion hafter⟩

theorem Yields.updateActive (client : Client) (packet : MQTTSNPacket) :
    Yields client (client.updateActive packet) := by
  cases packet with
  | disconnect duration =>
    by_cases hduration : duration = 0
    · subst hduration
      exact .disconnected client
    · rw [Client.updateActive, if_pos hduration]
      exact ⟨rfl, id⟩
  | _ => exact .refl client

theorem Yields.updateSleeping (client : Client) (packet : MQTTSNPacket) :
    Yields client (client.updateSleeping packet) := by
  cases packet with
  | disconnect duration => exact .disconnected client
  | connect data => exact ⟨rfl, id⟩
  | pingreq => exact ⟨rfl, id⟩
  | pingresp => exact ⟨rfl, id⟩
  | _ => exact .refl client

theorem Yields.updateStatus (client : Client) (packet : MQTTSNPacket) :
    Yields client (client.updateStatus packet) := by
  rw [Client.updateStatus]
  cases client.status with
  | active => exact .updateActive client packet
  | asleep => exact .updateSleeping client packet
  | awake => exact .updateSleeping client packet
  | _ => exact .refl client

theorem Yields.connackSended (client : Client) (rc : Nat) :
    Yields client (client.connackSended rc) := by
  unfold Client.connackSended
  split
  · exact ⟨rfl, id⟩
  · exact .disconnected client

theorem Follows.yields (h : Follows gw client heard) (hyields : Yields client after)
    (hid : after.clientId = client.clientId) : Follows gw after heard where
  data := by
    obtain ⟨willMsg, hdata⟩ := h.data
    exact ⟨willMsg, by rw [hyields.connectData, hid, hdata]⟩
  waiting hafter := h.waiting (hyields.waitWillMsgFlg hafter)

theorem connectsOf_nil {sent : List MQTTGWPacket} (h : ∀ packet ∈ sent, packet.getType ≠ CONNECT) :
    connectsOf sent = [] := by
  rw [connectsOf, List.filter_eq_nil_iff]
  intro packet hmem
  simpa using h packet hmem

theorem prepareConnect_asked (gw : Gateway) (client : Client) (data : SNConnect) :
    (MQTTSNConnectionHandler.prepareConnect gw client data).connectData =
      composed gw client.clientId ⟨some data, none⟩ [] := by
  simp only [MQTTSNConnectionHandler.prepareConnect, MQTTSNConnectionHandler.cleanSession,
    Client.disconnected]
  split_ifs <;> rfl

theorem prepareConnect_waiting (gw : Gateway) (data : SNConnect) (hregular : client.isAdapter = false) :
    (MQTTSNConnectionHandler.prepareConnect gw client data).waitWillMsgFlg = false := by
  simp only [MQTTSNConnectionHandler.prepareConnect, MQTTSNConnectionHandler.cleanSession, hregular,
    Client.disconnected, Bool.false_eq_true, if_false]
  split_ifs <;> rfl

theorem prepareConnect_clientId (gw : Gateway) (client : Client) (data : SNConnect) :
    (MQTTSNConnectionHandler.prepareConnect gw client data).clientId = client.clientId := by
  simp only [MQTTSNConnectionHandler.prepareConnect, MQTTSNConnectionHandler.cleanSession,
    Client.disconnected]
  split_ifs <;> rfl

structure Heard (gw : Gateway) (client : Client) (heard : Handshake) (ev : Event)
    (handled : Handled) : Prop where
  follows : Follows gw handled.client (heard.hear client ev)
  dials : ∀ packet ∈ connectsOf handled.brokerSend,
    Dials gw client.clientId ⟨heard.hear client ev, ev, packet⟩

theorem Heard.quiet {ev : Event} (h : Follows gw client heard)
    (hear : heard.hear client ev = heard) (hyields : Yields client handled.client)
    (hid : handled.client.clientId = client.clientId)
    (hsent : connectsOf handled.brokerSend = []) : Heard gw client heard ev handled where
  follows := by
    rw [hear]
    exact h.yields hyields hid
  dials := by
    rw [hsent]
    exact List.forall_mem_nil _

theorem Heard.connect (h : Follows gw client heard) (hregular : client.isAdapter = false) (c : Nat)
    (data : SNConnect) :
    Heard gw client heard (.clientRecv c (.connect (some data)))
      (MQTTSNConnectionHandler.handleConnect gw client (some data)) := by
  cases hawake : client.isSleep || client.isAwake with
  | true =>
    have hanswer : MQTTSNConnectionHandler.handleConnect gw client (some data) =
        { sendStoredPublish client with clientSend := [.connack MQTTSN_RC_ACCEPTED] } := by
      simp [MQTTSNConnectionHandler.handleConnect, hawake]
    rw [hanswer]
    refine .quiet h ?_ ⟨rfl, id⟩ rfl rfl
    simp [Handshake.hear, hawake]
  | false =>
    have hhear : heard.hear client (.clientRecv c (.connect (some data))) = ⟨some data, none⟩ := by
      simp [Handshake.hear, hawake]
    have hfollows : Follows gw (MQTTSNConnectionHandler.prepareConnect gw client data)
        ⟨some data, none⟩ := by
      refine ⟨⟨[], ?_⟩, fun hwaiting => ?_⟩
      · rw [prepareConnect_asked, prepareConnect_clientId]
      · rw [prepareConnect_waiting gw data hregular] at hwaiting
        cases hwaiting
    simp only [MQTTSNConnectionHandler.handleConnect, hawake, Bool.false_eq_true, if_false]
    cases hwill : data.willFlag with
    | true =>
      rw [if_pos rfl]
      exact ⟨hhear ▸ hfollows, List.forall_mem_nil _⟩
    | false =>
      rw [if_neg Bool.false_ne_true]
      refine ⟨hhear ▸ hfollows, ?_⟩
      intro packet hmem
      obtain rfl := List.mem_singleton.mp (List.mem_of_mem_filter hmem)
      rw [hhear, prepareConnect_asked]
      exact .plain c data hwill

theorem Heard.willtopic (h : Follows gw client heard) (c : Nat) (data : SNWilltopic) :
    Heard gw client heard (.clientRecv c (.willtopic (some data)))
      (MQTTSNConnectionHandler.handleWilltopic client (some data)) := by
  refine ⟨⟨?_, fun _ => rfl⟩, List.forall_mem_nil _⟩
  obtain ⟨willMsg, hdata⟩ := h.data
  refine ⟨willMsg, ?_⟩
  simp only [MQTTSNConnectionHandler.handleWilltopic, Handled.toClient, hdata, Handshake.hear,
    composed, willed]
  cases heard.will <;> rfl

theorem Heard.willmsg (h : Follows gw client heard) (c : Nat) (willmsg : Bytes) :
    Heard gw client heard (.clientRecv c (.willmsg (some willmsg)))
      (MQTTSNConnectionHandler.handleWillmsg gw client (some willmsg)) := by
  have hquiet : Heard gw client heard (.clientRecv c (.willmsg (some willmsg)))
      (.unchanged client) := .quiet h rfl (.refl client) rfl rfl
  unfold MQTTSNConnectionHandler.handleWillmsg
  split
  · exact hquiet
  rename_i hwaiting
  split
  · have hwill := h.waiting (by simpa using hwaiting)
    obtain ⟨willMsg, hdata⟩ := h.data
    have hcomposed : { client.connectData with willMsg := cStr willmsg } =
        composed gw client.clientId heard (cStr willmsg) := by
      rw [hdata]
      rfl
    refine ⟨⟨⟨cStr willmsg, hcomposed⟩, fun hflag => Bool.noConfusion hflag⟩, ?_⟩
    intro packet hmem
    obtain rfl := List.mem_singleton.mp (List.mem_of_mem_filter hmem)
    simp only [hcomposed]
    exact .willed c heard willmsg hwill
  · exact hquiet

theorem ClientTurn.hears {packet : MQTTSNPacket} (hturn : ClientTurn gw client packet handled)
    (h : Follows gw client heard) (hregular : client.isAdapter = false)
    (hid : handled.client.clientId = client.clientId) (c : Nat) :
    Heard gw client heard (.clientRecv c packet) handled := by
  cases hturn with
  | connect data => exact .connect h hregular c data
  | willtopic data => exact .willtopic h c data
  | willmsg willmsg => exact .willmsg h c willmsg
  | publish packet relayed =>
    refine .quiet h rfl relayed.login.yields hid ?_
    rcases relayed.upstream with hsent | ⟨topic, topiclen, bounded, hsent⟩
    · rw [hsent]
      rfl
    · rw [hsent]
      refine connectsOf_nil ?_
      intro sent hmem
      rw [List.mem_singleton.mp hmem, MQTTSNPublishHandler.translate,
        MQTTGWPacket.setPUBLISH_getType]
      decide
  | settled hopens settled =>
    refine .quiet h ?_ settled.login.yields hid
      (connectsOf_nil fun packet hmem => (settled.upstream packet hmem).1)
    cases packet with
    | connect data =>
      cases data with
      | none => rfl
      | some data => cases hopens
    | willtopic data =>
      cases data with
      | none => rfl
      | some data => cases hopens
    | _ => rfl

theorem BrokerTurn.hears {packet : MQTTGWPacket} (hturn : BrokerTurn client packet handled)
    (h : Follows gw client heard) (hid : handled.client.clientId = client.clientId) (c : Nat) :
    Heard gw client heard (.brokerRecv c packet) handled := by
  cases hturn with
  | connack _ => exact .quiet h rfl (.connackSended client _) hid rfl
  | pingresp _ => exact .quiet h rfl (.updateStatus client _) hid rfl
  | settled _ _ settled =>
    exact .quiet h rfl settled.login.yields hid
      (connectsOf_nil fun packet hmem => (settled.upstream packet hmem).1)

theorem handleEvent_heard {ev : Event} {c : Nat} (h : Follows gw (clients c) heard)
    (hoff : gw.aggregaterActive = false) (hplain : ∀ d, (clients d).isAggregater = false)
    (hregular : (clients c).isAdapter = false)
    (hdone : handleEvent gw ids clients ev = .done c handled) :
    Heard gw (clients c) heard ev handled := by
  have hid : handled.client.clientId = (clients c).clientId :=
    congrArg Prod.snd (handleEvent_identity hdone)
  cases handleEvent_dispatched hdone with
  | @client _ packet answer hpacket =>
    have hanswer : answer.client.clientId = (clients c).clientId :=
      congrArg Prod.snd (clientPacket_identity hpacket)
    rw [clientPacket, if_neg (by simp [isAggregatedClient, hoff])] at hpacket
    have hheard := (transparentClientPacket_turn hpacket).hears h hregular hanswer c
    exact ⟨hheard.follows.yields (.updateStatus answer.client packet)
      (congrArg Prod.snd (Client.updateStatus_identity _ _)), hheard.dials⟩
  | transparent _ hpacket => exact (transparentBrokerPacket_turn hpacket).hears h hid c
  | @aggregate d _ haggregater => simp [hplain d] at haggregater

end Turns

structure Conversed (gw : Gateway) (c : Nat) (clientId : Bytes) (w : Traced Talk) : Prop where
  unaggregated : Unaggregated gw c w.state
  named : (w.state.clients c).clientId = clientId
  follows : Follows gw (w.state.clients c) w.ghost.heard
  dials : ∀ dialling ∈ w.ghost.dialled, Dials gw clientId dialling

namespace Conversed

variable {gw : Gateway} {c : Nat} {clientId : Bytes} {w : Traced Talk}

theorem setClient (h : Conversed gw c clientId w) {d : Nat} {client : Client}
    (hidentity : client.identity = (w.state.clients d).identity)
    (hyields : Yields (w.state.clients d) client)
    (hnext : Unaggregated gw c (MQTTSNGW.setClient w.state d client)) :
    Conversed gw c clientId ⟨MQTTSNGW.setClient w.state d client, w.ghost⟩ where
  unaggregated := hnext
  named := (congrArg Prod.snd (setClient_field Client.identity hidentity c)).trans h.named
  follows := h.follows.yields (update_related .refl hyields c)
    (congrArg Prod.snd (setClient_field Client.identity hidentity c))
  dials := h.dials

theorem handled (h : Conversed gw c clientId w) {ids : MessageIds} {ev : Event} {target : Nat}
    {handled : Handled} (hnext : Unaggregated gw c (apply (take w.state) target handled))
    (hresult : handleEvent gw ids w.state.clients ev = .done target handled) :
    Conversed gw c clientId ⟨apply (take w.state) target handled,
      (talkOf c).handled w.ghost ids w.state ev target handled⟩ := by
  by_cases htarget : target = c
  · subst htarget
    have hheard := handleEvent_heard h.follows h.unaggregated.off h.unaggregated.plain
      h.unaggregated.regular hresult
    have hid := congrArg Prod.snd (handleEvent_identity hresult)
    refine ⟨hnext, ?_, ?_, ?_⟩
    · rw [apply_client]
      exact hid.trans h.named
    · rw [apply_client]
      simpa only [talkOf, if_true] using hheard.follows
    · simp only [talkOf, if_true, List.forall_mem_append, List.forall_mem_map]
      exact ⟨h.dials, fun packet hmem => h.named ▸ hheard.dials packet hmem⟩
  · refine ⟨hnext, ?_, ?_, ?_⟩
    · rw [apply_other htarget]
      exact h.named
    · rw [apply_other htarget]
      simpa only [talkOf, if_neg htarget] using h.follows
    · simpa only [talkOf, if_neg htarget] using h.dials

theorem step (h : Conversed gw c clientId w) (act : Act) :
    Conversed gw c clientId (w.step gw (talkOf c) act) := by
  have hnext := h.unaggregated.step act
  have hmoves := Traced.moves gw (talkOf c) w act
  have hstate : PacketHandleTask.step gw w.state act = (w.step gw (talkOf c) act).state := rfl
  rw [hstate] at hnext
  generalize w.step gw (talkOf c) act = w' at hmoves hnext
  cases hmoves with
  | stuck => exact h
  | posted => exact ⟨hnext, h.named, h.follows, h.dials⟩
  | connectSended => exact h.setClient rfl ⟨rfl, id⟩ hnext
  | disconnected => exact h.setClient rfl (.disconnected _) hnext
  | empty => exact h
  | skipped => exact ⟨hnext, h.named, h.follows, h.dials⟩
  | faulted => exact ⟨hnext, h.named, h.follows, h.dials⟩
  | handled _ _ hresult => exact h.handled hnext hresult

end Conversed

theorem connect_carries_handshake {gw : Gateway} {clients : Nat → Client} {c : Nat}
    (hunaggregated : Unaggregated gw c (initial clients))
    (hdata : (clients c).connectData = .zero) (hwaiting : (clients c).waitWillMsgFlg = false)
    (acts : List Act) :
    ∀ dialling ∈ (acts.foldl (Traced.step gw (talkOf c))
        ⟨initial clients, ⟨none, none⟩, []⟩).ghost.dialled,
      Dials gw (clients c).clientId dialling := by
  have hsteps : Steps (Traced.step gw (talkOf c)) (fun _ _ => True)
      ⟨initial clients, ⟨none, none⟩, []⟩ acts := Steps.of_forall fun _ _ => trivial
  refine (hsteps.invariant (I := Conversed gw c (clients c).clientId) (fun _ h => h.step _)
    ⟨hunaggregated, rfl, ⟨⟨[], ?_⟩, fun hflag => ?_⟩, List.forall_mem_nil _⟩).dials
  · exact hdata
  · exact absurd (hwaiting.symm.trans hflag) Bool.noConfusion

-- the will of an earlier handshake, then a second one
def secondWill : List Act :=
  arrives (.clientRecv 0 (.connect (some ⟨true, true, 60⟩))) ++
    arrives (.clientRecv 0 (.willtopic (some ⟨.QOS1, true, [0x61]⟩))) ++
    arrives (.clientRecv 0 (.willmsg (some [0x62]))) ++
    arrives (.clientRecv 0 (.connect (some ⟨true, true, 60⟩))) ++
    arrives (.clientRecv 0 (.willtopic (some ⟨.QOS0, false, [0x63]⟩))) ++
    arrives (.clientRecv 0 (.willmsg (some [0x64])))

def secondWillTalk : Talk :=
  (secondWill.foldl (Traced.step bareGateway (talkOf 0))
    ⟨initial freshClients, ⟨none, none⟩, []⟩).ghost

theorem connect_carries_second_will :
    secondWillTalk.dialled.length = 2 ∧
    ∀ dialling ∈ secondWillTalk.dialled, Dials bareGateway [0x63] dialling :=
  ⟨by decide +kernel, connect_carries_handshake ⟨rfl, fun _ => rfl, rfl⟩ rfl rfl secondWill⟩

end MbedMqtt.MQTTSNGW
