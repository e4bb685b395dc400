import MbedMqtt.Gateway.Quiet

namespace MbedMqtt.MQTTSNGW

def pubacks (sent : List MQTTGWPacket) : List UInt16 :=
  sent.filterMap fun packet => if packet.getType = PUBACK then some packet.getAck else none

def MQTTSNPacket.qos1 : MQTTSNPacket → Option UInt16
  | .publish (some packet) => if packet.qos = .QOS1 then some packet.msgId else none
  | _ => none

def MQTTGWPacket.qos1 (packet : MQTTGWPacket) : Option UInt16 :=
  if packet.getType = PUBLISH ∧ packet.getPUBLISH.qos = 1 then
    some (UInt16.ofNat packet.getPUBLISH.msgId)
  else none

def published (sent : List MQTTSNPacket) : List UInt16 := sent.filterMap MQTTSNPacket.qos1

def resolves (client : Client) (pub : Publish) : Bool :=
  pub.topiclen ≤ 2 || (client.topics.getTopicByName pub.name).isSome ||
    (client.topics.matchTopic .normal pub.name).isSome

def repliesItself (client : Client) (packet : MQTTGWPacket) : Bool :=
  client.isSleep ||
    ((client.isActive || client.isAwake) && !resolves client packet.getPUBLISH)

section Counting

theorem pubacks_eq_nil {sent : List MQTTGWPacket} (h : ∀ packet ∈ sent, packet.getType ≠ PUBACK) :
    pubacks sent = [] := by
  rw [pubacks, List.filterMap_eq_nil_iff]
  intro packet hmem
  exact if_neg (h packet hmem)

theorem published_eq_nil {sent : List MQTTSNPacket} (h : ∀ data, .publish data ∉ sent) :
    published sent = [] := by
  rw [published, List.filterMap_eq_nil_iff]
  intro packet hmem
  cases packet with
  | publish data => exact absurd hmem (h data)
  | _ => rfl

theorem setAck_getAck (type : Nat) (msgId : UInt16) :
    (MQTTGWPacket.setAck type msgId).getAck = msgId := by
  have hlaid : LaidAt (MQTTGWPacket.setAck type msgId).data 0 (writeInt msgId.toNat) :=
    List.prefix_rfl
  rw [MQTTGWPacket.getAck, readInt_laidAt hlaid, Nat.mod_eq_of_lt msgId.toNat_lt]
  exact UInt16.ofNat_toNat

theorem pubacks_setAck (msgId : UInt16) : pubacks [.setAck PUBACK msgId] = [msgId] := by
  have htype : (MQTTGWPacket.setAck PUBACK msgId).getType = PUBACK := setAck_getType msgId (by decide)
  simp only [pubacks, List.filterMap_cons, List.filterMap_nil, htype, if_true, setAck_getAck]

theorem pubacks_acknowledge (client : Client) {packet : MQTTGWPacket}
    (htype : packet.getType = PUBLISH) :
    pubacks (MQTTGWPublishHandler.acknowledge client packet.getPUBLISH).brokerSend =
      packet.qos1.toList := by
  simp only [MQTTGWPublishHandler.acknowledge, MQTTGWPacket.qos1, htype, true_and]
  split_ifs with hone htwo
  · exact pubacks_setAck _
  · refine pubacks_eq_nil ?_
    intro sent hmem
    rw [List.mem_singleton.mp hmem, setAck_getType _ (by decide)]
    decide
  · rfl

theorem qos1_snPublish {packet : MQTTGWPacket} (htype : packet.getType = PUBLISH) (topic : TopicId) :
    (MQTTGWPublishHandler.snPublish packet.getPUBLISH topic).qos1 = packet.qos1 := by
  have hqos : QoS.ofInt packet.getPUBLISH.qos = .QOS1 ↔ packet.getPUBLISH.qos = 1 := by
    constructor
    · intro h
      match hvalue : packet.getPUBLISH.qos with
      | 0 => rw [hvalue] at h; cases h
      | 1 => rfl
      | 2 => rw [hvalue] at h; cases h
      | n + 3 => rw [hvalue] at h; cases h
    · intro h
      rw [h]
      rfl
  simp only [MQTTGWPublishHandler.snPublish, MQTTSNPacket.qos1, MQTTGWPacket.qos1, hqos, htype,
    true_and]

theorem published_snPublish {packet : MQTTGWPacket} (htype : packet.getType = PUBLISH)
    (topic : TopicId) :
    published [MQTTGWPublishHandler.snPublish packet.getPUBLISH topic] = packet.qos1.toList := by
  rw [published, List.filterMap_cons, qos1_snPublish htype]
  cases packet.qos1 <;> rfl

end Counting

inductive PublishTurn (client : Client) (packet : MQTTGWPacket) (handled : Handled) : Prop
  | replied (itself : repliesItself client packet = true)
      (acks : pubacks handled.brokerSend = packet.qos1.toList)
      (publishes : published handled.clientSend = [])
      (waiting : handled.client.waitREGACKList = client.waitREGACKList)
  | sent (acks : pubacks handled.brokerSend = [])
      (publishes : published handled.clientSend = packet.qos1.toList)
      (waiting : handled.client.waitREGACKList = client.waitREGACKList)
  | parked (acks : pubacks handled.brokerSend = []) (publishes : published handled.clientSend = [])
      (waiting : ∃ entry, entry.packet.qos1 = packet.qos1 ∧
        handled.client.waitREGACKList.list = client.waitREGACKList.list ++ [entry])
  | dropped (acks : pubacks handled.brokerSend = []) (publishes : published handled.clientSend = [])
      (waiting : handled.client.waitREGACKList = client.waitREGACKList)

theorem handlePublish_turn {client : Client} {packet : MQTTGWPacket} {handled : Handled}
    (htype : packet.getType = PUBLISH)
    (h : MQTTGWPublishHandler.handlePublish client packet = some handled) :
    PublishTurn client packet handled := by
  unfold MQTTGWPublishHandler.handlePublish at h
  split at h
  · obtain rfl := Option.some.inj h
    exact .dropped rfl rfl rfl
  rename_i hidle
  split at h
  · rename_i hsleep
    obtain rfl := Option.some.inj h
    exact .replied (by simp [repliesItself, hsleep]) (pubacks_acknowledge client htype)
      (by simp [published]) (by simp [Client.setClientSleepPacket])
  rename_i hsleep
  rcases MQTTGWPublishHandler.handleAwake_cases h with ⟨-, rfl⟩ | ⟨-, tp, -, rfl⟩ | ⟨hlong, hname, hnew⟩
  · exact .sent rfl (published_snPublish htype _) rfl
  · exact .sent rfl (published_snPublish htype _) rfl
  rcases hnew with ⟨hmatch, rfl⟩ | ⟨-, topics, topic, -, ⟨-, rfl⟩ | ⟨-, rfl⟩⟩
  · have hawake : (client.isActive || client.isAwake) = true := by
      cases hactive : client.isActive with
      | true => rfl
      | false => simpa [hactive, hsleep] using hidle
    refine .replied ?_ (pubacks_acknowledge client htype) (by simp [published]) (by simp)
    simp [repliesItself, resolves, hawake, hlong, hname, hmatch]
  · exact .parked rfl rfl ⟨_, qos1_snPublish htype _, rfl⟩
  · exact .dropped rfl rfl rfl

def released (client : Client) (ack : SNAck) : Option WaitREGACKPacket :=
  if client.isActive || client.isAwake then
    client.waitREGACKList.list.find? (·.msgId = ack.msgId)
  else none

inductive Turn (gw : Gateway) (client : Client) (c : Nat) : Event → Handled → Prop
  | silent {ev : Event} {handled : Handled} (puback : ∀ ack, ev ≠ .clientRecv c (.puback (some ack)))
      (regack : ∀ a ack, ev ≠ .clientRecv a (.regack (some ack)))
      (publish : ∀ packet, ev = .brokerRecv c packet → packet.qos1 = none)
      (acks : pubacks handled.brokerSend = []) (publishes : published handled.clientSend = [])
      (waiting : handled.client.waitREGACKList = client.waitREGACKList) : Turn gw client c ev handled
  | puback (ack : SNAck) {handled : Handled}
      (acks : pubacks handled.brokerSend = if passesPuback gw client ack then [ack.msgId] else [])
      (publishes : published handled.clientSend = [])
      (waiting : handled.client.waitREGACKList = client.waitREGACKList) :
      Turn gw client c (.clientRecv c (.puback (some ack))) handled
  | regack (ack : SNAck) {handled : Handled} (acks : pubacks handled.brokerSend = [])
      (publishes : published handled.clientSend =
        ((released client ack).bind (·.packet.qos1)).toList)
      (waiting : handled.client.waitREGACKList.list = if client.isActive || client.isAwake then
          client.waitREGACKList.list.eraseP (·.msgId = ack.msgId)
        else client.waitREGACKList.list) :
      Turn gw client c (.clientRecv c (.regack (some ack))) handled
  | publish (packet : MQTTGWPacket) {handled : Handled} (turn : PublishTurn client packet handled) :
      Turn gw client c (.brokerRecv c packet) handled

section Turns

variable {gw : Gateway} {ids : MessageIds} {clients : Nat → Client} {c : Nat} {handled : Handled}

theorem release_turn (client : Client) (msgId : UInt16) :
    let handled := MQTTSNPublishHandler.releasePing (MQTTSNPublishHandler.release client msgId)
    published handled.clientSend =
      ((client.waitREGACKList.list.find? (·.msgId = msgId)).bind (·.packet.qos1)).toList ∧
    handled.client.waitREGACKList.list = client.waitREGACKList.list.eraseP (·.msgId = msgId) := by
  obtain ⟨hold, hclient⟩ := MQTTSNPublishHandler.releasePing_client
    (MQTTSNPublishHandler.release client msgId)
  simp only [MQTTSNPublishHandler.releasePing_clientSend, hclient]
  simp only [MQTTSNPublishHandler.release, WaitREGACKPacketList.getPacket]
  cases hfound : client.waitREGACKList.list.find? (·.msgId = msgId) with
  | none =>
    refine ⟨rfl, ?_⟩
    rw [List.eraseP_of_forall_not]
    · rfl
    · simpa using hfound
  | some entry =>
    refine ⟨?_, rfl⟩
    simp only [Option.map_some, Handled.toClient, published, List.filterMap_cons, List.filterMap_nil,
      Option.bind_some]
    cases entry.packet.qos1 <;> rfl

theorem silent_waiting {ev : Event}
    (h : PacketHandleTask.handleEvent gw ids clients ev = .done c handled)
    (hregack : role gw clients ev ≠ .regack) (hpublish : role gw clients ev ≠ .publish) :
    handled.client.waitREGACKList = (clients c).waitREGACKList := by
  have heffect := handleEvent_effect h
  cases hrole : role gw clients ev with
  | regack => exact absurd hrole hregack
  | publish => exact absurd hrole hpublish
  | drain =>
    rw [hrole] at heffect
    obtain ⟨packet, -, hdrained, -⟩ := heffect
    exact hdrained.waiting
  | ping =>
    rw [hrole] at heffect
    exact heffect.2.waiting
  | save =>
    rw [hrole] at heffect
    obtain ⟨packet, -, hsaved⟩ := heffect
    exact hsaved.waiting
  | other =>
    rw [hrole] at heffect
    exact heffect.same.waiting

theorem clientRecv_waiting {packet : MQTTSNPacket} (hregack : ∀ ack, packet ≠ .regack (some ack))
    (h : PacketHandleTask.handleEvent gw ids clients (.clientRecv c packet) = .done c handled) :
    handled.client.waitREGACKList = (clients c).waitREGACKList := by
  refine silent_waiting h ?_ ?_
  · simp only [role]
    split_ifs with hdrains hping hregacks
    · decide
    · decide
    · cases packet with
      | regack data =>
        cases data with
        | none => cases hregacks
        | some ack => exact absurd rfl (hregack ack)
      | _ => cases hregacks
    · decide
  · simp only [role]
    split_ifs <;> decide

theorem clientPacket_silent {client : Client} {packet : MQTTSNPacket}
    (hpuback : ∀ ack, packet ≠ .puback (some ack)) (hregack : ∀ ack, packet ≠ .regack (some ack))
    (h : PacketHandleTask.clientPacket gw ids client packet = some handled) :
    pubacks handled.brokerSend = [] ∧ published handled.clientSend = [] := by
  cases hloud : loud packet with
  | false =>
    have hquiet := clientPacket_quiet hloud h
    exact ⟨pubacks_eq_nil hquiet.acks, published_eq_nil hquiet.publishes⟩
  | true =>
    cases packet with
    | connect data =>
      cases data with
      | none => cases hloud
      | some data =>
        have hconnected := clientPacket_connect h
        exact ⟨pubacks_eq_nil hconnected.acks, published_eq_nil hconnected.publishes⟩
    | publish data =>
      cases data with
      | none => cases hloud
      | some data =>
        rcases clientPacket_publish h with ⟨hquiet, -⟩ | hforwarded
        · exact ⟨pubacks_eq_nil hquiet.acks, published_eq_nil hquiet.publishes⟩
        · obtain ⟨publish, hsent, htype⟩ := hforwarded.sent
          refine ⟨pubacks_eq_nil ?_, ?_⟩
          · intro sent hmem
            rw [hsent] at hmem
            rw [List.mem_singleton.mp hmem, htype]
            decide
          · rw [hforwarded.unanswered]
            rfl
    | puback data =>
      cases data with
      | none => cases hloud
      | some ack => exact absurd rfl (hpuback ack)
    | regack data =>
      cases data with
      | none => cases hloud
      | some ack => exact absurd rfl (hregack ack)
    | _ => cases hloud

theorem clientRecv_turn {packet : MQTTSNPacket}
    (h : PacketHandleTask.handleEvent gw ids clients (.clientRecv c packet) = .done c handled) :
    Turn gw (clients c) c (.clientRecv c packet) handled := by
  have hdone := h
  obtain ⟨-, hanswer⟩ := ofOption_done h
  obtain ⟨answer, hpacket, rfl⟩ := Option.map_eq_some_iff.mp hanswer
  by_cases hregack : ∃ ack, packet = .regack (some ack)
  · obtain ⟨ack, rfl⟩ := hregack
    have hrelease := clientPacket_regacked hpacket
    have hsame : (answer.client.updateStatus (.regack (some ack))).waitREGACKList =
        answer.client.waitREGACKList := (Same.updateStatus answer.client _).waiting
    cases hawake : (clients c).isActive || (clients c).isAwake with
    | true =>
      rw [hawake, if_pos rfl] at hrelease
      subst hrelease
      obtain ⟨hpublished, hwaiting⟩ := release_turn (clients c) ack.msgId
      refine .regack ack (pubacks_eq_nil (release_acks _ _)) ?_ ?_
      · simp only [released, hawake, if_true]
        exact hpublished
      · simp only [hawake, if_true, hsame]
        exact hwaiting
    | false =>
      rw [hawake, if_neg Bool.false_ne_true] at hrelease
      subst hrelease
      refine .regack ack rfl ?_ ?_
      · simp only [released, hawake, Bool.false_eq_true, if_false]
        rfl
      · simp only [hawake, Bool.false_eq_true, if_false, hsame]
        rfl
  have hregack : ∀ ack, packet ≠ .regack (some ack) := fun ack heq => hregack ⟨ack, heq⟩
  have hwaiting := clientRecv_waiting hregack hdone
  by_cases hpuback : ∃ ack, packet = .puback (some ack)
  · obtain ⟨ack, rfl⟩ := hpuback
    have hpass := clientPacket_puback hpacket
    refine .puback ack ?_ ?_ hwaiting
    · rw [hpass]
      split
      · exact pubacks_setAck ack.msgId
      · rfl
    · rw [hpass]
      split
      · rfl
      · rfl
  · have hpuback : ∀ ack, packet ≠ .puback (some ack) := fun ack heq => hpuback ⟨ack, heq⟩
    obtain ⟨hacks, hpublishes⟩ := clientPacket_silent hpuback hregack hpacket
    refine .silent ?_ ?_ nofun hacks hpublishes hwaiting
    · intro ack heq
      cases heq
      exact hpuback ack rfl
    · intro a ack heq
      cases heq
      exact hregack ack rfl

theorem brokerRecv_turn {a : Nat} {packet : MQTTGWPacket} (hplain : (clients c).isAggregater = false)
    (h : PacketHandleTask.handleEvent gw ids clients (.brokerRecv a packet) = .done c handled) :
    Turn gw (clients c) c (.brokerRecv a packet) handled := by
  by_cases htype : packet.getType = PUBLISH
  · obtain ⟨rfl, hanswer⟩ := brokerRecv_published htype h
    rw [hplain, if_neg Bool.false_ne_true] at hanswer
    exact .publish packet (handlePublish_turn htype hanswer)
  · have hnone : packet.qos1 = none := if_neg (fun hboth => htype hboth.1)
    have hwaiting := (brokerRecv_other (.inr htype) h).same.waiting
    have hquiet : pubacks handled.brokerSend = [] ∧ published handled.clientSend = [] := by
      cases hack : brokerAck ids clients (.brokerRecv a packet) with
      | none =>
        have hquiet := brokerAck_unanswered hack htype h
        exact ⟨pubacks_eq_nil hquiet.acks, published_eq_nil hquiet.publishes⟩
      | some ack =>
        obtain ⟨-, answer, -, hanswer⟩ := brokerAck_handled gw hack
        rw [hanswer] at h
        cases h
        split
        · rcases handlePuback_cases (clients ack.1) answer with ⟨element, -, heq⟩ | ⟨-, heq⟩
          · rw [heq]
            exact ⟨rfl, rfl⟩
          · rw [heq]
            exact ⟨rfl, rfl⟩
        · have hquiet : Quiet (clients ack.1) _ := .handleBrokerAck answer PUBCOMP
          exact ⟨pubacks_eq_nil hquiet.acks, published_eq_nil hquiet.publishes⟩
    refine .silent nofun nofun ?_ hquiet.1 hquiet.2 hwaiting
    intro other heq
    cases heq
    exact hnone

theorem handleEvent_turn {ev : Event} (hplain : (clients c).isAggregater = false)
    (h : PacketHandleTask.handleEvent gw ids clients ev = .done c handled) :
    Turn gw (clients c) c ev handled := by
  cases ev with
  | broadcast => cases h
  | clientRecv a packet =>
    obtain ⟨rfl, -⟩ := ofOption_done h
    exact clientRecv_turn h
  | brokerRecv a packet => exact brokerRecv_turn hplain h

end Turns

end MbedMqtt.MQTTSNGW
