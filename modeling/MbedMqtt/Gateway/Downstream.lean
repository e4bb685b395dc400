import MbedMqtt.Gateway.Quiet
import MbedMqtt.Gateway.EventEffect

namespace MbedMqtt.MQTTSNGW

-- what of a PUBLISH is the same on both sides of the gateway
structure Content where
  dup : Bool
  qos : QoS
  retained : Bool
  msgId : UInt16
  payload : Bytes
  deriving DecidableEq, Repr

def Publish.content (pub : Publish) : Content where
  dup := headerDup pub.header = 1
  qos := .ofInt pub.qos
  retained := headerRetain pub.header = 1
  msgId := UInt16.ofNat pub.msgId
  payload := pub.payload.take (pub.payloadlen % 65536).toNat

def SNPublish.content (packet : SNPublish) : Content :=
  ⟨packet.dup, packet.qos, packet.retained, packet.msgId, packet.payload⟩

def MQTTGWPacket.content (packet : MQTTGWPacket) : Option Content :=
  if packet.getType = PUBLISH then some packet.getPUBLISH.content else none

def MQTTSNPacket.content : MQTTSNPacket → Option Content
  | .publish (some packet) => some packet.content
  | _ => none

def contents (sent : List MQTTSNPacket) : List Content := sent.filterMap MQTTSNPacket.content

def storedContents (packets : List MQTTGWPacket) : List Content :=
  packets.filterMap MQTTGWPacket.content

def WaitREGACKPacketList.contents (waiting : WaitREGACKPacketList) : List Content :=
  waiting.list.filterMap fun entry => entry.packet.content

def Client.holding (client : Client) : List Content :=
  client.waitREGACKList.contents ++ storedContents client.clientSleepPacketQue.items

def Event.content (c : Nat) : Event → Option Content
  | .brokerRecv d packet => if d = c then packet.content else none
  | _ => none

-- nothing comes out of the client's turn that it neither held nor was given
def Conserves (client : Client) (given : Option Content) (handled : Handled) : Prop :=
  ∀ content, (contents handled.clientSend).count content +
      (handled.client.holding).count content +
      (storedContents handled.packetEvents).count content ≤
    client.holding.count content + given.toList.count content

@[simp] theorem snPublish_content (pub : Publish) (topic : TopicId) :
    (MQTTGWPublishHandler.snPublish pub topic).content = some pub.content := rfl

theorem contents_eq_nil {sent : List MQTTSNPacket} (h : ∀ data, .publish data ∉ sent) :
    contents sent = [] := by
  rw [contents, List.filterMap_eq_nil_iff]
  intro packet hmem
  cases packet with
  | publish data => exact absurd hmem (h data)
  | _ => rfl

section Unpublished

variable {gw : Gateway} {ids : MessageIds} {clients : Nat → Client} {client : Client}
  {handled : Handled} {target : Nat}

theorem clientPacket_unpublished {packet : MQTTSNPacket}
    (hregack : ∀ ack, packet ≠ .regack (some ack))
    (h : PacketHandleTask.clientPacket gw ids client packet = some handled) :
    contents handled.clientSend = [] := by
  cases hloud : loud packet with
  | false => exact contents_eq_nil (clientPacket_quiet hloud h).publishes
  | true =>
    cases packet with
    | connect data =>
      cases data with
      | none => cases hloud
      | some data => exact contents_eq_nil (clientPacket_connect h).publishes
    | publish data =>
      cases data with
      | none => cases hloud
      | some data =>
        rcases clientPacket_publish h with ⟨hquiet, -⟩ | hforwarded
        · exact contents_eq_nil hquiet.publishes
        · rw [hforwarded.unanswered]
          rfl
    | puback data =>
      cases data with
      | none => cases hloud
      | some ack =>
        rw [clientPacket_puback h]
        split <;> rfl
    | regack data =>
      cases data with
      | none => cases hloud
      | some ack => exact absurd rfl (hregack ack)
    | _ => cases hloud

theorem brokerRecv_unpublished {c : Nat} {packet : MQTTGWPacket} (htype : packet.getType ≠ PUBLISH)
    (h : PacketHandleTask.handleEvent gw ids clients (.brokerRecv c packet) = .done target handled) :
    contents handled.clientSend = [] := by
  cases hack : brokerAck ids clients (.brokerRecv c packet) with
  | none => exact contents_eq_nil (brokerAck_unanswered hack htype h).publishes
  | some ack =>
    obtain ⟨-, answer, -, hanswer⟩ := brokerAck_handled gw hack
    rw [hanswer] at h
    cases h
    split
    · rcases handlePuback_cases (clients ack.1) answer with ⟨element, -, heq⟩ | ⟨-, heq⟩
      · rw [heq]
        rfl
      · rw [heq]
        rfl
    · have hquiet : Quiet (clients ack.1) _ := .handleBrokerAck answer PUBCOMP
      exact contents_eq_nil hquiet.publishes

end Unpublished

namespace Conserves

variable {client : Client} {given : Option Content} {handled : Handled}

theorem of_holding (hsent : contents handled.clientSend = [])
    (hholding : handled.client.holding = client.holding)
    (hevents : storedContents handled.packetEvents = []) : Conserves client given handled := by
  intro content
  simp only [hsent, hholding, hevents, List.count_nil]
  omega

theorem of_keeps (hsent : contents handled.clientSend = []) (h : Keeps client handled) :
    Conserves client given handled := by
  refine of_holding hsent ?_ (by rw [h.events]; rfl)
  rw [Client.holding, h.same.waiting, h.same.stored, Client.holding]

theorem of_drained (hsent : contents handled.clientSend = []) (h : Drained client handled) :
    Conserves client given handled := by
  intro content
  simp only [hsent, Client.holding, h.waiting, h.stored, h.events, List.count_append]
  simp only [storedContents, List.filterMap_nil, List.count_nil]
  omega

theorem of_saved {packet : MQTTGWPacket} (hsent : contents handled.clientSend = [])
    (h : Saved client packet handled) : Conserves client packet.content handled := by
  intro content
  have hpost : (storedContents (client.clientSleepPacketQue.post packet).items).count content ≤
      (storedContents client.clientSleepPacketQue.items).count content +
        packet.content.toList.count content := by
    rcases Fifo.post_cases client.clientSleepPacketQue packet with hitems | hfull
    · simp only [storedContents, hitems, List.filterMap_append, List.count_append]
      cases hcontent : packet.content with
      | none => simp [hcontent]
      | some given => simp [hcontent]
    · rw [hfull]
      omega
  simp only [hsent, Client.holding, h.waiting, h.stored, h.events, List.count_append]
  simp only [storedContents, List.filterMap_nil, List.count_nil] at hpost ⊢
  omega

theorem of_sent {content : Content} {packet : MQTTSNPacket} (h : packet.content = some content) :
    Conserves client (some content) (.toClient client packet) := by
  intro other
  simp only [Handled.toClient, contents, List.filterMap_cons, h, List.filterMap_nil,
    Option.toList_some, storedContents, List.count_nil]
  omega

theorem of_parked {content : Content} {after : Client} {entry : WaitREGACKPacket}
    {packet : MQTTSNPacket} (hentry : entry.packet.content = some content)
    (hpacket : packet.content = none)
    (hwaiting : after.waitREGACKList.list = client.waitREGACKList.list ++ [entry])
    (hstored : after.clientSleepPacketQue = client.clientSleepPacketQue) :
    Conserves client (some content) (.toClient after packet) := by
  intro other
  simp only [Handled.toClient, contents, List.filterMap_cons, hpacket, List.filterMap_nil,
    Client.holding, WaitREGACKPacketList.contents, hwaiting, hstored, List.filterMap_append, hentry,
    List.count_append, Option.toList_some, storedContents, List.count_nil]
  omega

end Conserves

theorem release_split (client : Client) (msgId : UInt16) (content : Content) :
    (contents (MQTTSNPublishHandler.release client msgId).clientSend).count content +
        (MQTTSNPublishHandler.release client msgId).client.holding.count content =
      client.holding.count content := by
  simp only [MQTTSNPublishHandler.release, WaitREGACKPacketList.getPacket]
  cases hfound : client.waitREGACKList.list.find? (·.msgId = msgId) with
  | none => simp [Handled.unchanged, contents]
  | some entry =>
    obtain ⟨hmatch, before, after, hlist, hbefore⟩ := List.find?_eq_some_iff_append.mp hfound
    have herased : client.waitREGACKList.list.eraseP (·.msgId = msgId) = before ++ after := by
      rw [hlist, List.eraseP_append_right _ (by simpa using hbefore)]
      exact congrArg (before ++ ·) (List.eraseP_cons_of_pos hmatch)
    simp only [Option.map_some, Handled.toClient, Client.holding, WaitREGACKPacketList.contents,
      WaitREGACKPacketList.erase, herased, List.count_append]
    simp only [hlist, List.filterMap_append, List.filterMap_cons, List.count_append, contents,
      List.filterMap_nil]
    cases entry.packet.content with
    | none => simp
    | some held =>
      simp only [List.count_cons, List.count_nil]
      omega

theorem release_conserves (client : Client) (msgId : UInt16) (given : Option Content) :
    Conserves client given
      (MQTTSNPublishHandler.releasePing (MQTTSNPublishHandler.release client msgId)) := by
  intro content
  have hevents := (release_released client msgId).events
  obtain ⟨hold, hclient⟩ := MQTTSNPublishHandler.releasePing_client
    (MQTTSNPublishHandler.release client msgId)
  have hholding : (MQTTSNPublishHandler.releasePing
      (MQTTSNPublishHandler.release client msgId)).client.holding =
      (MQTTSNPublishHandler.release client msgId).client.holding := by
    rw [hclient]
    rfl
  rw [MQTTSNPublishHandler.releasePing_clientSend, hholding, release_split, hevents]
  simp [storedContents]

theorem handlePublish_conserves {client : Client} {packet : MQTTGWPacket} {handled : Handled}
    (htype : packet.getType = PUBLISH)
    (h : MQTTGWPublishHandler.handlePublish client packet = some handled) :
    Conserves client packet.content handled := by
  have hgiven : packet.content = some packet.getPUBLISH.content := if_pos htype
  unfold MQTTGWPublishHandler.handlePublish at h
  split at h
  · obtain rfl := Option.some.inj h
    exact .of_keeps rfl (.unchanged client)
  split at h
  · rename_i hsleep
    obtain ⟨saved, hanswer, hsaved⟩ := handlePublish_saved packet hsleep
    obtain rfl := Option.some.inj h
    rw [MQTTGWPublishHandler.handlePublish, if_neg (by simp [hsleep]), if_pos hsleep] at hanswer
    obtain rfl := Option.some.inj hanswer
    exact .of_saved (by simp [contents]) hsaved
  rw [hgiven]
  rcases MQTTGWPublishHandler.handleAwake_cases h with ⟨-, rfl⟩ | ⟨-, tp, -, rfl⟩ |
    ⟨-, -, ⟨-, rfl⟩ | ⟨-, topics, topic, -, ⟨-, rfl⟩ | ⟨-, rfl⟩⟩⟩
  · exact .of_sent (snPublish_content _ _)
  · exact .of_sent (snPublish_content _ _)
  · exact .of_keeps (by simp [contents]) (.acknowledge packet.getPUBLISH)
  · exact .of_parked (snPublish_content _ _) rfl rfl rfl
  · exact .of_holding rfl rfl rfl

section Events

variable {gw : Gateway} {ids : MessageIds} {clients : Nat → Client} {c : Nat} {handled : Handled}

theorem Conserves.updateStatus {client : Client} {given : Option Content} {answer : Handled}
    (packet : MQTTSNPacket) (h : Conserves client given answer) :
    Conserves client given { answer with client := answer.client.updateStatus packet } := by
  have hsame := Same.updateStatus answer.client packet
  have hholding : (answer.client.updateStatus packet).holding = answer.client.holding := by
    rw [Client.holding, hsame.waiting, hsame.stored, Client.holding]
  intro content
  rw [hholding]
  exact h content

theorem clientRecv_conserves {packet : MQTTSNPacket} {client : Client} (given : Option Content)
    (h : PacketHandleTask.clientPacket gw ids client packet = some handled) :
    Conserves client given handled := by
  by_cases hregack : ∃ ack, packet = .regack (some ack)
  · obtain ⟨ack, rfl⟩ := hregack
    rw [clientPacket_regacked h]
    split
    · exact release_conserves client ack.msgId given
    · exact .of_keeps rfl (.unchanged client)
  have hsent : contents handled.clientSend = [] :=
    clientPacket_unpublished (fun ack heq => hregack ⟨ack, heq⟩) h
  cases hdrains : drains gw client packet with
  | true => exact .of_drained hsent (clientPacket_drained hdrains h).1
  | false =>
    by_cases hping : packet = .pingreq
    · subst hping
      obtain ⟨hclient, hevents⟩ := clientPacket_pingreq hdrains h
      refine .of_holding hsent (by rw [hclient]; rfl) ?_
      rcases hevents with hevents | hevents
      · rw [hevents]
        rfl
      · rw [hevents]
        rfl
    · refine .of_keeps hsent (clientPacket_kept hdrains hping ?_ h)
      cases packet with
      | regack data =>
        cases data with
        | none => rfl
        | some ack => exact absurd ⟨ack, rfl⟩ hregack
      | _ => rfl

theorem handleEvent_conserves {ev : Event} (hplain : (clients c).isAggregater = false)
    (h : PacketHandleTask.handleEvent gw ids clients ev = .done c handled) :
    Conserves (clients c) (ev.content c) handled := by
  cases ev with
  | broadcast => cases h
  | clientRecv d packet =>
    obtain ⟨rfl, hanswer⟩ := ofOption_done h
    obtain ⟨answer, hpacket, rfl⟩ := Option.map_eq_some_iff.mp hanswer
    exact (clientRecv_conserves _ hpacket).updateStatus packet
  | brokerRecv d packet =>
    by_cases htype : packet.getType = PUBLISH
    · obtain ⟨rfl, hanswer⟩ := brokerRecv_published htype h
      rw [hplain, if_neg Bool.false_ne_true] at hanswer
      rw [Event.content, if_pos rfl]
      exact handlePublish_conserves htype hanswer
    · exact .of_keeps (brokerRecv_unpublished htype h) (brokerRecv_other (.inr htype) h)

end Events

end MbedMqtt.MQTTSNGW
