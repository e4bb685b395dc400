import MbedMqtt.Gateway.Effects

namespace MbedMqtt.MQTTSNGW

structure Pinged (client : Client) (handled : Handled) : Prop where
  stored : handled.client.clientSleepPacketQue = client.clientSleepPacketQue
  waiting : handled.client.waitREGACKList = client.waitREGACKList
  hold : handled.client.holdPingRequest = false
  events : handled.packetEvents = [] ∨ handled.packetEvents = [.setHeader PINGRESP]
  sound : client.topics.Sound → handled.client.topics.Sound

structure Released (client : Client) (handled : Handled) : Prop where
  stored : handled.client.clientSleepPacketQue = client.clientSleepPacketQue
  waiting : handled.client.waitREGACKList.list.Sublist client.waitREGACKList.list
  hold : handled.client.holdPingRequest = false ∨ handled.client.waitREGACKList.list ≠ []
  events : handled.packetEvents = []
  sound : client.topics.Sound → handled.client.topics.Sound

structure Saved (client : Client) (packet : MQTTGWPacket) (handled : Handled) : Prop where
  stored : handled.client.clientSleepPacketQue = client.clientSleepPacketQue.post packet
  waiting : handled.client.waitREGACKList = client.waitREGACKList
  hold : handled.client.holdPingRequest = client.holdPingRequest
  events : handled.packetEvents = []
  replies : handled.brokerSend = (MQTTGWPublishHandler.acknowledge client packet.getPUBLISH).brokerSend
  sound : client.topics.Sound → handled.client.topics.Sound

def registers (client : Client) (pub : Publish) : Bool :=
  2 < pub.topiclen && (client.topics.getTopicByName pub.name).isNone &&
    (client.topics.matchTopic .normal pub.name).isSome

structure Delivered (client : Client) (packet : MQTTGWPacket) (handled : Handled) : Prop where
  stored : handled.client.clientSleepPacketQue = client.clientSleepPacketQue
  waiting : client.waitREGACKList.list <+: handled.client.waitREGACKList.list
  registered : client.topics.Sound → registers client packet.getPUBLISH = true →
    handled.client.waitREGACKList.list ≠ []
  unregistered : registers client packet.getPUBLISH = false →
    handled.client.waitREGACKList = client.waitREGACKList
  hold : handled.client.holdPingRequest = client.holdPingRequest
  events : handled.packetEvents = []
  sound : client.topics.Sound → handled.client.topics.Sound

section Effects

variable {client : Client} {packet : MQTTGWPacket} {handled : Handled}

theorem Keeps.delivered (h : Keeps client handled) (hnew : registers client packet.getPUBLISH = false) :
    Delivered client packet handled where
  stored := h.same.stored
  waiting := by simp only [h.same.waiting, List.prefix_rfl]
  registered := by simp [hnew]
  unregistered _ := h.same.waiting
  hold := h.same.hold
  events := h.events
  sound := h.same.sound

theorem handleAwake_delivered
    (h : MQTTGWPublishHandler.handleAwake client packet.getPUBLISH = some handled) :
    Delivered client packet handled := by
  rcases MQTTGWPublishHandler.handleAwake_cases h with ⟨hshort, rfl⟩ | ⟨-, tp, hname, rfl⟩ |
    ⟨hlong, hname, ⟨hmatch, rfl⟩ | ⟨hmatch, topics, topic, hadd, ⟨-, rfl⟩ | ⟨hzero, rfl⟩⟩⟩
  · exact (Keeps.toClient client _).delivered (by simp [registers, Nat.not_lt.mpr hshort])
  · exact (Keeps.toClient client _).delivered (by simp [registers, hname])
  · exact (Keeps.acknowledge packet.getPUBLISH).delivered (by simp [registers, hmatch])
  · have hregisters : registers client packet.getPUBLISH = true := by
      simp [registers, hlong, hname, Option.isSome_iff_ne_none.mpr hmatch]
    refine ⟨rfl, List.prefix_append _ _, ?_, ?_, rfl, rfl, Keeps.add_sound hadd⟩
    · intro _ _
      exact List.append_ne_nil_of_right_ne_nil _ (List.cons_ne_nil _ _)
    · intro hnew
      exact absurd (hregisters.symm.trans hnew) Bool.noConfusion
  · refine ⟨rfl, List.prefix_rfl, ?_, fun _ => rfl, rfl, rfl, Keeps.add_sound hadd⟩
    intro hsound _
    exact absurd hzero (hsound.added_ne_zero hadd)

theorem release_released (client : Client) (msgId : UInt16) :
    Released client
      (MQTTSNPublishHandler.releasePing (MQTTSNPublishHandler.release client msgId)) := by
  have hstored : (MQTTSNPublishHandler.release client msgId).client.clientSleepPacketQue =
      client.clientSleepPacketQue ∧
      (MQTTSNPublishHandler.release client msgId).client.waitREGACKList.list.Sublist
        client.waitREGACKList.list ∧
      (MQTTSNPublishHandler.release client msgId).packetEvents = [] ∧
      (MQTTSNPublishHandler.release client msgId).client.topics = client.topics := by
    unfold MQTTSNPublishHandler.release
    split
    · exact ⟨rfl, List.eraseP_sublist, rfl, rfl⟩
    · exact ⟨rfl, List.Sublist.refl _, rfl, rfl⟩
  obtain ⟨hstored, hwaiting, hevents, htopics⟩ := hstored
  generalize MQTTSNPublishHandler.release client msgId = handled at *
  simp only [MQTTSNPublishHandler.releasePing]
  split_ifs with hreset
  · exact ⟨hstored, hwaiting, .inl rfl, hevents, fun h => htopics ▸ h⟩
  · refine ⟨hstored, hwaiting, ?_, hevents, fun h => htopics ▸ h⟩
    by_contra hheld
    rw [not_or, not_ne_iff, Bool.not_eq_false] at hheld
    apply hreset
    simp [hheld.1, WaitREGACKPacketList.getCount, hheld.2]

end Effects

section Status

variable {client after : Client} {handled : Handled}

theorem Keeps.then (h : Keeps client handled) (hsame : Same handled.client after) :
    Keeps client { handled with client := after } := ⟨h.same.trans hsame, h.events⟩

theorem Drained.then (h : Drained client handled) (hsame : Same handled.client after) :
    Drained client { handled with client := after } where
  stored := hsame.stored.trans h.stored
  waiting := hsame.waiting.trans h.waiting
  events := h.events
  sound hs := hsame.sound (h.sound hs)

theorem Pinged.then (h : Pinged client handled) (hsame : Same handled.client after) :
    Pinged client { handled with client := after } where
  stored := hsame.stored.trans h.stored
  waiting := hsame.waiting.trans h.waiting
  hold := hsame.hold.trans h.hold
  events := h.events
  sound hs := hsame.sound (h.sound hs)

theorem Released.then (h : Released client handled) (hsame : Same handled.client after) :
    Released client { handled with client := after } where
  stored := hsame.stored.trans h.stored
  waiting := by simpa only [hsame.waiting] using h.waiting
  hold := by simpa only [hsame.waiting, hsame.hold] using h.hold
  events := h.events
  sound hs := hsame.sound (h.sound hs)

end Status

inductive Role where
  | drain
  | ping
  | regack
  | save
  | publish
  | other
  deriving DecidableEq, Repr

def role (gw : Gateway) (clients : Nat → Client) : Event → Role
  | .clientRecv c packet =>
      if drains gw (clients c) packet then .drain
      else if packet = .pingreq then .ping
      else if regacks (clients c) packet then .regack
      else .other
  | .brokerRecv c packet =>
      if (clients c).isAggregater || packet.getType ≠ PUBLISH then .other
      else if (clients c).isSleep then .save
      else if (clients c).isActive || (clients c).isAwake then .publish
      else .other
  | .broadcast => .other

def Effect (clients : Nat → Client) (ev : Event) (c : Nat) (handled : Handled) : Role → Prop
  | .drain => ∃ packet, ev = .clientRecv c packet ∧ Drained (clients c) handled ∧
      handled.client.holdPingRequest = ((clients c).holdPingRequest || packet = .pingreq)
  | .ping => ev = .clientRecv c .pingreq ∧ Pinged (clients c) handled
  | .regack => ∃ packet, ev = .clientRecv c packet ∧ Released (clients c) handled
  | .save => ∃ packet, ev = .brokerRecv c packet ∧ Saved (clients c) packet handled
  | .publish => ∃ packet, ev = .brokerRecv c packet ∧ Delivered (clients c) packet handled
  | .other => Keeps (clients c) handled

section Events

variable {gw : Gateway} {ids : MessageIds} {clients : Nat → Client} {ev : Event} {c target : Nat}
  {handled : Handled}

theorem role_drain {packet : MQTTSNPacket} : role gw clients (.clientRecv c packet) = .drain ↔
    drains gw (clients c) packet = true := by
  simp only [role]
  split_ifs with hdrains
  · simp [hdrains]
  · simp [hdrains]
  · simp [hdrains]
  · simp [hdrains]

theorem ofOption_done {answer : Option Handled}
    (h : PacketHandleTask.Result.ofOption c answer = .done target handled) :
    target = c ∧ answer = some handled := by
  cases answer with
  | none => cases h
  | some answer =>
    cases h
    exact ⟨rfl, rfl⟩

theorem ofOption_ne_nothing (answer : Option Handled) :
    PacketHandleTask.Result.ofOption c answer ≠ .nothing := by
  cases answer with
  | none => nofun
  | some handled => nofun

theorem handleEvent_nothing (h : PacketHandleTask.handleEvent gw ids clients ev = .nothing) :
    ev = .broadcast := by
  cases ev with
  | broadcast => rfl
  | clientRecv c packet => exact absurd h (ofOption_ne_nothing _)
  | brokerRecv c packet =>
    simp only [PacketHandleTask.handleEvent] at h
    split at h
    · cases h
    · exact absurd h (ofOption_ne_nothing _)

theorem clientRecv_effect {packet : MQTTSNPacket}
    (h : PacketHandleTask.handleEvent gw ids clients (.clientRecv c packet) = .done target handled) :
    Effect clients (.clientRecv c packet) target handled (role gw clients (.clientRecv c packet)) := by
  obtain ⟨rfl, hanswer⟩ := ofOption_done h
  obtain ⟨answer, hpacket, rfl⟩ := Option.map_eq_some_iff.mp hanswer
  have hsame := Same.updateStatus answer.client packet
  simp only [role]
  split_ifs with hdrains hping hregack
  · obtain ⟨hdrained, hhold⟩ := clientPacket_drained hdrains hpacket
    exact ⟨packet, rfl, hdrained.then hsame, hsame.hold.trans hhold⟩
  · subst hping
    obtain ⟨hclient, hevents⟩ := clientPacket_pingreq (by simpa using hdrains) hpacket
    have hpinged : Pinged (clients target) answer := by
      refine ⟨?_, ?_, ?_, hevents, ?_⟩ <;> rw [hclient]
      exact id
    exact ⟨rfl, hpinged.then hsame⟩
  · obtain ⟨msgId, rfl⟩ := clientPacket_regack hregack hpacket
    exact ⟨packet, rfl, (release_released _ msgId).then hsame⟩
  · exact (clientPacket_kept (by simpa using hdrains) hping (by simpa using hregack) hpacket).then hsame

theorem brokerRecv_publish {packet : MQTTGWPacket} (hagg : (clients c).isAggregater = false)
    (htype : packet.getType = PUBLISH) :
    PacketHandleTask.handleEvent gw ids clients (.brokerRecv c packet) =
      .ofOption c (MQTTGWPublishHandler.handlePublish (clients c) packet) := by
  simp [PacketHandleTask.handleEvent, hagg, PacketHandleTask.transparentBrokerPacket, htype]

theorem handlePublish_saved {client : Client} (packet : MQTTGWPacket) (h : client.isSleep = true) :
    ∃ handled, MQTTGWPublishHandler.handlePublish client packet = some handled ∧
      Saved client packet handled := by
  have hhandled : MQTTGWPublishHandler.handlePublish client packet =
      some { MQTTGWPublishHandler.acknowledge client packet.getPUBLISH with
        client := client.setClientSleepPacket packet } := by
    simp [MQTTGWPublishHandler.handlePublish, h]
  refine ⟨_, hhandled, rfl, rfl, rfl, ?_, rfl, id⟩
  exact MQTTGWPublishHandler.acknowledge_packetEvents client packet.getPUBLISH

theorem brokerRecv_other {packet : MQTTGWPacket}
    (hother : (clients c).isAggregater = true ∨ packet.getType ≠ PUBLISH)
    (h : PacketHandleTask.handleEvent gw ids clients (.brokerRecv c packet) = .done target handled) :
    Keeps (clients target) handled := by
  simp only [PacketHandleTask.handleEvent] at h
  split at h
  · cases h
    exact .aggregateBrokerPacket clients c packet
  · rename_i hagg
    obtain ⟨rfl, hanswer⟩ := ofOption_done h
    exact .transparentBrokerPacket (hother.resolve_left hagg) hanswer

theorem brokerRecv_effect {packet : MQTTGWPacket}
    (h : PacketHandleTask.handleEvent gw ids clients (.brokerRecv c packet) = .done target handled) :
    Effect clients (.brokerRecv c packet) target handled (role gw clients (.brokerRecv c packet)) := by
  simp only [role]
  split
  · rename_i hother
    exact brokerRecv_other (by simpa using hother) h
  · rename_i hother
    simp only [Bool.or_eq_true, decide_eq_true_eq, not_or, Bool.not_eq_true, not_not] at hother
    rw [brokerRecv_publish hother.1 hother.2] at h
    obtain ⟨rfl, hanswer⟩ := ofOption_done h
    split_ifs with hsleep hawake
    · obtain ⟨saved, hsaved, hstored⟩ := handlePublish_saved packet hsleep
      obtain rfl := Option.some.inj (hsaved.symm.trans hanswer)
      exact ⟨packet, rfl, hstored⟩
    · have hdirect : MQTTGWPublishHandler.handlePublish (clients target) packet =
          MQTTGWPublishHandler.handleAwake (clients target) packet.getPUBLISH := by
        rw [MQTTGWPublishHandler.handlePublish, if_neg, if_neg hsleep]
        simp only [Bool.or_eq_true] at hawake
        rcases hawake with hactive | hawake
        · simp [hactive]
        · simp [hawake]
      exact ⟨packet, rfl, handleAwake_delivered (hdirect.symm.trans hanswer)⟩
    · simp only [Bool.not_eq_true, Bool.or_eq_false_iff] at hsleep hawake
      rw [MQTTGWPublishHandler.handlePublish, if_pos (by simp [hsleep, hawake])] at hanswer
      obtain rfl := Option.some.inj hanswer
      exact .unchanged _

theorem handleEvent_effect
    (h : PacketHandleTask.handleEvent gw ids clients ev = .done target handled) :
    Effect clients ev target handled (role gw clients ev) := by
  cases ev with
  | clientRecv c packet => exact clientRecv_effect h
  | brokerRecv c packet => exact brokerRecv_effect h
  | broadcast => cases h

end Events

end MbedMqtt.MQTTSNGW
