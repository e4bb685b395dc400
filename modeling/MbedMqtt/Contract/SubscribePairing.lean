import MbedMqtt.Contract.SleepQueue
import MbedMqtt.Gateway.Identity
import MbedMqtt.Gateway.Quiet

namespace MbedMqtt.MQTTSNGW

open PacketHandleTask

def MQTTGWPacket.getTopic (packet : MQTTGWPacket) : Bytes :=
  if packet.getType = SUBSCRIBE ∨ packet.getType = UNSUBSCRIBE then
    (packet.data.drop 4).take (readInt packet.data 2)
  else []

inductive Filter where
  | long (name : TopicName)
  | short (first second : UInt8)
  | predefined (id : UInt16)
  deriving DecidableEq, Repr

def Filter.topicId (filter : Filter) (address : Nat) : TopicId :=
  match filter with
  | .long name => ⟨.normal, .long name address⟩
  | .short first second => ⟨.short, .shortName first second⟩
  | .predefined id => ⟨.predefined, .id id⟩

structure Forwards (type : Nat) (topic : Bytes) (c : Nat) (result : Result) : Prop where
  sent : ∃ handled packet, result = .done c handled ∧ handled.brokerSend = [packet] ∧
    packet.getType = type ∧ packet.getTopic = topic

def Resolves (client : Client) (filter : Filter) (address : Nat) : Prop :=
  match filter with
  | .long name => ∃ topic ∈ client.topics.getTopicById (filter.topicId address),
      topic.topicName = name.cString
  | _ => True

section Texts

theorem laid_getTopic {packet : MQTTGWPacket} {msgId : UInt16} {topic tail : Bytes}
    (htype : packet.getType = SUBSCRIBE ∨ packet.getType = UNSUBSCRIBE)
    (hdata : packet.data = writeInt msgId.toNat ++ writeCString topic ++ tail)
    (h : topic.length < 65536) : packet.getTopic = topic := by
  have hlaid : LaidAt packet.data 2 (writeCString topic) := by
    rw [hdata]
    exact LaidAt.within (writeInt msgId.toNat) tail (writeCString topic)
  obtain ⟨hlen, htext⟩ := LaidAt.append.mp hlaid
  rw [MQTTGWPacket.getTopic, if_pos htype, readInt_laidAt hlen, Nat.mod_eq_of_lt h]
  exact htext.slice

theorem setSUBSCRIBE_getTopic {topic : Bytes} (qos : QoS) (msgId : UInt16)
    (h : topic.length < 65536) :
    (MQTTGWPacket.setSUBSCRIBE topic qos msgId).getTopic = cStr topic :=
  laid_getTopic (.inl (setSUBSCRIBE_getType topic qos msgId)) rfl
    (Nat.lt_of_le_of_lt (List.takeWhile_prefix _).length_le h)

theorem setUNSUBSCRIBE_getTopic {topic : Bytes} (msgId : UInt16) (h : topic.length < 65536) :
    (MQTTGWPacket.setUNSUBSCRIBE topic msgId).getTopic = cStr topic :=
  laid_getTopic (.inr (setUNSUBSCRIBE_getType topic msgId)) (List.append_nil _).symm
    (Nat.lt_of_le_of_lt (List.takeWhile_prefix _).length_le h)

theorem Topic.cStr_name (topic : Topic) : cStr topic.topicName.bytes = topic.topicName.bytes :=
  congrArg TopicName.bytes topic.terminated

end Texts

section Tables

variable {before after : Topics} {topicid : TopicId} {topic : Topic}

theorem getTopicById_push {other : Topic} {next : UInt16}
    (h : before.getTopicById topicid = some topic) :
    (before.push other next).1.getTopicById topicid = some topic := by
  simp only [Topics.getTopicById, Topics.push, List.find?_append] at h ⊢
  rw [h, Option.some_or]

theorem getTopicById_addId {name : TopicName} {id : UInt16}
    (h : before.getTopicById topicid = some topic) :
    (before.addId name id).1.getTopicById topicid = some topic := by
  simp only [Topics.addId]
  split
  · exact h
  split
  · exact h
  split
  · exact getTopicById_push h
  · exact getTopicById_push h

theorem getTopicById_add {type : TopicType} {name : TopicName}
    (h : before.getTopicById topicid = some topic) :
    (before.add type name).1.getTopicById topicid = some topic := by
  simp only [Topics.add]
  split
  · exact h
  split
  · exact h
  · exact getTopicById_addId h

theorem getTopicById_eraseNormal (htype : topicid.type ≠ .normal)
    (h : before.getTopicById topicid = some topic) :
    before.eraseNormal.getTopicById topicid = some topic := by
  rw [← h, Topics.getTopicById, Topics.getTopicById, Topics.eraseNormal, List.find?_filter]
  congr 1
  funext p
  rw [decide_eq_decide, decide_eq_true_eq, decide_eq_true_eq]
  constructor
  · exact And.right
  · intro hp
    refine ⟨?_, hp⟩
    rw [hp.1]
    exact htype

theorem Evolves.getTopicById (hevolves : Evolves before after) (htype : topicid.type ≠ .normal)
    (h : before.getTopicById topicid = some topic) : after.getTopicById topicid = some topic := by
  induction hevolves with
  | refl => exact h
  | addId _ name id ih => exact getTopicById_addId ih
  | add _ type name ih => exact getTopicById_add ih
  | eraseNormal _ ih => exact getTopicById_eraseNormal htype ih

end Tables

section Runs

variable {gw : Gateway} {s : State}

theorem step_evolves (gw : Gateway) (s : State) (act : Act) (c : Nat) :
    Evolves (s.clients c).topics ((PacketHandleTask.step gw s act).clients c).topics :=
  step_client (R := fun client after => Evolves client.topics after.topics)
    (fun _ => .refl) (fun _ => .refl) (fun _ => .refl) handleEvent_evolves act c

theorem run_evolves (gw : Gateway) (s : State) (acts : List Act) (c : Nat) :
    Evolves (s.clients c).topics ((run gw s acts).clients c).topics := by
  induction acts generalizing s with
  | nil => exact .refl
  | cons act acts ih => exact (step_evolves gw s act c).trans (ih (step gw s act))

theorem run_identity (gw : Gateway) (s : State) (acts : List Act) (c : Nat) :
    ((run gw s acts).clients c).identity = (s.clients c).identity := by
  induction acts generalizing s with
  | nil => rfl
  | cons act acts ih => exact (ih (step gw s act)).trans (step_identity gw s act c)

end Runs

def Named (client : Client) (filter : Filter) (topic : Bytes) : Prop :=
  match filter with
  | .long name => topic = name.cString.bytes
  | .short first second => topic = cStr [first, second]
  | .predefined id => ∃ found, client.topics.getTopicById ⟨.predefined, .id id⟩ = some found ∧
      topic = found.topicName.bytes

section Subscribe

variable {gw : Gateway} {ids : MessageIds} {clients : Nat → Client} {c : Nat} {topic : Bytes}
  {packet : SNSubscribe} {filter : Filter} {address : Nat}

theorem transparent_done {request : MQTTSNPacket} {handled : Handled}
    (htransparent : isAggregatedClient gw (clients c) = false)
    (h : handleEvent gw ids clients (.clientRecv c request) = .done c handled) :
    ∃ answer, transparentClientPacket gw (clients c) request = some answer ∧
      answer.brokerSend = handled.brokerSend := by
  obtain ⟨-, hanswer⟩ := ofOption_done h
  obtain ⟨answer, hpacket, rfl⟩ := Option.map_eq_some_iff.mp hanswer
  refine ⟨answer, ?_, rfl⟩
  simpa only [clientPacket, htransparent, Bool.false_eq_true, if_false] using hpacket

theorem sendSubscribe_sent {client : Client} {topicId : UInt16} {text : Bytes} {sent : MQTTGWPacket}
    (h : (MQTTSNSubscribeHandler.sendSubscribe client packet topicId text).1.brokerSend = [sent]) :
    client.isAggregated = false ∧ sent = .setSUBSCRIBE text packet.qos packet.msgId := by
  simp only [MQTTSNSubscribeHandler.sendSubscribe] at h
  split_ifs at h with haggregated
  · exact absurd h (by simp [Handled.unchanged])
  · refine ⟨Bool.eq_false_of_not_eq_true haggregated, ?_⟩
    simpa [Handled.toBroker] using h.symm

theorem add_name {topics after : Topics} {name : TopicName} {found : Topic}
    (h : topics.add .normal name = (after, some found)) : found.topicName = name.cString := by
  simp only [Topics.add, ne_eq, not_true_eq_false, if_false] at h
  split at h
  · rename_i known hknown
    obtain ⟨-, rfl⟩ : topics = after ∧ known = found := by simpa using h
    rw [← known.terminated, Topics.getTopicByName_name hknown]
  · exact Topics.addId_name (congrArg Prod.snd h)

theorem handleSubscribe_sent {client : Client} {result : Handled × Option MQTTGWPacket}
    {sent : MQTTGWPacket} (hfilter : packet.topicFilter = filter.topicId address)
    (h : MQTTSNSubscribeHandler.handleSubscribe gw client (some packet) = some result)
    (hsent : result.1.brokerSend = [sent]) :
    client.isAggregated = false ∧ Named client filter sent.getTopic := by
  simp only [MQTTSNSubscribeHandler.handleSubscribe, hfilter] at h
  split at h
  · obtain rfl := Option.some.inj h
    exact absurd hsent (by simp [Handled.unchanged])
  cases filter with
  | long name =>
    simp only [Filter.topicId, Option.some.injEq] at h
    subst h
    unfold MQTTSNSubscribeHandler.subscribeNormal at hsent
    cases hadd : client.topics.add .normal name with
    | mk topics added =>
      cases added with
      | none => simp [hadd, Handled.unchanged] at hsent
      | some found =>
        simp only [hadd] at hsent
        obtain ⟨haggregated, rfl⟩ := sendSubscribe_sent hsent
        refine ⟨haggregated, ?_⟩
        rw [setSUBSCRIBE_getTopic _ _ found.topicName.bounded, found.cStr_name, add_name hadd]
        rfl
  | short first second =>
    simp only [Filter.topicId, Option.some.injEq] at h
    subst h
    obtain ⟨haggregated, rfl⟩ := sendSubscribe_sent hsent
    exact ⟨haggregated, setSUBSCRIBE_getTopic _ _ (by simp [TopicData.shortField])⟩
  | predefined id =>
    simp only [Filter.topicId] at h
    cases hfound : client.topics.getTopicById ⟨.predefined, .id id⟩ with
    | some found =>
      simp only [hfound, Option.some.injEq] at h
      subst h
      obtain ⟨haggregated, rfl⟩ := sendSubscribe_sent hsent
      refine ⟨haggregated, found, hfound, ?_⟩
      rw [setSUBSCRIBE_getTopic _ _ found.topicName.bounded, found.cStr_name]
    | none =>
      simp only [hfound] at h
      split at h
      · cases h
      · obtain rfl := Option.some.inj h
        exact absurd hsent (by simp [Handled.toClient])

theorem subscribe_named (htransparent : isAggregatedClient gw (clients c) = false)
    (hfilter : packet.topicFilter = filter.topicId address)
    (h : Forwards SUBSCRIBE topic c
      (handleEvent gw ids clients (.clientRecv c (.subscribe (some packet))))) :
    (clients c).isAggregated = false ∧ Named (clients c) filter topic := by
  obtain ⟨handled, sent, hdone, hsent, -, rfl⟩ := h.sent
  obtain ⟨answer, hanswer, hsame⟩ := transparent_done htransparent hdone
  obtain ⟨result, hresult, rfl⟩ := Option.map_eq_some_iff.mp hanswer
  exact handleSubscribe_sent hfilter hresult (hsame.trans hsent)

end Subscribe

section Unsubscribe

variable {gw : Gateway} {clients : Nat → Client} {c : Nat} {topic : Bytes}
  {packet : SNSubscribe} {filter : Filter} {address : Nat}

def unsubscribedTopic (client : Client) (topicFilter : TopicId) : Option Bytes :=
  if topicFilter.type = .short then some topicFilter.data.shortField
  else (client.topics.getTopicById topicFilter).map (·.topicName.bytes)

theorem unsubscribedTopic_bounded {client : Client} {topicFilter : TopicId} {text : Bytes}
    (h : unsubscribedTopic client topicFilter = some text) : text.length < 65536 := by
  unfold unsubscribedTopic at h
  split_ifs at h
  · obtain rfl := Option.some.inj h
    cases topicFilter.data <;> simp [TopicData.shortField]
  · obtain ⟨found, -, rfl⟩ := Option.map_eq_some_iff.mp h
    exact found.topicName.bounded

theorem handleUnsubscribe_sent {client : Client} (haggregated : client.isAggregated = false) :
    (MQTTSNSubscribeHandler.handleUnsubscribe client (some packet)).1.brokerSend =
      if packet.msgId = 0 then []
      else ((unsubscribedTopic client packet.topicFilter).map fun text =>
        MQTTGWPacket.setUNSUBSCRIBE text packet.msgId).toList := by
  simp only [MQTTSNSubscribeHandler.handleUnsubscribe]
  split
  · rfl
  · cases htext : unsubscribedTopic client packet.topicFilter with
    | none =>
      rw [unsubscribedTopic] at htext
      simp only [htext]
      rfl
    | some text =>
      rw [unsubscribedTopic] at htext
      simp only [htext, haggregated]
      rfl

theorem unsubscribe_forwards_iff (gw : Gateway) (ids : MessageIds)
    (htransparent : isAggregatedClient gw (clients c) = false)
    (haggregated : (clients c).isAggregated = false) :
    Forwards UNSUBSCRIBE topic c
      (handleEvent gw ids clients (.clientRecv c (.unsubscribe (some packet)))) ↔
    packet.msgId ≠ 0 ∧ ∃ text, unsubscribedTopic (clients c) packet.topicFilter = some text ∧
      cStr text = topic := by
  have hsent := @handleUnsubscribe_sent packet (clients c) haggregated
  have hpacket : clientPacket gw ids (clients c) (.unsubscribe (some packet)) =
      some (MQTTSNSubscribeHandler.handleUnsubscribe (clients c) (some packet)).1 := by
    rw [clientPacket, htransparent]
    rfl
  have hdone : ∃ handled, handleEvent gw ids clients (.clientRecv c (.unsubscribe (some packet))) =
      .done c handled ∧ handled.brokerSend =
        (MQTTSNSubscribeHandler.handleUnsubscribe (clients c) (some packet)).1.brokerSend :=
    ⟨_, handleEvent_clientRecv hpacket, rfl⟩
  obtain ⟨handled, hhandled, hbroker⟩ := hdone
  rw [hsent] at hbroker
  constructor
  · intro h
    obtain ⟨other, sent, hother, hone, -, rfl⟩ := h.sent
    obtain ⟨-, rfl⟩ := Result.done.inj (hhandled.symm.trans hother)
    rw [hone] at hbroker
    split_ifs at hbroker with hzero
    refine ⟨hzero, ?_⟩
    cases htext : unsubscribedTopic (clients c) packet.topicFilter with
    | none => simp [htext] at hbroker
    | some text =>
      simp only [htext, Option.map_some, Option.toList_some, List.cons.injEq, and_true] at hbroker
      rw [hbroker]
      exact ⟨text, rfl, (setUNSUBSCRIBE_getTopic _ (unsubscribedTopic_bounded htext)).symm⟩
  · rintro ⟨hid, text, htext, rfl⟩
    rw [if_neg hid, htext] at hbroker
    exact ⟨handled, _, hhandled, hbroker, setUNSUBSCRIBE_getType _ _,
      setUNSUBSCRIBE_getTopic _ (unsubscribedTopic_bounded htext)⟩

theorem unsubscribedTopic_iff {before client : Client} (hnamed : Named before filter topic)
    (hevolves : Evolves before.topics client.topics) :
    (∃ text, unsubscribedTopic client (filter.topicId address) = some text ∧ cStr text = topic) ↔
      Resolves client filter address := by
  cases filter with
  | long name =>
    obtain rfl : topic = name.cString.bytes := hnamed
    constructor
    · rintro ⟨text, htext, hsame⟩
      obtain ⟨found, hfound, rfl⟩ := Option.map_eq_some_iff.mp htext
      rw [found.cStr_name] at hsame
      exact ⟨found, hfound, by rw [TopicName.mk.injEq]; exact hsame⟩
    · rintro ⟨found, hfound, hname⟩
      refine ⟨found.topicName.bytes, ?_, ?_⟩
      · simp only [unsubscribedTopic, Filter.topicId, reduceCtorEq, if_false]
        rw [show client.topics.getTopicById ⟨.normal, .long name address⟩ = some found from hfound]
        rfl
      · rw [found.cStr_name, hname]
  | short first second =>
    obtain rfl : topic = cStr [first, second] := hnamed
    exact iff_of_true ⟨[first, second], rfl, rfl⟩ trivial
  | predefined id =>
    obtain ⟨found, hfound, rfl⟩ := hnamed
    have htype : TopicType.predefined ≠ .normal := by decide
    have hstill := hevolves.getTopicById htype hfound
    refine iff_of_true ⟨found.topicName.bytes, ?_, found.cStr_name⟩ trivial
    simp only [unsubscribedTopic, Filter.topicId, reduceCtorEq, if_false, hstill, Option.map_some]

end Unsubscribe

structure Subscribed (gw : Gateway) (ids : MessageIds) (s : State) (c : Nat) (filter : Filter)
    (topic : Bytes) : Prop where
  running : s.fault = false
  transparent : isAggregatedClient gw (s.clients c) = false
  forwarded : ∃ packet address rest,
    s.packetEventQue.items = .clientRecv c (.subscribe (some packet)) :: rest ∧
    packet.topicFilter = filter.topicId address ∧
    Forwards SUBSCRIBE topic c (handleEvent gw ids s.clients (.clientRecv c (.subscribe (some packet))))

theorem unsubscribe_paired_iff (gw : Gateway) (ids later : MessageIds) (s : State) (c : Nat)
    (filter : Filter) (topic : Bytes) (acts : List Act) (packet : SNSubscribe) (address : Nat)
    (h : Subscribed gw ids s c filter topic) (hfilter : packet.topicFilter = filter.topicId address) :
    let after := run gw (step gw s (.handle ids)) acts
    Forwards UNSUBSCRIBE topic c
        (handleEvent gw later after.clients (.clientRecv c (.unsubscribe (some packet)))) ↔
      packet.msgId ≠ 0 ∧ Resolves (after.clients c) filter address := by
  intro after
  obtain ⟨request, place, rest, -, hrequest, hforwards⟩ := h.forwarded
  obtain ⟨haggregated, hnamed⟩ := subscribe_named h.transparent hrequest hforwards
  have hidentity : (after.clients c).identity = (s.clients c).identity :=
    run_identity gw s (.handle ids :: acts) c
  have hevolves : Evolves (s.clients c).topics (after.clients c).topics :=
    run_evolves gw s (.handle ids :: acts) c
  have htransparent : isAggregatedClient gw (after.clients c) = false :=
    (isAggregatedClient_of_identity gw hidentity).trans h.transparent
  have hplain : (after.clients c).isAggregated = false :=
    (isAggregated_of_identity hidentity).trans haggregated
  rw [unsubscribe_forwards_iff gw later htransparent hplain, hfilter,
    unsubscribedTopic_iff hnamed hevolves]

def topicAB : TopicName := ⟨[0x61, 0x2f, 0x62], by decide⟩

def subscribeAB : SNSubscribe := ⟨false, .QOS1, 1, (Filter.long topicAB).topicId 0x5010⟩

def unsubscribeAB (address : Nat) : SNSubscribe :=
  ⟨false, .QOS0, 2, (Filter.long topicAB).topicId address⟩

def subscribing : State :=
  run bareGateway (initial freshClients) (arrives (.clientRecv 0 (.connect (some ⟨false, false, 0⟩))) ++
    arrives (.brokerRecv 0 ⟨0x20, 2, [0, 0]⟩) ++ [.post (.clientRecv 0 (.subscribe (some subscribeAB)))])

def sentToBroker (result : Result) : List MQTTGWPacket :=
  match result with
  | .done _ handled => handled.brokerSend
  | _ => []

theorem subscribed_ab : Subscribed bareGateway noIds subscribing 0 (.long topicAB) topicAB.bytes where
  running := by decide +kernel
  transparent := by decide +kernel
  forwarded := ⟨subscribeAB, 0x5010, [], by decide +kernel, rfl,
    ⟨_, .setSUBSCRIBE topicAB.bytes .QOS1 1, rfl, by decide +kernel, by decide +kernel,
      by decide +kernel⟩⟩

def subscribedAB : State :=
  run bareGateway (step bareGateway subscribing (.handle noIds))
    (arrives (.brokerRecv 0 ⟨0x90, 3, [0, 1, 1]⟩))

theorem unsubscribe_paired_aliased : Forwards UNSUBSCRIBE topicAB.bytes 0
    (handleEvent bareGateway noIds subscribedAB.clients
      (.clientRecv 0 (.unsubscribe (some (unsubscribeAB 0x10001))))) :=
  (unsubscribe_paired_iff bareGateway noIds noIds subscribing 0 (.long topicAB) topicAB.bytes
    (arrives (.brokerRecv 0 ⟨0x90, 3, [0, 1, 1]⟩)) (unsubscribeAB 0x10001) 0x10001 subscribed_ab rfl).mpr
    ⟨by decide, ⟨⟨.normal, 1, topicAB, by decide⟩, by decide +kernel, by decide⟩⟩

theorem unsubscribe_unpaired : Subscribed bareGateway noIds subscribing 0 (.long topicAB) topicAB.bytes ∧
    ¬Forwards UNSUBSCRIBE topicAB.bytes 0 (handleEvent bareGateway noIds subscribedAB.clients
      (.clientRecv 0 (.unsubscribe (some (unsubscribeAB 0x5010))))) := by
  refine ⟨subscribed_ab, ?_⟩
  intro h
  obtain ⟨handled, packet, hdone, hsent, -⟩ := h.sent
  have hnothing : sentToBroker (handleEvent bareGateway noIds subscribedAB.clients
      (.clientRecv 0 (.unsubscribe (some (unsubscribeAB 0x5010))))) = [] := by decide +kernel
  rw [hdone, sentToBroker, hsent] at hnothing
  exact absurd hnothing (by simp)

end MbedMqtt.MQTTSNGW
