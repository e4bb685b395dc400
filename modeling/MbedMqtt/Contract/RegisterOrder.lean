import MbedMqtt.Gateway.PacketHandleTask
import MbedMqtt.Gateway.TopicTable
import MbedMqtt.Library.KeyedOrder
import MbedMqtt.Library.Steps

namespace MbedMqtt.MQTTSNGW

structure BrokerPublish where
  packet : MQTTGWPacket
  isPublish : packet.getType = PUBLISH
  whole : packet.getPUBLISH.topiclen ≤ packet.getPUBLISH.topic.length
  text : packet.getPUBLISH.name.cString = packet.getPUBLISH.name

def topicOf (packet : MQTTGWPacket) : TopicName := packet.getPUBLISH.name

theorem topicOf_length (publish : BrokerPublish) :
    (topicOf publish.packet).bytes.length = publish.packet.getPUBLISH.topiclen :=
  List.length_take_of_le publish.whole

inductive Input where
  | publish (publish : BrokerPublish)
  | regack (ack : SNAck)

def respond (client : Client) : Input → Option Handled
  | .publish publish => MQTTGWPublishHandler.handlePublish client publish.packet
  | .regack ack => some (MQTTSNPublishHandler.handleRegAck client (some ack))

theorem handleEvent_publish (gw : Gateway) (ids : MessageIds) (clients : Nat → Client) (c : Nat)
    (h : (clients c).isAggregater = false) (publish : BrokerPublish) :
    PacketHandleTask.handleEvent gw ids clients (.brokerRecv c publish.packet) =
      .ofOption c (respond (clients c) (.publish publish)) := by
  have htype := publish.isPublish
  simp [PacketHandleTask.handleEvent, h, PacketHandleTask.transparentBrokerPacket, htype, respond]

theorem handleEvent_regack (gw : Gateway) (ids : MessageIds) (clients : Nat → Client) (c : Nat)
    (h : (clients c).isActive = true) (ack : SNAck) :
    PacketHandleTask.handleEvent gw ids clients (.clientRecv c (.regack (some ack))) =
      .ofOption c (respond (clients c) (.regack ack)) := by
  have hclient : PacketHandleTask.clientPacket gw ids (clients c) (.regack (some ack)) =
      some (MQTTSNPublishHandler.handleRegAck (clients c) (some ack)) := by
    unfold PacketHandleTask.clientPacket
    split
    · rfl
    · rfl
  have hstatus : (clients c).status = .active := by simpa [Client.isActive] using h
  simp [PacketHandleTask.handleEvent, hclient, respond, Client.updateStatus, hstatus,
    Client.updateActive]

structure Outstanding where
  msgId : UInt16
  topicId : UInt16
  publish : MQTTGWPacket
  deriving DecidableEq, Repr

structure Observed where
  arrived : List MQTTGWPacket
  sent : List MQTTGWPacket
  outstanding : List Outstanding
  violated : Bool
  deriving DecidableEq, Repr

namespace Observed

def unanswered (seen : Observed) (topic : TopicId) : Bool :=
  topic.type = .normal && seen.outstanding.any (·.topicId = topic.data.idField)

def send (seen : Observed) (origin : MQTTGWPacket) (publish : SNPublish) : Observed :=
  { seen with
    sent := seen.sent ++ [origin]
    violated := seen.violated || seen.unanswered publish.topic ||
      .publish (some publish) ≠ MQTTGWPublishHandler.snPublish origin.getPUBLISH publish.topic }

def output (origin : Option MQTTGWPacket) (seen : Observed) : MQTTSNPacket → Observed
  | .register (some request) =>
      match origin with
      | some packet =>
          { seen with
            outstanding := seen.outstanding ++ [⟨request.msgId, request.topicId, packet⟩] }
      | none => { seen with violated := true }
  | .publish (some publish) =>
      match origin with
      | some packet => seen.send packet publish
      | none => { seen with violated := true }
  | _ => seen

def input (seen : Observed) : Input → Observed × Option MQTTGWPacket
  | .publish publish =>
      ({ seen with arrived := seen.arrived ++ [publish.packet] }, some publish.packet)
  | .regack ack =>
      ({ seen with outstanding := seen.outstanding.eraseP (·.msgId = ack.msgId) },
        (seen.outstanding.find? (·.msgId = ack.msgId)).map (·.publish))

def note (seen : Observed) (given : Input) (answers : List MQTTSNPacket) : Observed :=
  answers.foldl (output (seen.input given).2) (seen.input given).1

end Observed

structure Watched where
  client : Client
  seen : Observed
  fault : Bool

def Watched.start (client : Client) : Watched := ⟨client, ⟨[], [], [], false⟩, false⟩

def watch (w : Watched) (given : Input) : Watched :=
  if w.fault then w
  else
    match respond w.client given with
    | none => { w with fault := true }
    | some handled => ⟨handled.client, w.seen.note given handled.clientSend, false⟩

structure RegisteredInOrder (seen : Observed) : Prop where
  answered : seen.violated = false
  ordered : KeyedOrder.Follows topicOf seen.arrived seen.sent

def Unparked (w : Watched) : Input → Prop
  | .publish publish =>
      w.fault = false → ∀ entry ∈ w.seen.outstanding, topicOf entry.publish ≠ topicOf publish.packet
  | .regack _ => True

instance (w : Watched) (given : Input) : Decidable (Unparked w given) :=
  match given with
  | .publish publish =>
      inferInstanceAs (Decidable (w.fault = false →
        ∀ entry ∈ w.seen.outstanding, topicOf entry.publish ≠ topicOf publish.packet))
  | .regack _ => .isTrue trivial

def Outstanding.parked (entry : Outstanding) : WaitREGACKPacket :=
  ⟨entry.msgId, MQTTGWPublishHandler.snPublish entry.publish.getPUBLISH ⟨.normal, .id entry.topicId⟩⟩

def Registered (topics : Topics) (entry : Outstanding) : Prop :=
  ∃ topic, topics.getTopicByName (topicOf entry.publish) = some topic ∧ topic.type = .normal ∧
    topic.topicId = entry.topicId

structure Tracked (client : Client) (seen : Observed) : Prop where
  active : client.isActive = true
  sound : client.topics.Sound
  clean : seen.violated = false
  parked : client.waitREGACKList.list = seen.outstanding.map Outstanding.parked
  known : ∀ entry ∈ seen.outstanding, Registered client.topics entry
  long : ∀ entry ∈ seen.outstanding, 2 < (topicOf entry.publish).bytes.length
  apart : seen.outstanding.Pairwise fun early late => topicOf early.publish ≠ topicOf late.publish
  ordered : KeyedOrder.Follows topicOf seen.arrived
    (seen.sent ++ seen.outstanding.map (·.publish))

section Observer

variable {seen : Observed} {origin : MQTTGWPacket} {topic : TopicId}

theorem output_snPublish (seen : Observed) (origin : MQTTGWPacket) (topic : TopicId) :
    Observed.output (some origin) seen (MQTTGWPublishHandler.snPublish origin.getPUBLISH topic) =
      { seen with
        sent := seen.sent ++ [origin]
        violated := seen.violated || seen.unanswered topic } := by
  simp [Observed.output, Observed.send, MQTTGWPublishHandler.snPublish]

theorem unanswered_eq_false
    (h : topic.type = .normal → ∀ entry ∈ seen.outstanding, entry.topicId ≠ topic.data.idField) :
    seen.unanswered topic = false := by
  simp only [Observed.unanswered, Bool.and_eq_false_iff, decide_eq_false_iff_not, List.any_eq_false,
    decide_eq_true_eq]
  by_cases htype : topic.type = .normal
  · exact .inr (h htype)
  · exact .inl htype

theorem note_publish (seen : Observed) (publish : BrokerPublish) (answer : MQTTSNPacket) :
    seen.note (.publish publish) [answer] =
      Observed.output (some publish.packet)
        { seen with arrived := seen.arrived ++ [publish.packet] } answer := rfl

end Observer

namespace Tracked

variable {client : Client} {seen : Observed} {publish : BrokerPublish}

theorem direct (h : Tracked client seen) {topic : TopicId}
    (hfree : ∀ entry ∈ seen.outstanding, topicOf entry.publish ≠ topicOf publish.packet)
    (hanswered : seen.unanswered topic = false) :
    Tracked client (seen.note (.publish publish)
      [MQTTGWPublishHandler.snPublish publish.packet.getPUBLISH topic]) := by
  rw [note_publish, output_snPublish]
  exact
    { active := h.active
      sound := h.sound
      clean := Bool.or_eq_false_iff.mpr ⟨h.clean, hanswered⟩
      parked := h.parked
      known := h.known
      long := h.long
      apart := h.apart
      ordered := h.ordered.send (by simpa using hfree) }

theorem answered_of_found (h : Tracked client seen) {topic : Topic}
    (hfree : ∀ entry ∈ seen.outstanding, topicOf entry.publish ≠ topicOf publish.packet)
    (hfound : client.topics.getTopicByName (topicOf publish.packet) = some topic) :
    seen.unanswered ⟨topic.type, .id topic.topicId⟩ = false := by
  apply unanswered_eq_false
  intro htype entry hentry hid
  obtain ⟨other, hother, hothertype, hotherid⟩ := h.known entry hentry
  have hsame : other = topic := h.sound.normal_inj (List.mem_of_find?_eq_some hother)
    (List.mem_of_find?_eq_some hfound) hothertype htype (by rw [hotherid, hid]; rfl)
  apply hfree entry hentry
  rw [← Topics.getTopicByName_name hother, hsame, Topics.getTopicByName_name hfound]

theorem dropped (h : Tracked client seen) : Tracked client (seen.note (.publish publish) []) where
  active := h.active
  sound := h.sound
  clean := h.clean
  parked := h.parked
  known := h.known
  long := h.long
  apart := h.apart
  ordered := h.ordered.drop

def requested (client : Client) (publish : BrokerPublish) (id : UInt16) : Outstanding :=
  ⟨UInt16.ofNat (Client.getNextSnMsgId client.snMsgId).toNat, id, publish.packet⟩

theorem note_register (seen : Observed) (client : Client) (publish : BrokerPublish) (topics : Topics)
    (id : UInt16) :
    seen.note (.publish publish)
        (MQTTGWPublishHandler.register client publish.packet.getPUBLISH topics id).clientSend =
      { seen with
        arrived := seen.arrived ++ [publish.packet]
        outstanding := seen.outstanding ++ [requested client publish id] } := rfl

theorem register (h : Tracked client seen) {topics : Topics} {topic : Topic}
    (hfree : ∀ entry ∈ seen.outstanding, topicOf entry.publish ≠ topicOf publish.packet)
    (hlong : 2 < publish.packet.getPUBLISH.topiclen)
    (hnew : client.topics.getTopicByName (topicOf publish.packet) = none)
    (hadd : client.topics.add .normal (topicOf publish.packet) = (topics, some topic)) :
    Tracked (MQTTGWPublishHandler.register client publish.packet.getPUBLISH topics topic.topicId).client
      (seen.note (.publish publish)
        (MQTTGWPublishHandler.register client publish.packet.getPUBLISH topics
          topic.topicId).clientSend) := by
  obtain ⟨hroom, htype, hid, hname, rfl⟩ := Topics.add_fresh hnew publish.text hadd
  rw [note_register]
  refine
    { active := h.active
      sound := h.sound.pushNormal hroom htype hid
      clean := h.clean
      parked := ?_
      known := ?_
      long := ?_
      apart := ?_
      ordered := ?_ }
  · rw [List.map_append, ← h.parked]
    rfl
  · intro entry hentry
    rcases List.mem_append.mp hentry with hentry | hentry
    · obtain ⟨other, hother, hrest⟩ := h.known entry hentry
      exact ⟨other, Topics.getTopicByName_push_known hother, hrest⟩
    · obtain rfl := List.mem_singleton.mp hentry
      rw [← hname] at hnew
      have hfound : (client.topics.push topic topic.topicId).1.getTopicByName topic.topicName =
          some topic := Topics.getTopicByName_push_new hnew
      rw [hname] at hfound
      exact ⟨topic, hfound, htype, rfl⟩
  · intro entry hentry
    rcases List.mem_append.mp hentry with hentry | hentry
    · exact h.long entry hentry
    · obtain rfl := List.mem_singleton.mp hentry
      rwa [requested, topicOf_length]
  · refine List.pairwise_append.mpr ⟨h.apart, List.pairwise_singleton _ _, ?_⟩
    intro early hearly late hlate
    obtain rfl := List.mem_singleton.mp hlate
    exact hfree early hearly
  · rw [List.map_append]
    exact h.ordered.park

theorem respond_publish (h : Tracked client seen) (publish : BrokerPublish) :
    respond client (.publish publish) =
      MQTTGWPublishHandler.handleAwake client publish.packet.getPUBLISH := by
  have hactive := h.active
  have hsleep : client.isSleep = false := by
    simp only [Client.isActive, decide_eq_true_eq] at hactive
    simp [Client.isSleep, hactive]
  simp [respond, MQTTGWPublishHandler.handlePublish, hactive, hsleep]

theorem publish_step (h : Tracked client seen)
    (hfree : ∀ entry ∈ seen.outstanding, topicOf entry.publish ≠ topicOf publish.packet)
    {handled : Handled} (hrespond : respond client (.publish publish) = some handled) :
    Tracked handled.client (seen.note (.publish publish) handled.clientSend) := by
  rw [h.respond_publish] at hrespond
  rcases MQTTGWPublishHandler.handleAwake_cases hrespond with
    ⟨-, rfl⟩ | ⟨-, tp, hfound, rfl⟩ | ⟨hlong, hnew, ⟨-, rfl⟩ | ⟨-, topics, topic, hadd, hregister⟩⟩
  · exact h.direct hfree (unanswered_eq_false (by simp))
  · exact h.direct hfree (h.answered_of_found hfree hfound)
  · rw [MQTTGWPublishHandler.acknowledge_client, MQTTGWPublishHandler.acknowledge_clientSend]
    exact h.dropped
  · rcases hregister with ⟨-, rfl⟩ | ⟨hzero, -⟩
    · exact h.register hfree hlong hnew hadd
    · obtain ⟨-, -, hid, -⟩ := Topics.add_fresh hnew publish.text hadd
      rw [hid] at hzero
      exact absurd hzero h.sound.getNextTopicId_ne_zero

theorem getPacket_eq (h : Tracked client seen) (msgId : UInt16) :
    client.waitREGACKList.getPacket msgId =
      (seen.outstanding.find? (·.msgId = msgId)).map (·.parked.packet) := by
  rw [WaitREGACKPacketList.getPacket, h.parked, List.find?_map, Option.map_map]
  rfl

theorem erase_eq (h : Tracked client seen) (msgId : UInt16) :
    (client.waitREGACKList.erase msgId).list =
      (seen.outstanding.eraseP (·.msgId = msgId)).map Outstanding.parked := by
  rw [WaitREGACKPacketList.erase, h.parked, List.eraseP_map]
  rfl

theorem answered_of_apart (h : Tracked client seen) {early late : List Outstanding}
    {entry : Outstanding} (hsplit : seen.outstanding = early ++ entry :: late)
    {other : Outstanding} (hother : other ∈ early ++ late) : other.topicId ≠ entry.topicId := by
  intro hid
  have hentry : entry ∈ seen.outstanding := by simp [hsplit]
  have hmem : other ∈ seen.outstanding := by
    rw [hsplit]
    exact List.mem_append.mpr ((List.mem_append.mp hother).imp_right (List.mem_cons_of_mem entry))
  obtain ⟨t, ht, httype, htid⟩ := h.known entry hentry
  obtain ⟨u, hu, hutype, huid⟩ := h.known other hmem
  have hsame : t = u := h.sound.normal_inj (List.mem_of_find?_eq_some ht)
    (List.mem_of_find?_eq_some hu) httype hutype (by rw [htid, huid, hid])
  have hname : topicOf entry.publish = topicOf other.publish := by
    rw [← Topics.getTopicByName_name ht, hsame, Topics.getTopicByName_name hu]
  have hapart := h.apart
  rw [hsplit, List.pairwise_append, List.pairwise_cons] at hapart
  rcases List.mem_append.mp hother with hearly | hlate
  · exact hapart.2.2 other hearly entry List.mem_cons_self hname.symm
  · exact hapart.2.1.1 other hlate hname

theorem note_regack_none {ack : SNAck} (hnone : seen.outstanding.find? (·.msgId = ack.msgId) = none) :
    seen.note (.regack ack) [] = seen := by
  have hall : ∀ entry ∈ seen.outstanding, ¬(decide (entry.msgId = ack.msgId)) = true :=
    List.find?_eq_none.mp hnone
  simp only [Observed.note, Observed.input, List.foldl_nil, List.eraseP_of_forall_not hall]

theorem released (h : Tracked client seen) {msgId : UInt16} {entry : Outstanding}
    (hfound : seen.outstanding.find? (·.msgId = msgId) = some entry) :
    Tracked { client with waitREGACKList := client.waitREGACKList.erase msgId }
      (Observed.output (some entry.publish)
        { seen with outstanding := seen.outstanding.eraseP (·.msgId = msgId) } entry.parked.packet) := by
  have herase := h.erase_eq msgId
  obtain ⟨hid, early, late, hsplit, hearly⟩ := List.find?_eq_some_iff_append.mp hfound
  have hrest : seen.outstanding.eraseP (·.msgId = msgId) = early ++ late := by
    rw [hsplit, List.eraseP_append_right _ (by simpa using hearly),
      List.eraseP_cons_of_pos (p := fun other : Outstanding => decide (other.msgId = msgId)) hid]
  rw [hrest] at herase
  rw [hrest, Outstanding.parked, output_snPublish]
  have hapart := h.apart
  have hordered := h.ordered
  rw [hsplit, List.pairwise_append, List.pairwise_cons] at hapart
  rw [hsplit, List.map_append, List.map_cons] at hordered
  have hsub : (early ++ late).Sublist seen.outstanding := by
    rw [hsplit]
    exact (List.Sublist.refl early).append (List.sublist_cons_self entry late)
  exact
    { active := h.active
      sound := h.sound
      clean := Bool.or_eq_false_iff.mpr ⟨h.clean,
        unanswered_eq_false fun _ other hother => h.answered_of_apart hsplit hother⟩
      parked := herase
      known := fun other hother => h.known other (hsub.subset hother)
      long := fun other hother => h.long other (hsub.subset hother)
      apart := h.apart.sublist hsub
      ordered := by
        rw [List.map_append]
        apply hordered.release
        intro packet hpacket
        obtain ⟨other, hother, rfl⟩ := List.mem_map.mp hpacket
        exact hapart.2.2 other hother entry List.mem_cons_self }

theorem holdPing (h : Tracked client seen) (hold : Bool) :
    Tracked { client with holdPingRequest := hold } seen :=
  ⟨h.active, h.sound, h.clean, h.parked, h.known, h.long, h.apart, h.ordered⟩

theorem release_step (h : Tracked client seen) (ack : SNAck) :
    Tracked (MQTTSNPublishHandler.release client ack.msgId).client
      (seen.note (.regack ack) (MQTTSNPublishHandler.release client ack.msgId).clientSend) := by
  have hpacket := h.getPacket_eq ack.msgId
  unfold MQTTSNPublishHandler.release
  cases hfound : seen.outstanding.find? (·.msgId = ack.msgId) with
  | none =>
    rw [hfound, Option.map_none] at hpacket
    simp only [hpacket, Handled.unchanged]
    rwa [note_regack_none hfound]
  | some entry =>
    rw [hfound, Option.map_some] at hpacket
    simp only [hpacket, Handled.toClient, Observed.note, Observed.input, hfound, Option.map_some,
      List.foldl_cons, List.foldl_nil]
    exact h.released hfound

theorem regack_step (h : Tracked client seen) (ack : SNAck) :
    Tracked (MQTTSNPublishHandler.handleRegAck client (some ack)).client
      (seen.note (.regack ack)
        (MQTTSNPublishHandler.handleRegAck client (some ack)).clientSend) := by
  obtain ⟨hold, hclient⟩ :=
    MQTTSNPublishHandler.releasePing_client (MQTTSNPublishHandler.release client ack.msgId)
  simp only [MQTTSNPublishHandler.handleRegAck, h.active, Bool.true_or, if_true,
    MQTTSNPublishHandler.releasePing_clientSend]
  rw [hclient]
  exact (h.release_step ack).holdPing hold

theorem overtakes (h : Tracked client seen) {entry : Outstanding} (hentry : entry ∈ seen.outstanding)
    (hsame : topicOf entry.publish = topicOf publish.packet) :
    ∃ handled, respond client (.publish publish) = some handled ∧
      (seen.note (.publish publish) handled.clientSend).violated = true := by
  obtain ⟨topic, hfound, htype, hid⟩ := h.known entry hentry
  have hlong := h.long entry hentry
  rw [hsame] at hfound
  rw [hsame, topicOf_length] at hlong
  have hunanswered : seen.unanswered ⟨topic.type, .id topic.topicId⟩ = true := by
    simp only [Observed.unanswered, htype, decide_true, Bool.true_and, List.any_eq_true,
      decide_eq_true_eq]
    exact ⟨entry, hentry, hid.symm⟩
  rw [h.respond_publish, MQTTGWPublishHandler.handleAwake, if_neg (by omega)]
  rw [topicOf] at hfound
  rw [hfound]
  refine ⟨_, rfl, ?_⟩
  rw [Handled.toClient, note_publish, output_snPublish]
  exact Bool.or_eq_true_iff.mpr (.inr hunanswered)

end Tracked

theorem output_violated {origin : Option MQTTGWPacket} {seen : Observed} (h : seen.violated = true)
    (answer : MQTTSNPacket) : (Observed.output origin seen answer).violated = true := by
  unfold Observed.output
  split
  · cases origin <;> simp [h]
  · cases origin <;> simp [Observed.send, h]
  · exact h

theorem note_violated {seen : Observed} (h : seen.violated = true) (given : Input)
    (answers : List MQTTSNPacket) : (seen.note given answers).violated = true := by
  have hinput : (seen.input given).1.violated = true := by cases given <;> exact h
  rw [Observed.note]
  generalize (seen.input given).2 = origin
  generalize (seen.input given).1 = shown at hinput ⊢
  induction answers generalizing shown with
  | nil => exact hinput
  | cons answer answers ih => exact ih _ (output_violated hinput answer)

theorem watch_cases (w : Watched) (given : Input) :
    ((watch w given).client = w.client ∧ (watch w given).seen = w.seen ∧
      (watch w given).fault = true) ∨
    ∃ handled, w.fault = false ∧ respond w.client given = some handled ∧
      watch w given = ⟨handled.client, w.seen.note given handled.clientSend, false⟩ := by
  unfold watch
  split
  · rename_i hfault
    exact .inl ⟨rfl, rfl, hfault⟩
  · rename_i hfault
    cases hrespond : respond w.client given with
    | none => exact .inl ⟨rfl, rfl, rfl⟩
    | some handled => exact .inr ⟨handled, by simpa using hfault, rfl, rfl⟩

theorem watch_tracked {w : Watched} {given : Input} (hmeets : Unparked w given)
    (h : Tracked w.client w.seen) : Tracked (watch w given).client (watch w given).seen := by
  rcases watch_cases w given with ⟨hclient, hseen, -⟩ | ⟨handled, hfault, hrespond, hwatch⟩
  · rwa [hclient, hseen]
  · rw [hwatch]
    cases given with
    | publish publish => exact h.publish_step (hmeets hfault) hrespond
    | regack ack =>
      obtain rfl := Option.some.inj hrespond
      exact h.regack_step ack

theorem watch_violated {w : Watched} (h : w.seen.violated = true) (given : Input) :
    (watch w given).seen.violated = true := by
  rcases watch_cases w given with ⟨-, hseen, -⟩ | ⟨handled, -, -, hwatch⟩
  · rwa [hseen]
  · rw [hwatch]
    exact note_violated h given _

theorem watch_overtaken {w : Watched} {given : Input} (h : Tracked w.client w.seen)
    (hparked : ¬Unparked w given) : (watch w given).seen.violated = true := by
  cases given with
  | regack ack => exact absurd trivial hparked
  | publish publish =>
    simp only [Unparked, Classical.not_imp, not_forall, not_not] at hparked
    obtain ⟨hfault, entry, hentry, hsame⟩ := hparked
    obtain ⟨handled, hrespond, hviolated⟩ := h.overtakes hentry hsame
    simp only [watch, hfault, Bool.false_eq_true, if_false, hrespond]
    exact hviolated

theorem Tracked.start {client : Client} (hactive : client.isActive = true)
    (hwaiting : client.waitREGACKList.list = []) (hbuilt : client.topics.Built) :
    Tracked (Watched.start client).client (Watched.start client).seen where
  active := hactive
  sound := hbuilt.sound
  clean := rfl
  parked := hwaiting
  known := by simp [Watched.start]
  long := by simp [Watched.start]
  apart := .nil
  ordered := .nil topicOf

theorem Tracked.inOrder {client : Client} {seen : Observed} (h : Tracked client seen) :
    RegisteredInOrder seen :=
  ⟨h.clean, h.ordered.of_append⟩

section Runs

variable {w : Watched} {inputs : List Input}

theorem run_tracked (h : Tracked w.client w.seen) (hmeets : Steps watch Unparked w inputs) :
    Tracked (inputs.foldl watch w).client (inputs.foldl watch w).seen :=
  Steps.invariant (I := fun v => Tracked v.client v.seen) watch_tracked hmeets h

theorem run_violated (h : Tracked w.client w.seen) (hparked : ¬Steps watch Unparked w inputs) :
    (inputs.foldl watch w).seen.violated = true := by
  induction inputs using List.reverseRecOn with
  | nil => exact absurd trivial hparked
  | append_singleton inputs given ih =>
    rw [List.foldl_append, List.foldl_cons, List.foldl_nil]
    by_cases hmeets : Steps watch Unparked w inputs
    · apply watch_overtaken (run_tracked h hmeets)
      intro hlast
      exact hparked (Steps.append.mpr ⟨hmeets, hlast, trivial⟩)
    · exact watch_violated (ih hmeets) given

end Runs

theorem register_order_iff (client : Client) (hactive : client.isActive = true)
    (hwaiting : client.waitREGACKList.list = []) (hbuilt : client.topics.Built)
    (inputs : List Input) :
    (∀ n, RegisteredInOrder ((inputs.take n).foldl watch (.start client)).seen) ↔
      Steps watch Unparked (.start client) inputs := by
  have hstart := Tracked.start hactive hwaiting hbuilt
  constructor
  · intro horder
    by_contra hparked
    have hviolated := run_violated hstart hparked
    have hwhole := horder inputs.length
    rw [List.take_length] at hwhole
    simp [hwhole.answered] at hviolated
  · intro hmeets n
    rw [← List.take_append_drop n inputs, Steps.append] at hmeets
    exact (run_tracked hstart hmeets.1).inOrder

theorem wildcard_bounded : ([0x61, 0x2f, 0x23] : Bytes).length < 65536 := by decide

def wildcardTable : Topics := (Topics.initial.add .normal ⟨[0x61, 0x2f, 0x23], wildcard_bounded⟩).1

def wildcardClient : Client :=
  { Client.initial .regular [0x63] wildcardTable with status := .active }

theorem wildcardTable_built : wildcardTable.Built := .add .initial _ _

def firstPublish : BrokerPublish :=
  ⟨⟨0x30, 6, [0, 3, 0x61, 0x2f, 0x62, 1]⟩, by decide, by decide, by decide⟩

def secondPublish : BrokerPublish :=
  ⟨⟨0x30, 6, [0, 3, 0x61, 0x2f, 0x62, 2]⟩, by decide, by decide, by decide⟩

def firstAnswer : Input := .regack ⟨2, 1, MQTTSN_RC_ACCEPTED⟩

theorem register_order_answered :
    ([.publish firstPublish, firstAnswer, .publish secondPublish].foldl watch
        (.start wildcardClient)).seen.sent = [firstPublish.packet, secondPublish.packet] ∧
      ∀ n, RegisteredInOrder (([.publish firstPublish, firstAnswer, .publish secondPublish].take n).foldl
        watch (.start wildcardClient)).seen :=
  ⟨by decide, (register_order_iff wildcardClient rfl rfl wildcardTable_built _).mpr (by decide)⟩

theorem parked_overtaken :
    ([.publish firstPublish, .publish secondPublish, firstAnswer].foldl watch
        (.start wildcardClient)).seen.sent = [secondPublish.packet, firstPublish.packet] ∧
      ¬RegisteredInOrder (([.publish firstPublish, .publish secondPublish].foldl watch
        (.start wildcardClient)).seen) := by
  refine ⟨by decide, fun h => ?_⟩
  have hviolated : ([.publish firstPublish, .publish secondPublish].foldl watch
      (.start wildcardClient)).seen.violated = true := by decide
  exact Bool.false_ne_true (h.answered.symm.trans hviolated)

end MbedMqtt.MQTTSNGW
