import Mathlib.Data.List.Perm.Subperm
import MbedMqtt.Gateway.Quiet
import MbedMqtt.Gateway.Trace
import MbedMqtt.Gateway.TopicIdMap
import MbedMqtt.Contract.SleepQueue

namespace MbedMqtt.MQTTSNGW

open PacketHandleTask

structure Exchange where
  msgId : UInt16
  qos : QoS
  deriving DecidableEq, Repr

structure Ledger where
  inflight : List Exchange
  settled : List UInt16
  deriving DecidableEq, Repr

namespace Ledger

def opened (ledger : Ledger) (exchange : Exchange) : Ledger where
  inflight := if exchange ∈ ledger.inflight then ledger.inflight else ledger.inflight ++ [exchange]
  settled := ledger.settled.filter (· ≠ exchange.msgId)

def closed (ledger : Ledger) (exchange : Exchange) : Ledger :=
  if exchange ∈ ledger.inflight then
    ⟨ledger.inflight.erase exchange, exchange.msgId :: ledger.settled⟩
  else ledger

def finalQoS (type : Nat) : QoS := if type = PUBACK then .QOS1 else .QOS2

def note (ledger : Ledger) (ids : MessageIds) (clients : Nat → Client) (c : Nat)
    (handled : Handled) : Event → Ledger
  | .clientRecv _ (.publish (some packet)) =>
      if identified packet && !handled.brokerSend.isEmpty then
        ledger.opened ⟨packet.msgId, packet.qos⟩
      else ledger
  | .clientRecv _ (.connect (some data)) =>
      if startsClean (clients c) data then { ledger with inflight := [] } else ledger
  | ev =>
      match brokerAck ids clients ev with
      | some (_, type, msgId) =>
          if handled.clientSend.isEmpty then ledger else ledger.closed ⟨msgId, finalQoS type⟩
      | none => ledger

end Ledger

def booksOf (c : Nat) : Observer Ledger where
  posted ledger _ _ := ledger
  handled ledger ids s ev target handled :=
    if target = c then ledger.note ids s.clients c handled ev else ledger

def Traced.waited (w : Traced Ledger) (c : Nat) : TopicIdMap := (w.state.clients c).waitedPubTopicIdMap

def bookless (clients : Nat → Client) : Traced Ledger := ⟨initial clients, ⟨[], []⟩⟩

def publishOf (c : Nat) : Event → Option SNPublish
  | .clientRecv target (.publish (some packet)) =>
      if target = c && identified packet then some packet else none
  | _ => none

def Forgotten (c : Nat) (w : Traced Ledger) : Prop :=
  ∀ msgId ∈ w.ghost.settled, (w.waited c).getElement msgId = none

def Unstored (c : Nat) (w : Traced Ledger) : Act → Prop :=
  Handles (fun ids ev => ∀ ack ∈ brokerAck ids w.state.clients ev,
    ack.1 = c → ack.2.1 = PUBCOMP → ⟨ack.2.2, .QOS2⟩ ∈ w.ghost.inflight →
    ((w.state.clients c).isActive || (w.state.clients c).isAwake) = true →
    (w.waited c).getElement ack.2.2 = none) w.state

def DistinctIds (c : Nat) (w : Traced Ledger) : Act → Prop :=
  Handles (fun _ ev => ∀ packet ∈ publishOf c ev, ∀ exchange ∈ w.ghost.inflight,
    exchange.msgId = packet.msgId → exchange.qos = packet.qos) w.state

def FewOpen (w : Traced Ledger) : Prop := (w.ghost.inflight.length : Int) ≤ MAX_INFLIGHTMESSAGES

def Relayed (gw : Gateway) (c : Nat) (w : Traced Ledger) : Act → Prop :=
  Handles (fun ids ev => ∀ ack ∈ brokerAck ids w.state.clients ev,
    ack.1 = c → ack.2.1 = PUBACK → ⟨ack.2.2, .QOS1⟩ ∈ w.ghost.inflight →
    ∃ handled topicId, handleEvent gw ids w.state.clients ev = .done c handled ∧
      .puback (some ⟨topicId, ack.2.2, 0⟩) ∈ handled.clientSend) w.state

inductive Booking (gw : Gateway) (ids : MessageIds) (clients : Nat → Client) (c : Nat)
    (handled : Handled) (ev : Event) : Prop
  | kept (same : handled.client.waitedPubTopicIdMap = (clients c).waitedPubTopicIdMap)
      (asleep : ∀ msgId, brokerAck ids clients ev = some (c, PUBCOMP, msgId) →
        ((clients c).isActive || (clients c).isAwake) = false)
      (noted : ∀ ledger : Ledger, ledger.note ids clients c handled ev = ledger)
  | stored (packet : SNPublish) (publish : publishOf c ev = some packet)
      (silent : brokerAck ids clients ev = none)
      (named : gw.topics.Sound → (clients c).topics.Sound →
        packet.topic.type = .short ∨ packet.topic.data.idField ≠ 0)
      (added : handled.client.waitedPubTopicIdMap =
        (clients c).waitedPubTopicIdMap.add packet.msgId packet.topic.data.idField packet.topic.type)
      (noted : ∀ ledger : Ledger, ledger.note ids clients c handled ev =
        ledger.opened ⟨packet.msgId, packet.qos⟩)
  | cleared (empty : handled.client.waitedPubTopicIdMap = .initial)
      (silent : brokerAck ids clients ev = none)
      (noted : ∀ ledger : Ledger, ledger.note ids clients c handled ev = { ledger with inflight := [] })
  | answered (msgId : UInt16) (element : TopicIdMapElement)
      (ack : brokerAck ids clients ev = some (c, PUBACK, msgId))
      (known : (clients c).waitedPubTopicIdMap.getElement msgId = some element)
      (erased : handled.client.waitedPubTopicIdMap = (clients c).waitedPubTopicIdMap.erase msgId)
      (noted : ∀ ledger : Ledger, ledger.note ids clients c handled ev = ledger.closed ⟨msgId, .QOS1⟩)
  | completed (msgId : UInt16) (ack : brokerAck ids clients ev = some (c, PUBCOMP, msgId))
      (awake : ((clients c).isActive || (clients c).isAwake) = true)
      (same : handled.client.waitedPubTopicIdMap = (clients c).waitedPubTopicIdMap)
      (noted : ∀ ledger : Ledger, ledger.note ids clients c handled ev = ledger.closed ⟨msgId, .QOS2⟩)

section Bookings

variable {gw : Gateway} {ids : MessageIds} {clients : Nat → Client} {c target : Nat}
  {handled : Handled}

theorem clientRecv_done {packet : MQTTSNPacket}
    (h : handleEvent gw ids clients (.clientRecv c packet) = .done target handled) :
    target = c ∧ ∃ answer, clientPacket gw ids (clients c) packet = some answer ∧
      handled = { answer with client := answer.client.updateStatus packet } := by
  obtain ⟨rfl, hanswer⟩ := ofOption_done h
  obtain ⟨answer, hpacket, rfl⟩ := Option.map_eq_some_iff.mp hanswer
  exact ⟨rfl, answer, hpacket, rfl⟩

theorem setWaitedPubTopicId_waited (client : Client) (packet : SNPublish) :
    (MQTTSNPublishHandler.setWaitedPubTopicId client packet).waitedPubTopicIdMap =
      if identified packet then
        client.waitedPubTopicIdMap.add packet.msgId packet.topic.data.idField packet.topic.type
      else client.waitedPubTopicIdMap := by
  simp only [MQTTSNPublishHandler.setWaitedPubTopicId, identified, Bool.and_eq_true,
    Bool.or_eq_true, decide_eq_true_eq]
  split_ifs <;> rfl

theorem note_other {packet : MQTTSNPacket} (ledger : Ledger)
    (hpublish : ∀ data, packet ≠ .publish (some data)) (hconnect : ∀ data, packet ≠ .connect (some data)) :
    ledger.note ids clients c handled (.clientRecv target packet) = ledger := by
  unfold Ledger.note
  split
  · rename_i heq
    cases heq
    exact absurd rfl (hpublish _)
  · rename_i heq
    cases heq
    exact absurd rfl (hconnect _)
  · rfl

theorem publish_booking {packet : SNPublish}
    (h : handleEvent gw ids clients (.clientRecv c (.publish (some packet))) = .done target handled) :
    Booking gw ids clients target handled (.clientRecv c (.publish (some packet))) := by
  obtain ⟨rfl, answer, hpacket, rfl⟩ := clientRecv_done h
  have hmap := (Quiet.updateStatus answer.client (.publish (some packet))).2
  rcases clientPacket_publish hpacket with ⟨hquiet, hunsent⟩ | hforwarded
  · refine .kept (hmap.trans hquiet.waited) nofun ?_
    intro ledger
    simp [Ledger.note, hunsent]
  · obtain ⟨topics, -, hclient⟩ := hforwarded.client
    obtain ⟨publish, hsent, -⟩ := hforwarded.sent
    have hwaited := hmap.trans (congrArg Client.waitedPubTopicIdMap hclient)
    rw [setWaitedPubTopicId_waited] at hwaited
    by_cases hid : identified packet = true
    · rw [if_pos hid] at hwaited
      refine .stored packet ?_ rfl (hforwarded.named hid) hwaited ?_
      · simp [publishOf, hid]
      · intro ledger
        simp [Ledger.note, hid, hsent]
    · rw [if_neg hid] at hwaited
      refine .kept hwaited nofun ?_
      intro ledger
      simp [Ledger.note, hid]

theorem connect_booking {data : SNConnect}
    (h : handleEvent gw ids clients (.clientRecv c (.connect (some data))) = .done target handled) :
    Booking gw ids clients target handled (.clientRecv c (.connect (some data))) := by
  obtain ⟨rfl, answer, hpacket, rfl⟩ := clientRecv_done h
  have hmap := (Quiet.updateStatus answer.client (.connect (some data))).2.trans
    (clientPacket_connect hpacket).waited
  cases hclean : startsClean (clients target) data with
  | true =>
    rw [hclean, if_pos rfl] at hmap
    refine .cleared hmap rfl ?_
    intro ledger
    simp [Ledger.note, hclean]
  | false =>
    rw [hclean, if_neg Bool.false_ne_true] at hmap
    refine .kept hmap nofun ?_
    intro ledger
    simp [Ledger.note, hclean]

theorem client_booking {packet : MQTTSNPacket} (hpublish : ∀ data, packet ≠ .publish (some data))
    (hconnect : ∀ data, packet ≠ .connect (some data))
    (h : handleEvent gw ids clients (.clientRecv c packet) = .done target handled) :
    Booking gw ids clients target handled (.clientRecv c packet) := by
  obtain ⟨rfl, answer, hpacket, rfl⟩ := clientRecv_done h
  refine .kept ?_ nofun fun ledger => note_other ledger hpublish hconnect
  refine (Quiet.updateStatus answer.client packet).2.trans ?_
  cases hloud : loud packet with
  | false => exact (clientPacket_quiet hloud hpacket).waited
  | true =>
    cases packet with
    | puback data =>
      cases data with
      | none => cases hloud
      | some ack =>
        rw [clientPacket_puback hpacket]
        split
        · rfl
        · rfl
    | regack data =>
      cases data with
      | none => cases hloud
      | some ack =>
        rw [clientPacket_regacked hpacket]
        split
        · exact (release_kept _ ack.msgId).2
        · rfl
    | publish data =>
      cases data with
      | none => cases hloud
      | some data => exact absurd rfl (hpublish data)
    | connect data =>
      cases data with
      | none => cases hloud
      | some data => exact absurd rfl (hconnect data)
    | _ => cases hloud

theorem ack_booking {packet : MQTTGWPacket} {ack : Nat × Nat × UInt16}
    (hack : brokerAck ids clients (.brokerRecv c packet) = some ack)
    (h : handleEvent gw ids clients (.brokerRecv c packet) = .done target handled) :
    Booking gw ids clients target handled (.brokerRecv c packet) := by
  obtain ⟨owner, type, msgId⟩ := ack
  obtain ⟨htype, answer, hid, hanswer⟩ := brokerAck_handled gw hack
  rw [hanswer] at h
  cases h
  rcases htype with rfl | rfl
  · rw [if_pos rfl]
    rcases handlePuback_cases (clients target) answer with ⟨element, hknown, heq⟩ | ⟨hnone, heq⟩
    · rw [hid] at hknown heq
      rw [heq]
      refine .answered msgId element hack hknown rfl ?_
      intro ledger
      simp [Ledger.note, hack, Handled.toClient, Ledger.finalQoS]
    · rw [heq]
      refine .kept rfl (by simp [hack]) ?_
      intro ledger
      simp [Ledger.note, hack, Handled.unchanged]
  · rw [if_neg (by decide)]
    have hquiet : Quiet (clients target)
        (MQTTGWPublishHandler.handleAck (clients target) answer PUBCOMP) := .handleBrokerAck answer _
    cases hawake : (clients target).isActive || (clients target).isAwake with
    | true =>
      refine .completed msgId hack hawake hquiet.waited ?_
      intro ledger
      rw [MQTTGWPublishHandler.handleAck, if_pos hawake]
      simp [Ledger.note, hack, Handled.toClient, Ledger.finalQoS]
    | false =>
      refine .kept hquiet.waited (fun _ _ => hawake) ?_
      intro ledger
      rw [MQTTGWPublishHandler.handleAck, if_neg (Bool.eq_false_iff.mp hawake), if_neg (by simp)]
      simp [Ledger.note, hack, Handled.unchanged]

theorem handleEvent_booking {ev : Event}
    (h : handleEvent gw ids clients ev = .done target handled) :
    Booking gw ids clients target handled ev := by
  cases ev with
  | broadcast => cases h
  | clientRecv c packet =>
    by_cases hpublish : ∃ data, packet = .publish (some data)
    · obtain ⟨data, rfl⟩ := hpublish
      exact publish_booking h
    by_cases hconnect : ∃ data, packet = .connect (some data)
    · obtain ⟨data, rfl⟩ := hconnect
      exact connect_booking h
    · exact client_booking (not_exists.mp hpublish) (not_exists.mp hconnect) h
  | brokerRecv c packet =>
    cases hack : brokerAck ids clients (.brokerRecv c packet) with
    | some ack => exact ack_booking hack h
    | none =>
      refine .kept ?_ (by simp [hack]) fun ledger => by simp [Ledger.note, hack]
      by_cases hpublish : packet.getType = PUBLISH
      · exact (brokerRecv_kept hpublish h).2
      · exact (brokerAck_unanswered hack hpublish h).waited

end Bookings

section Steps

variable {gw : Gateway} {c : Nat} {w : Traced Ledger} {act : Act}

inductive Passage (gw : Gateway) (c : Nat) (w : Traced Ledger) (act : Act) (after : Traced Ledger) :
    Prop
  | passed (waited : after.waited c = w.waited c)
      (topics : (after.state.clients c).topics = (w.state.clients c).topics)
      (ledger : after.ghost = w.ghost)
      (elsewhere : Handles (fun ids ev => ∀ handled,
        handleEvent gw ids w.state.clients ev ≠ .done c handled) w.state act)
  | booked {ids : MessageIds} {ev : Event} {rest : List Event} {handled : Handled}
      (handles : act = .handle ids) (running : w.state.fault = false)
      (items : w.state.packetEventQue.items = ev :: rest)
      (done : handleEvent gw ids w.state.clients ev = .done c handled)
      (client : after.state.clients c = handled.client)
      (ledger : after.ghost = w.ghost.note ids w.state.clients c handled ev)

theorem step_passage (gw : Gateway) (c : Nat) (w : Traced Ledger) (act : Act) :
    Passage gw c w act (w.step gw (booksOf c) act) := by
  have hmoves := Traced.moves gw (booksOf c) w act
  generalize w.step gw (booksOf c) act = after at hmoves
  cases hmoves with
  | stuck fault =>
    refine .passed rfl rfl rfl ?_
    cases act with
    | handle ids => exact fun running => absurd (running.symm.trans fault) Bool.noConfusion
    | _ => trivial
  | posted running => exact .passed rfl rfl rfl trivial
  | connectSended running =>
    refine .passed (setClient_field Client.waitedPubTopicIdMap ?_ c)
      (setClient_field Client.topics ?_ c) rfl trivial
    · rfl
    · rfl
  | disconnected running =>
    refine .passed (setClient_field Client.waitedPubTopicIdMap ?_ c)
      (setClient_field Client.topics ?_ c) rfl trivial
    · rfl
    · rfl
  | empty running items =>
    refine .passed rfl rfl rfl ?_
    simp [Handles, items]
  | skipped running items result =>
    refine .passed rfl rfl rfl ?_
    rw [Handles.at_head running items]
    intro handled heq
    rw [result] at heq
    cases heq
  | faulted running items result =>
    refine .passed rfl rfl rfl ?_
    rw [Handles.at_head running items]
    intro handled heq
    rw [result] at heq
    cases heq
  | @handled ids ev rest target handled running items result =>
    by_cases htarget : target = c
    · subst htarget
      exact .booked rfl running items result (apply_client _ _ _) (if_pos rfl)
    · refine .passed ?_ ?_ (if_neg htarget) ?_
      · rw [Traced.waited, apply_other htarget, Traced.waited]
      · rw [apply_other htarget]
      · rw [Handles.at_head running items]
        intro handled heq
        rw [result] at heq
        cases heq
        exact htarget rfl

theorem Passage.wellKept {after : Traced Ledger} (h : Passage gw c w act after)
    (hkept : (w.waited c).WellKept) : (after.waited c).WellKept := by
  cases h with
  | passed waited topics ledger elsewhere => rwa [waited]
  | booked handles running items done client ledger =>
    rw [Traced.waited, client]
    cases handleEvent_booking done with
    | kept same asleep noted => rwa [same]
    | stored packet publish silent named added noted =>
      rw [added]
      exact hkept.add _ _ _
    | cleared empty silent noted =>
      rw [empty]
      exact .initial
    | answered msgId element ack known erased noted =>
      rw [erased]
      exact hkept.erase known
    | completed msgId ack awake same noted => rwa [same]

theorem unstored_of_ne {ids : MessageIds} {ev : Event} {rest : List Event}
    (hrunning : w.state.fault = false) (hitems : w.state.packetEventQue.items = ev :: rest)
    (h : ∀ msgId, brokerAck ids w.state.clients ev = some (c, PUBCOMP, msgId) →
      ((w.state.clients c).isActive || (w.state.clients c).isAwake) = false) :
    Unstored c w (.handle ids) := by
  rw [Unstored, Handles.at_head hrunning hitems]
  rintro ⟨owner, type, msgId⟩ hack rfl rfl - hawake
  rw [h msgId hack] at hawake
  cases hawake

theorem forgotten_closed {after : Traced Ledger} {exchange : Exchange}
    (hsettled : Forgotten c w) (hledger : after.ghost = w.ghost.closed exchange)
    (hmap : ∀ msgId, (w.waited c).getElement msgId = none → (after.waited c).getElement msgId = none) :
    Forgotten c after ↔ (exchange ∈ w.ghost.inflight →
      (after.waited c).getElement exchange.msgId = none) := by
  unfold Forgotten at hsettled ⊢
  rw [hledger, Ledger.closed]
  split
  · rename_i hopen
    simp only [List.mem_cons, forall_eq_or_imp]
    constructor
    · rintro ⟨hfirst, -⟩ -
      exact hfirst
    · intro hfirst
      exact ⟨hfirst hopen, fun msgId hmem => hmap msgId (hsettled msgId hmem)⟩
  · rename_i hclosed
    constructor
    · intro _ hopen
      exact absurd hopen hclosed
    · intro _ msgId hmem
      exact hmap msgId (hsettled msgId hmem)

theorem getElement_add_none {map : TopicIdMap} (hkept : map.WellKept) {msgId other topicId : UInt16}
    {type : TopicType} (hne : other ≠ msgId) (hnone : map.getElement other = none) :
    (map.add msgId topicId type).getElement other = none := by
  by_cases hrefuses : map.refuses topicId type
  · rwa [TopicIdMap.add_refused hrefuses]
  · rw [TopicIdMap.getElement_eq_none] at hnone ⊢
    rw [hkept.mem_add hrefuses]
    exact not_or.mpr ⟨hnone, hne⟩

theorem getElement_erase_none {map : TopicIdMap} (hkept : map.WellKept) {msgId other : UInt16}
    (hnone : map.getElement other = none) : (map.erase msgId).getElement other = none := by
  rw [TopicIdMap.getElement_eq_none] at hnone ⊢
  rw [hkept.mem_erase]
  exact fun hmem => hnone hmem.1

theorem Passage.forgotten {after : Traced Ledger} (h : Passage gw c w act after)
    (hkept : (w.waited c).WellKept) (hsettled : Forgotten c w) :
    Forgotten c after ↔ Unstored c w act := by
  cases h with
  | passed waited topics ledger elsewhere =>
    have hafter : Forgotten c after := by
      intro msgId hmem
      rw [ledger] at hmem
      rw [waited]
      exact hsettled msgId hmem
    refine iff_of_true hafter ?_
    cases act with
    | handle ids =>
      intro running ev hev
      rintro ⟨owner, type, msgId⟩ hack rfl rfl
      obtain ⟨-, packet, -, hdone⟩ := brokerAck_handled gw hack
      exact absurd hdone (elsewhere running ev hev _)
    | _ => trivial
  | @booked ids ev rest handled handles running items done client ledger =>
    subst handles
    have waited : after.waited c = handled.client.waitedPubTopicIdMap :=
      congrArg Client.waitedPubTopicIdMap client
    cases handleEvent_booking done with
    | kept same asleep noted =>
      refine iff_of_true ?_ (unstored_of_ne running items asleep)
      intro msgId hmem
      rw [ledger, noted] at hmem
      rw [waited, same]
      exact hsettled msgId hmem
    | stored packet publish silent named added noted =>
      refine iff_of_true ?_ (unstored_of_ne running items (by simp [silent]))
      intro msgId hmem
      rw [ledger, noted, Ledger.opened, List.mem_filter, decide_eq_true_eq] at hmem
      rw [waited, added]
      exact getElement_add_none hkept hmem.2 (hsettled msgId hmem.1)
    | cleared empty silent noted =>
      refine iff_of_true ?_ (unstored_of_ne running items (by simp [silent]))
      intro msgId hmem
      rw [waited, empty]
      rfl
    | answered msgId element ack known erased noted =>
      rw [noted] at ledger
      rw [forgotten_closed hsettled ledger, waited, erased]
      · exact iff_of_true (fun _ => hkept.getElement_erase)
          (unstored_of_ne running items (by simp [ack]))
      · intro other hnone
        rw [waited, erased]
        exact getElement_erase_none hkept hnone
    | completed msgId ack awake same noted =>
      rw [noted] at ledger
      rw [forgotten_closed hsettled ledger, waited, same, Unstored, Handles.at_head running items, ack]
      · simp [awake, Traced.waited]
      · intro other hnone
        rwa [waited, same]

structure InStep (c : Nat) (w : Traced Ledger) : Prop where
  sound : (w.state.clients c).topics.Sound
  wellKept : (w.waited c).WellKept
  distinct : (w.ghost.inflight.map (·.msgId)).Nodup
  tracked : ∀ msgId ∈ (w.waited c).elements.map (·.msgId), msgId ∈ w.ghost.inflight.map (·.msgId)
  held : ∀ exchange ∈ w.ghost.inflight, exchange.qos = .QOS1 →
    exchange.msgId ∈ (w.waited c).elements.map (·.msgId)

theorem InStep.count_le (h : InStep c w) (hfew : FewOpen w) :
    (w.waited c).cnt ≤ MAX_INFLIGHTMESSAGES := by
  have hsub := (h.wellKept.distinct.subperm h.tracked).length_le
  simp only [List.length_map] at hsub
  rw [h.wellKept.counted]
  exact (Int.ofNat_le.mpr hsub).trans hfew

theorem InStep.stored {after : Traced Ledger} {packet : SNPublish} (h : InStep c w)
    (hfew : FewOpen w) (hsound : (after.state.clients c).topics.Sound)
    (hdistinct : ∀ exchange ∈ w.ghost.inflight, exchange.msgId = packet.msgId →
      exchange.qos = packet.qos)
    (hnamed : packet.topic.type = .short ∨ packet.topic.data.idField ≠ 0)
    (hmap : after.waited c =
      (w.waited c).add packet.msgId packet.topic.data.idField packet.topic.type)
    (hledger : after.ghost = w.ghost.opened ⟨packet.msgId, packet.qos⟩) : InStep c after := by
  have hadds : ¬(w.waited c).refuses packet.topic.data.idField packet.topic.type := by
    rintro (hfull | ⟨hzero, hlong⟩)
    · have hcount := h.count_le hfew
      simp only [MAX_INFLIGHTMESSAGES] at hfull hcount
      omega
    · exact hnamed.elim hlong fun hne => hne hzero
  have hmem : ∀ msgId, msgId ∈ (after.waited c).elements.map (·.msgId) ↔
      msgId ∈ (w.waited c).elements.map (·.msgId) ∨ msgId = packet.msgId := by
    intro msgId
    rw [hmap, h.wellKept.mem_add hadds]
  refine ⟨hsound, hmap ▸ h.wellKept.add _ _ _, ?_, ?_, ?_⟩
  · rw [hledger, Ledger.opened]
    split
    · exact h.distinct
    · rename_i hnew
      rw [List.map_append, List.nodup_append_comm]
      refine List.nodup_cons.mpr ⟨?_, h.distinct⟩
      rintro hold
      obtain ⟨exchange, hexchange, hid⟩ := List.mem_map.mp hold
      have hqos := hdistinct exchange hexchange hid
      obtain ⟨msgId, qos⟩ := exchange
      simp only at hid hqos
      exact hnew (hid ▸ hqos ▸ hexchange)
  · intro msgId hid
    rw [hledger, Ledger.opened]
    rcases (hmem msgId).mp hid with hold | rfl
    · have htracked := h.tracked msgId hold
      split
      · exact htracked
      · rw [List.map_append]
        exact List.mem_append_left _ htracked
    · split
      · rename_i hopen
        exact List.mem_map_of_mem hopen
      · simp
  · intro exchange hexchange hqos
    rw [hmem]
    rw [hledger, Ledger.opened] at hexchange
    split at hexchange
    · exact .inl (h.held exchange hexchange hqos)
    · rcases List.mem_append.mp hexchange with hold | hnew
      · exact .inl (h.held exchange hold hqos)
      · rw [List.mem_singleton.mp hnew]
        exact .inr rfl

theorem InStep.closed {after : Traced Ledger} {exchange : Exchange} (h : InStep c w)
    (hsound : (after.state.clients c).topics.Sound) (hkept : (after.waited c).WellKept)
    (hledger : after.ghost = w.ghost.closed exchange)
    (hgone : exchange ∈ w.ghost.inflight →
      exchange.msgId ∉ (after.waited c).elements.map (·.msgId))
    (hsub : ∀ msgId ∈ (after.waited c).elements.map (·.msgId),
      msgId ∈ (w.waited c).elements.map (·.msgId))
    (hstays : ∀ other ∈ w.ghost.inflight, other.qos = .QOS1 → other ≠ exchange →
      other.msgId ∈ (after.waited c).elements.map (·.msgId)) : InStep c after := by
  have hnodup : w.ghost.inflight.Nodup := .of_map _ h.distinct
  by_cases hopen : exchange ∈ w.ghost.inflight
  · have hinflight : after.ghost.inflight = w.ghost.inflight.erase exchange := by
      rw [hledger, Ledger.closed, if_pos hopen]
    refine ⟨hsound, hkept, ?_, ?_, ?_⟩
    · rw [hinflight]
      exact h.distinct.sublist (List.erase_sublist.map _)
    · intro msgId hid
      obtain ⟨other, hother, rfl⟩ := List.mem_map.mp (h.tracked msgId (hsub msgId hid))
      rw [hinflight]
      refine List.mem_map_of_mem ((hnodup.mem_erase_iff).mpr ⟨?_, hother⟩)
      rintro rfl
      exact hgone hopen hid
    · intro other hother hqos
      rw [hinflight] at hother
      obtain ⟨hne, hmem⟩ := hnodup.mem_erase_iff.mp hother
      exact hstays other hmem hqos hne
  · have hinflight : after.ghost.inflight = w.ghost.inflight := by
      rw [hledger, Ledger.closed, if_neg hopen]
    refine ⟨hsound, hkept, hinflight ▸ h.distinct, ?_, ?_⟩
    · intro msgId hid
      rw [hinflight]
      exact h.tracked msgId (hsub msgId hid)
    · intro other hother hqos
      rw [hinflight] at hother
      refine hstays other hother hqos ?_
      rintro rfl
      exact hopen hother

theorem InStep.unchanged {after : Traced Ledger} (h : InStep c w)
    (hsound : (after.state.clients c).topics.Sound) (hmap : after.waited c = w.waited c)
    (hledger : after.ghost = w.ghost) : InStep c after := by
  refine ⟨hsound, hmap ▸ h.wellKept, hledger ▸ h.distinct, ?_, ?_⟩
  · rw [hmap, hledger]
    exact h.tracked
  · rw [hmap, hledger]
    exact h.held

theorem InStep.answered {after : Traced Ledger} {exchange : Exchange} (h : InStep c w)
    (hsound : (after.state.clients c).topics.Sound) (hkept : (after.waited c).WellKept)
    (hmap : after.waited c = (w.waited c).erase exchange.msgId) (hqos : exchange.qos = .QOS1)
    (hledger : after.ghost = w.ghost.closed exchange) : InStep c after := by
  refine h.closed hsound hkept hledger ?_ ?_ ?_
  · intro _ hmem
    rw [hmap] at hmem
    exact (h.wellKept.mem_erase.mp hmem).2 rfl
  · intro msgId hmem
    rw [hmap] at hmem
    exact (h.wellKept.mem_erase.mp hmem).1
  · intro other hother hother1 hne
    rw [hmap]
    refine h.wellKept.mem_erase.mpr ⟨h.held other hother hother1, ?_⟩
    intro hid
    obtain ⟨otherId, otherQos⟩ := other
    obtain ⟨msgId, qos⟩ := exchange
    simp only at hid hother1 hqos
    exact hne (by rw [hid, hother1, hqos])

theorem InStep.completed {after : Traced Ledger} {exchange : Exchange} (h : InStep c w)
    (hsound : (after.state.clients c).topics.Sound) (hkept : (after.waited c).WellKept)
    (hmap : after.waited c = w.waited c) (hledger : after.ghost = w.ghost.closed exchange)
    (hgone : exchange ∈ w.ghost.inflight →
      exchange.msgId ∉ (w.waited c).elements.map (·.msgId)) : InStep c after := by
  refine h.closed hsound hkept hledger ?_ ?_ ?_
  · intro hopen
    rw [hmap]
    exact hgone hopen
  · intro msgId hmem
    rwa [hmap] at hmem
  · intro other hother hqos _
    rw [hmap]
    exact h.held other hother hqos

theorem Passage.inStep {after : Traced Ledger} (h : Passage gw c w act after)
    (hgw : gw.topics.Sound) (hin : InStep c w) (hfew : FewOpen w) (hunstored : Unstored c w act)
    (hdistinct : DistinctIds c w act) : InStep c after := by
  have hkept := h.wellKept hin.wellKept
  cases h with
  | passed waited topics ledger elsewhere => exact hin.unchanged (topics ▸ hin.sound) waited ledger
  | @booked ids ev rest handled handles running items done client ledger =>
    subst handles
    have waited : after.waited c = handled.client.waitedPubTopicIdMap :=
      congrArg Client.waitedPubTopicIdMap client
    have hsound : (after.state.clients c).topics.Sound := by
      rw [client]
      exact (handleEvent_evolves done).sound hin.sound
    cases handleEvent_booking done with
    | kept same asleep noted =>
      exact hin.unchanged hsound (waited.trans same) (ledger.trans (noted _))
    | stored packet publish silent named added noted =>
      rw [DistinctIds, Handles.at_head running items, publish] at hdistinct
      exact hin.stored hfew hsound (hdistinct packet rfl) (named hgw hin.sound)
        (waited.trans added) (ledger.trans (noted _))
    | cleared empty silent noted =>
      rw [empty] at waited
      rw [noted] at ledger
      refine ⟨hsound, hkept, ?_, ?_, ?_⟩
      · rw [ledger]
        exact List.nodup_nil
      · rw [waited]
        nofun
      · rw [ledger]
        nofun
    | answered msgId element ack known erased noted =>
      have hmap : after.waited c = (w.waited c).erase (Exchange.mk msgId .QOS1).msgId :=
        waited.trans erased
      exact hin.answered hsound hkept hmap rfl (ledger.trans (noted _))
    | completed msgId ack awake same noted =>
      refine hin.completed hsound hkept (waited.trans same) (ledger.trans (noted _)) ?_
      intro hopen
      rw [Unstored, Handles.at_head running items, ack] at hunstored
      exact TopicIdMap.getElement_eq_none.mp (hunstored _ rfl rfl rfl hopen awake)

theorem InStep.relayed (h : InStep c w) : Relayed gw c w act := by
  cases act with
  | handle ids =>
    intro running ev hev
    rintro ⟨owner, type, msgId⟩ hack rfl rfl hopen
    obtain ⟨-, packet, hid, hdone⟩ := brokerAck_handled gw hack
    rw [if_pos rfl] at hdone
    rcases handlePuback_cases (w.state.clients owner) packet with ⟨element, -, heq⟩ | ⟨hnone, -⟩
    · rw [heq, hid] at hdone
      exact ⟨_, element.topicId, hdone, List.mem_singleton_self _⟩
    · rw [hid, TopicIdMap.getElement_eq_none] at hnone
      exact absurd (h.held _ hopen rfl) hnone
  | _ => trivial

end Steps

section Runs

variable {gw : Gateway} {c : Nat} {clients : Nat → Client} {acts : List Act}

def Disciplined (gw : Gateway) (c : Nat) (w : Traced Ledger) (act : Act) : Prop :=
  Unstored c w act ∧ DistinctIds c w act ∧ FewOpen (w.step gw (booksOf c) act)

theorem run_relayed {w : Traced Ledger} (hgw : gw.topics.Sound) (hin : InStep c w) (hfew : FewOpen w)
    (h : Steps (Traced.step gw (booksOf c)) (Disciplined gw c) w acts) :
    Steps (Traced.step gw (booksOf c)) (Relayed gw c) w acts := by
  induction acts generalizing w with
  | nil => trivial
  | cons act acts ih =>
    obtain ⟨⟨hunstored, hdistinct, hstill⟩, hrest⟩ := h
    exact ⟨hin.relayed, ih ((step_passage gw c w act).inStep hgw hin hfew hunstored hdistinct)
      hstill hrest⟩

theorem run_forgotten {w : Traced Ledger} (hkept : (w.waited c).WellKept) (hsettled : Forgotten c w) :
    (∀ n, Forgotten c ((acts.take n).foldl (Traced.step gw (booksOf c)) w)) ↔
      Steps (Traced.step gw (booksOf c)) (Unstored c) w acts := by
  refine Steps.iff_prefixes_under (J := fun w : Traced Ledger => (w.waited c).WellKept) ?_ ?_
    hkept hsettled
  · intro w act h
    exact (step_passage gw c w act).wellKept h
  · intro w act h
    exact (step_passage gw c w act).forgotten h

end Runs

theorem waited_topics_erased (gw : Gateway) (clients : Nat → Client) (c : Nat)
    (hgw : gw.topics.Built) (hbuilt : (clients c).topics.Built)
    (hfresh : (clients c).waitedPubTopicIdMap = .initial) (acts : List Act) :
    ((∀ n, Forgotten c ((acts.take n).foldl (Traced.step gw (booksOf c)) (bookless clients))) ↔
      Steps (Traced.step gw (booksOf c)) (Unstored c) (bookless clients) acts) ∧
    (Steps (Traced.step gw (booksOf c)) (Disciplined gw c) (bookless clients) acts →
      Steps (Traced.step gw (booksOf c)) (Relayed gw c) (bookless clients) acts) := by
  have hmap : (bookless clients).waited c = .initial := hfresh
  have hkept : ((bookless clients).waited c).WellKept := hmap ▸ .initial
  refine ⟨run_forgotten hkept nofun, run_relayed hgw.sound ?_ ?_⟩
  · refine ⟨hbuilt.sound, hkept, List.nodup_nil, ?_, nofun⟩
    rw [hmap]
    nofun
  · exact Int.zero_le_ofNat _

instance (c : Nat) (w : Traced Ledger) : Decidable (Forgotten c w) :=
  inferInstanceAs (Decidable (∀ msgId ∈ w.ghost.settled, (w.waited c).getElement msgId = none))

instance (c : Nat) (w : Traced Ledger) (act : Act) : Decidable (Unstored c w act) :=
  @Handles.decidable _ (fun _ _ => inferInstance) w.state act

instance (c : Nat) (w : Traced Ledger) (act : Act) : Decidable (DistinctIds c w act) :=
  @Handles.decidable _ (fun _ _ => inferInstance) w.state act

instance (w : Traced Ledger) : Decidable (FewOpen w) :=
  inferInstanceAs (Decidable ((w.ghost.inflight.length : Int) ≤ MAX_INFLIGHTMESSAGES))

instance (gw : Gateway) (c : Nat) (w : Traced Ledger) (act : Act) :
    Decidable (Disciplined gw c w act) :=
  inferInstanceAs (Decidable (Unstored c w act ∧ DistinctIds c w act ∧
    FewOpen (w.step gw (booksOf c) act)))

def joins : List Act :=
  arrives (.clientRecv 0 (.connect (some ⟨false, false, 0⟩))) ++
    arrives (.brokerRecv 0 ⟨0x20, 2, [0, 0]⟩)

def shortPublish (qos : QoS) (msgId : UInt16) : Event :=
  .clientRecv 0 (.publish (some ⟨false, qos, false, msgId, ⟨.short, .shortName 0x61 0x62⟩, [0x68]⟩))

def exchange1 (msgId : UInt16) : List Act :=
  arrives (shortPublish .QOS1 msgId) ++ arrives (.brokerRecv 0 (.setAck PUBACK msgId))

def exchange2 (msgId : UInt16) : List Act :=
  arrives (shortPublish .QOS2 msgId) ++ arrives (.brokerRecv 0 (.setAck PUBREC msgId)) ++
    arrives (.clientRecv 0 (.pubrel (some msgId))) ++
    arrives (.brokerRecv 0 (.setAck PUBCOMP msgId))

theorem waited_topics_erased_once :
    ((joins ++ exchange1 7).foldl (Traced.step bareGateway (booksOf 0))
      (bookless freshClients)).ghost.settled = [7] ∧
    (∀ n, Forgotten 0 (((joins ++ exchange1 7).take n).foldl
      (Traced.step bareGateway (booksOf 0)) (bookless freshClients))) ∧
    Steps (Traced.step bareGateway (booksOf 0)) (Relayed bareGateway 0) (bookless freshClients)
      (joins ++ exchange1 7) :=
  have h := waited_topics_erased bareGateway freshClients 0 .initial .initial rfl
    (joins ++ exchange1 7)
  ⟨by decide +kernel, h.1.mpr (by decide +kernel), h.2 (by decide +kernel)⟩

def sentToClient : Result → List MQTTSNPacket
  | .done _ handled => handled.clientSend
  | _ => []

def crowded : List Act :=
  joins ++ ((List.range 21).map fun n => exchange2 (UInt16.ofNat (n + 1))).flatten ++
    arrives (shortPublish .QOS1 22) ++ [.post (.brokerRecv 0 (.setAck PUBACK 22))]

def crowd : Traced Ledger :=
  crowded.foldl (Traced.step bareGateway (booksOf 0)) (bookless freshClients)

theorem waited_topic_left :
    ¬Forgotten 0 ((joins ++ exchange2 7).foldl (Traced.step bareGateway (booksOf 0))
      (bookless freshClients)) ∧
    Steps (Traced.step bareGateway (booksOf 0))
      (fun w act => DistinctIds 0 w act ∧ FewOpen (w.step bareGateway (booksOf 0) act))
      (bookless freshClients) (crowded ++ [.handle noIds]) ∧
    ¬Steps (Traced.step bareGateway (booksOf 0)) (Relayed bareGateway 0) (bookless freshClients)
      (crowded ++ [.handle noIds]) := by
  refine ⟨by decide +kernel, by decide +kernel, ?_⟩
  intro h
  have hlast : Relayed bareGateway 0 crowd (.handle noIds) := (Steps.append.mp h).2.1
  obtain ⟨handled, topicId, hdone, hsent⟩ := hlast (by decide +kernel)
    (.brokerRecv 0 (.setAck PUBACK 22)) (by decide +kernel) (0, PUBACK, 22) (by decide +kernel) rfl rfl
    (by decide +kernel)
  have hnothing : sentToClient (handleEvent bareGateway noIds crowd.state.clients
      (.brokerRecv 0 (.setAck PUBACK 22))) = [] := by decide +kernel
  rw [hdone] at hnothing
  rw [sentToClient] at hnothing
  rw [hnothing] at hsent
  exact absurd hsent List.not_mem_nil

end MbedMqtt.MQTTSNGW
