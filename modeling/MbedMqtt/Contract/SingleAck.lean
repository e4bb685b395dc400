import MbedMqtt.Contract.SleepQueue
import MbedMqtt.Gateway.Answers
import MbedMqtt.Gateway.Identity
import MbedMqtt.Library.Steps

namespace MbedMqtt.MQTTSNGW

open PacketHandleTask

structure Tally where
  queue : List (Event × Bool)
  waiting : List (WaitREGACKPacket × Bool)
  received : List UInt16
  acked : List UInt16
  fresh : List UInt16
  stale : List UInt16
  answered : List UInt16
  passed : List UInt16
  withheld : List UInt16
  deriving DecidableEq

namespace Tally

def start : Tally := ⟨[], [], [], [], [], [], [], [], []⟩

def publishOf (c : Nat) : Event → Option UInt16
  | .brokerRecv a packet => if a = c then packet.qos1 else none
  | _ => none

def pubackOf (c : Nat) : Event → Option UInt16
  | .clientRecv a (.puback (some ack)) => if a = c then some ack.msgId else none
  | _ => none

def freshPublish (c : Nat) (queued : Event × Bool) : Option UInt16 :=
  if queued.2 then none else publishOf c queued.1

def freshParked (parked : WaitREGACKPacket × Bool) : Option UInt16 :=
  if parked.2 then none else parked.1.packet.qos1

def headTag (t : Tally) : Bool := t.queue.head?.any (·.2)

def parkedTag (t : Tally) (ack : SNAck) : Bool :=
  (t.waiting.find? (·.1.msgId = ack.msgId)).any (·.2)

def tag (t : Tally) : Event → Bool
  | .clientRecv _ (.regack (some ack)) => t.parkedTag ack
  | _ => t.headTag

def parkedAfter (t : Tally) (client after : Client) : Event → List (WaitREGACKPacket × Bool)
  | .clientRecv _ (.regack (some ack)) =>
      if client.isActive || client.isAwake then t.waiting.eraseP (·.1.msgId = ack.msgId)
      else t.waiting
  | _ => t.waiting ++
      (after.waitREGACKList.list.drop client.waitREGACKList.list.length).map (·, t.headTag)

def arrived (c : Nat) (t : Tally) (s : State) (ev : Event) : Tally :=
  { t with
    queue := if s.packetEventQue.Room 1 ∧ ev.concerns c then t.queue ++ [(ev, false)] else t.queue
    received := t.received ++ (publishOf c ev).toList
    answered := t.answered ++ (pubackOf c ev).toList }

def turned (c : Nat) (t : Tally) (s : State) (ev : Event) (handled : Handled) : Tally :=
  { t with
    queue := (if ev.concerns c then t.queue.tail else t.queue) ++
      ((take s).packetEventQue.accepted (handled.packetEvents.map (.brokerRecv c))).map (·, true)
    waiting := t.parkedAfter (s.clients c) handled.client ev
    acked := t.acked ++ pubacks handled.brokerSend
    fresh := t.fresh ++ if t.tag ev then [] else published handled.clientSend
    stale := t.stale ++ if t.tag ev then published handled.clientSend else []
    passed := t.passed ++ if (pubackOf c ev).isSome then pubacks handled.brokerSend else []
    withheld := t.withheld ++
      if pubacks handled.brokerSend = [] then (pubackOf c ev).toList else [] }

end Tally

def tallyOf (c : Nat) : Observer Tally where
  posted := Tally.arrived c
  handled t _ s ev target handled := if target = c then t.turned c s ev handled else t

def AtMostOnce (w : Traced Tally) : Prop := ∀ msgId, w.ghost.acked.count msgId ≤ w.ghost.received.count msgId

structure Tally.Balance (c : Nat) (msgId : UInt16) (t : Tally) : Prop where
  accounted : t.acked.count msgId + t.fresh.count msgId +
      (t.waiting.filterMap Tally.freshParked).count msgId +
      (t.queue.filterMap (Tally.freshPublish c)).count msgId ≤
    t.received.count msgId + t.passed.count msgId
  passed : t.passed.count msgId ≤ t.fresh.count msgId
  answers : t.passed.count msgId + t.withheld.count msgId +
      (t.queue.filterMap fun queued => Tally.pubackOf c queued.1).count msgId ≤
    t.answered.count msgId
  believable : t.answered.count msgId ≤ t.fresh.count msgId + t.stale.count msgId

theorem Tally.Balance.atMostOnce {c : Nat} {msgId : UInt16} {t : Tally} (h : t.Balance c msgId) :
    t.acked.count msgId ≤ t.received.count msgId := by
  have haccounted := h.accounted
  have hpassed := h.passed
  omega

structure InOrder (c : Nat) (w : Traced Tally) : Prop where
  plain : (w.state.clients c).isAggregater = false
  queue : w.ghost.queue.map (·.1) = w.state.packetEventQue.items.filter (·.concerns c)
  waiting : w.ghost.waiting.map (·.1) = (w.state.clients c).waitREGACKList.list

def Answers (c : Nat) (w : Traced Tally) : Act → Prop
  | .post ev => ∀ msgId ∈ Tally.pubackOf c ev,
      w.ghost.answered.count msgId < w.ghost.fresh.count msgId + w.ghost.stale.count msgId
  | _ => True

def settles (gw : Gateway) (c : Nat) (t : Tally) (client : Client) : Event → Bool
  | .brokerRecv a packet =>
      a = c → packet.qos1.isSome → t.headTag = true → repliesItself client packet = false
  | .clientRecv a (.puback (some ack)) =>
      a = c → passesPuback gw client ack = true →
        t.stale.count ack.msgId ≤ t.withheld.count ack.msgId
  | _ => true

def Settles (gw : Gateway) (c : Nat) (w : Traced Tally) (act : Act) : Prop :=
  Handles (fun _ ev => settles gw c w.ghost (w.state.clients c) ev = true) w.state act

section Arrivals

variable {c : Nat} {msgId : UInt16} {t : Tally} {s : State} {ev : Event}

theorem Tally.Balance.arrived (h : t.Balance c msgId)
    (hanswers : ∀ id ∈ Tally.pubackOf c ev, t.answered.count id < t.fresh.count id + t.stale.count id) :
    (t.arrived c s ev).Balance c msgId := by
  have hfresh : Tally.freshPublish c (ev, false) = Tally.publishOf c ev := rfl
  have hanswered : t.answered.count msgId + (Tally.pubackOf c ev).toList.count msgId ≤
      t.fresh.count msgId + t.stale.count msgId := by
    have hbelievable := h.believable
    cases hpuback : Tally.pubackOf c ev with
    | none => simpa using hbelievable
    | some id =>
      have hid := hanswers id hpuback
      simp only [Option.toList_some, List.count_singleton, beq_iff_eq]
      split_ifs with heq
      · subst heq
        exact hid
      · exact hbelievable
  obtain ⟨haccounted, hpassed, hanswersCount, -⟩ := h
  refine ⟨?_, hpassed, ?_, ?_⟩
  · simp only [Tally.arrived, List.count_append]
    split_ifs
    · simp only [List.filterMap_append, List.filterMap_cons, hfresh, List.filterMap_nil,
        List.count_append]
      cases Tally.publishOf c ev with
      | none => simpa using haccounted
      | some id =>
        simp only [Option.toList_some]
        omega
    · omega
  · simp only [Tally.arrived, List.count_append]
    split_ifs
    · simp only [List.filterMap_append, List.filterMap_cons, List.filterMap_nil, List.count_append]
      cases Tally.pubackOf c ev with
      | none => simpa using hanswersCount
      | some id =>
        simp only [Option.toList_some]
        omega
    · omega
  · simp only [Tally.arrived, List.count_append]
    exact hanswered

end Arrivals

section Turns

variable {gw : Gateway} {c : Nat} {msgId : UInt16} {t : Tally} {s : State} {ev : Event}
  {handled : Handled}

def Tally.Heads (c : Nat) (t : Tally) (ev : Event) : Prop :=
  ev.concerns c = true → ∃ rest, t.queue = (ev, t.headTag) :: rest

theorem publishOf_elsewhere (h : ev.concerns c = false) : Tally.publishOf c ev = none := by
  cases ev with
  | brokerRecv a packet =>
    have hne : a ≠ c := by simpa [Event.concerns] using h
    exact if_neg hne
  | _ => rfl

theorem pubackOf_elsewhere (h : ev.concerns c = false) : Tally.pubackOf c ev = none := by
  cases ev with
  | clientRecv a packet =>
    have hne : a ≠ c := by simpa [Event.concerns] using h
    cases packet with
    | puback data =>
      cases data with
      | none => rfl
      | some ack => exact if_neg hne
    | _ => rfl
  | _ => rfl

theorem reposted_fresh (c : Nat) (events : List Event) :
    (events.map fun ev => (ev, true)).filterMap (Tally.freshPublish c) = [] := by
  rw [List.filterMap_eq_nil_iff]
  intro queued hmem
  obtain ⟨ev, -, rfl⟩ := List.mem_map.mp hmem
  rfl

theorem reposted_pubacks (c : Nat) (q : Que Event) (packets : List MQTTGWPacket) :
    ((q.accepted (packets.map (Event.brokerRecv c))).map fun ev => (ev, true)).filterMap
      (fun queued => Tally.pubackOf c queued.1) = [] := by
  rw [List.filterMap_eq_nil_iff]
  intro queued hmem
  obtain ⟨ev, haccepted, rfl⟩ := List.mem_map.mp hmem
  obtain ⟨packet, -, rfl⟩ := List.mem_map.mp (List.mem_of_mem_take haccepted)
  rfl

theorem count_filterMap_cons {α : Type} (f : α → Option UInt16) (x : α) (xs : List α) :
    ((x :: xs).filterMap f).count msgId = (f x).toList.count msgId + (xs.filterMap f).count msgId := by
  rw [List.filterMap_cons]
  cases f x with
  | none => simp
  | some id => rw [Option.toList_some, ← List.count_append, List.singleton_append]

theorem turned_fresh (h : t.Heads c ev) :
    (t.queue.filterMap (Tally.freshPublish c)).count msgId =
      ((t.turned c s ev handled).queue.filterMap (Tally.freshPublish c)).count msgId +
        (if t.headTag then none else Tally.publishOf c ev).toList.count msgId := by
  simp only [Tally.turned, List.filterMap_append, reposted_fresh, List.append_nil]
  cases hconcerns : ev.concerns c with
  | true =>
    obtain ⟨rest, hqueue⟩ := h hconcerns
    rw [hqueue, count_filterMap_cons, Nat.add_comm]
    rfl
  | false =>
    rw [publishOf_elsewhere hconcerns]
    simp

theorem turned_pubacks (h : t.Heads c ev) :
    (t.queue.filterMap fun queued => Tally.pubackOf c queued.1).count msgId =
      ((t.turned c s ev handled).queue.filterMap fun queued =>
        Tally.pubackOf c queued.1).count msgId + (Tally.pubackOf c ev).toList.count msgId := by
  simp only [Tally.turned, List.filterMap_append, reposted_pubacks, List.append_nil]
  cases hconcerns : ev.concerns c with
  | true =>
    obtain ⟨rest, hqueue⟩ := h hconcerns
    rw [hqueue, count_filterMap_cons, Nat.add_comm]
    rfl
  | false =>
    rw [pubackOf_elsewhere hconcerns]
    simp

theorem pubackOf_none (h : ∀ ack, ev ≠ .clientRecv c (.puback (some ack))) :
    Tally.pubackOf c ev = none := by
  cases ev with
  | clientRecv a packet =>
    cases packet with
    | puback data =>
      cases data with
      | none => rfl
      | some ack =>
        refine if_neg ?_
        rintro rfl
        exact h ack rfl
    | _ => rfl
  | _ => rfl

theorem parkedAfter_same {client after : Client}
    (hregack : ∀ a ack, ev ≠ .clientRecv a (.regack (some ack)))
    (hwaiting : after.waitREGACKList = client.waitREGACKList) :
    t.parkedAfter client after ev = t.waiting := by
  have hnone : t.waiting ++ (after.waitREGACKList.list.drop client.waitREGACKList.list.length).map
      (·, t.headTag) = t.waiting := by
    rw [hwaiting, List.drop_length, List.map_nil, List.append_nil]
  cases ev with
  | clientRecv a packet =>
    cases packet with
    | regack data =>
      cases data with
      | none => exact hnone
      | some ack => exact absurd rfl (hregack a ack)
    | _ => exact hnone
  | _ => exact hnone

theorem count_eraseP {α : Type} {p : α → Bool} {xs : List α} {x : α} (f : α → Option UInt16)
    (h : xs.find? p = some x) :
    (xs.filterMap f).count msgId =
      ((xs.eraseP p).filterMap f).count msgId + (f x).toList.count msgId := by
  obtain ⟨hp, before, after, rfl, hbefore⟩ := List.find?_eq_some_iff_append.mp h
  rw [List.eraseP_append_right _ (by simpa using hbefore), List.eraseP_cons_of_pos hp,
    List.filterMap_append, List.filterMap_append, List.count_append, List.count_append,
    count_filterMap_cons]
  omega

theorem released_tagged {client : Client} {ack : SNAck}
    (hsync : t.waiting.map (·.1) = client.waitREGACKList.list)
    (hawake : (client.isActive || client.isAwake) = true) :
    released client ack = (t.waiting.find? (·.1.msgId = ack.msgId)).map (·.1) := by
  rw [released, if_pos hawake, ← hsync, List.find?_map]
  rfl

namespace Tally.Balance

variable (h : t.Balance c msgId) (hheads : t.Heads c ev)

include h hheads

theorem turned
    (hparks : (pubacks handled.brokerSend).count msgId +
        (if t.tag ev then [] else published handled.clientSend).count msgId +
        ((t.parkedAfter (s.clients c) handled.client ev).filterMap freshParked).count msgId ≤
      (t.waiting.filterMap freshParked).count msgId +
        (if t.headTag then none else publishOf c ev).toList.count msgId +
        (if (pubackOf c ev).isSome then pubacks handled.brokerSend else []).count msgId)
    (hroom : t.passed.count msgId +
        (if (pubackOf c ev).isSome then pubacks handled.brokerSend else []).count msgId ≤
      t.fresh.count msgId)
    (hspent : (if (pubackOf c ev).isSome then pubacks handled.brokerSend else []).count msgId +
        (if pubacks handled.brokerSend = [] then (pubackOf c ev).toList else []).count msgId ≤
      (pubackOf c ev).toList.count msgId) :
    (t.turned c s ev handled).Balance c msgId := by
  have hqueue := @turned_fresh c msgId t s ev handled hheads
  have hpubacks := @turned_pubacks c msgId t s ev handled hheads
  obtain ⟨haccounted, hpassed, hanswers, hbelievable⟩ := h
  have hacked : (t.turned c s ev handled).acked.count msgId = _ := List.count_append
  have hfresh : (t.turned c s ev handled).fresh.count msgId = _ := List.count_append
  have hstale : (t.turned c s ev handled).stale.count msgId = _ := List.count_append
  have hforwarded : (t.turned c s ev handled).passed.count msgId = _ := List.count_append
  have hwithheld : (t.turned c s ev handled).withheld.count msgId = _ := List.count_append
  have hreceived : (t.turned c s ev handled).received = t.received := rfl
  have hanswered : (t.turned c s ev handled).answered = t.answered := rfl
  have hwaiting : (t.turned c s ev handled).waiting =
    t.parkedAfter (s.clients c) handled.client ev := rfl
  refine ⟨?_, ?_, ?_, ?_⟩
  · rw [hacked, hfresh, hforwarded, hreceived, hwaiting]
    omega
  · rw [hforwarded, hfresh]
    omega
  · rw [hforwarded, hwithheld, hanswered]
    omega
  · rw [hfresh, hstale, hanswered]
    omega

theorem silent (hpuback : ∀ ack, ev ≠ .clientRecv c (.puback (some ack)))
    (hregack : ∀ a ack, ev ≠ .clientRecv a (.regack (some ack)))
    (hacks : pubacks handled.brokerSend = []) (hpublishes : published handled.clientSend = [])
    (hwaiting : handled.client.waitREGACKList = (s.clients c).waitREGACKList) :
    (t.turned c s ev handled).Balance c msgId := by
  refine h.turned hheads ?_ ?_ ?_
  · rw [hacks, hpublishes, parkedAfter_same hregack hwaiting, ite_self, ite_self, List.count_nil]
    omega
  · rw [hacks, ite_self]
    exact h.passed
  · rw [pubackOf_none hpuback]
    simp

theorem puback {ack : SNAck} (hev : ev = .clientRecv c (.puback (some ack)))
    (hacks : pubacks handled.brokerSend =
      if passesPuback gw (s.clients c) ack then [ack.msgId] else [])
    (hpublishes : published handled.clientSend = [])
    (hwaiting : handled.client.waitREGACKList = (s.clients c).waitREGACKList)
    (hsettles : settles gw c t (s.clients c) ev = true) : (t.turned c s ev handled).Balance c msgId := by
  have hid : pubackOf c ev = some ack.msgId := by rw [hev]; exact if_pos rfl
  have hregack : ∀ a data, ev ≠ .clientRecv a (.regack (some data)) := by rw [hev]; nofun
  refine h.turned hheads ?_ ?_ ?_
  · rw [hid, hpublishes, parkedAfter_same hregack hwaiting, ite_self, Option.isSome_some, if_pos rfl,
      List.count_nil]
    omega
  · rw [hid, Option.isSome_some, if_pos rfl, hacks]
    cases hpasses : passesPuback gw (s.clients c) ack with
    | false => exact h.passed
    | true =>
      rw [if_pos rfl]
      by_cases hsame : ack.msgId = msgId
      · rw [hev] at hsettles
        have hstale : t.stale.count ack.msgId ≤ t.withheld.count ack.msgId :=
          of_decide_eq_true hsettles rfl hpasses
        have hpubacks := @turned_pubacks c msgId t s ev handled hheads
        have hanswers := h.answers
        have hbelievable := h.believable
        rw [hid, Option.toList_some] at hpubacks
        subst hsame
        rw [List.count_singleton_self] at hpubacks ⊢
        omega
      · rw [List.count_singleton, beq_eq_false_iff_ne.mpr hsame]
        exact h.passed
  · rw [hid, Option.isSome_some, if_pos rfl, hacks, Option.toList_some]
    cases passesPuback gw (s.clients c) ack with
    | false => simp
    | true => simp

theorem regack {ack : SNAck} (hev : ev = .clientRecv c (.regack (some ack)))
    (hsync : t.waiting.map (·.1) = (s.clients c).waitREGACKList.list)
    (hacks : pubacks handled.brokerSend = [])
    (hpublishes : published handled.clientSend =
      ((released (s.clients c) ack).bind (·.packet.qos1)).toList) :
    (t.turned c s ev handled).Balance c msgId := by
  have hnone : pubackOf c ev = none := by rw [hev]; rfl
  have htag : t.tag ev = t.parkedTag ack := by rw [hev]; rfl
  have hparked : t.parkedAfter (s.clients c) handled.client ev =
      if (s.clients c).isActive || (s.clients c).isAwake then
        t.waiting.eraseP (·.1.msgId = ack.msgId)
      else t.waiting := by rw [hev]; rfl
  refine h.turned hheads ?_ ?_ ?_
  · rw [hacks, hpublishes, htag, hparked, ite_self, List.count_nil]
    cases hawake : (s.clients c).isActive || (s.clients c).isAwake with
    | false =>
      have hkept : released (s.clients c) ack = none := by rw [released, hawake]; rfl
      rw [hkept]
      simp
    | true =>
      rw [released_tagged hsync hawake, if_pos rfl, parkedTag]
      cases hfound : t.waiting.find? (·.1.msgId = ack.msgId) with
      | none =>
        have hsublist : ((t.waiting.eraseP (·.1.msgId = ack.msgId)).filterMap freshParked).Sublist
            (t.waiting.filterMap freshParked) := List.eraseP_sublist.filterMap _
        have hle := hsublist.count_le msgId
        simp only [Option.map_none, Option.bind_none, Option.toList_none, ite_self, List.count_nil]
        omega
      | some parked =>
        have hcount := @count_eraseP msgId _ _ _ _ freshParked hfound
        obtain ⟨entry, stored⟩ := parked
        cases stored with
        | true =>
          simp only [Option.any_some, if_true, List.count_nil]
          omega
        | false =>
          have hentry : freshParked (entry, false) = entry.packet.qos1 := rfl
          rw [hentry] at hcount
          simp only [Option.any_some, Option.map_some, Option.bind_some, Bool.false_eq_true, if_false]
          omega
  · rw [hacks, ite_self]
    exact h.passed
  · rw [hnone]
    simp

theorem publish {packet : MQTTGWPacket} (hev : ev = .brokerRecv c packet)
    (hturn : PublishTurn (s.clients c) packet handled)
    (hsettles : settles gw c t (s.clients c) ev = true) : (t.turned c s ev handled).Balance c msgId := by
  have hnone : pubackOf c ev = none := by rw [hev]; rfl
  have hpublish : publishOf c ev = packet.qos1 := by rw [hev]; exact if_pos rfl
  have htag : t.tag ev = t.headTag := by rw [hev]; rfl
  have hregack : ∀ a data, ev ≠ .clientRecv a (.regack (some data)) := by rw [hev]; nofun
  have hspent : ((if (pubackOf c ev).isSome then pubacks handled.brokerSend else []).count msgId +
      (if pubacks handled.brokerSend = [] then (pubackOf c ev).toList else []).count msgId ≤
      (pubackOf c ev).toList.count msgId) := by
    rw [hnone]
    simp
  have hroom : t.passed.count msgId +
      (if (pubackOf c ev).isSome then pubacks handled.brokerSend else []).count msgId ≤
      t.fresh.count msgId := by
    rw [hnone]
    exact h.passed
  refine h.turned hheads ?_ hroom hspent
  rw [htag, hpublish, hnone]
  cases hturn with
  | replied itself acks publishes waiting =>
    rw [parkedAfter_same hregack waiting, acks, publishes, ite_self]
    cases hheadTag : t.headTag with
    | false => simp [Nat.add_comm]
    | true =>
      have hsilent : packet.qos1 = none := by
        cases hqos : packet.qos1 with
        | none => rfl
        | some id =>
          rw [hev] at hsettles
          have hno := of_decide_eq_true hsettles rfl (by rw [hqos]; rfl) hheadTag
          exact absurd (itself.symm.trans hno) Bool.noConfusion
      rw [hsilent]
      simp
  | sent acks publishes waiting =>
    rw [parkedAfter_same hregack waiting, acks, publishes]
    cases t.headTag with
    | false => simp [Nat.add_comm]
    | true => simp
  | parked acks publishes waiting =>
    obtain ⟨entry, hentry, hlist⟩ := waiting
    have hparked : t.parkedAfter (s.clients c) handled.client ev =
        t.waiting ++ [(entry, t.headTag)] := by
      rw [hev]
      simp only [parkedAfter, hlist, List.drop_left, List.map_cons, List.map_nil]
    rw [hparked, acks, publishes, List.filterMap_append, List.count_append, ← hentry]
    cases t.headTag with
    | false =>
      cases hqos : entry.packet.qos1 with
      | none => simp [freshParked, hqos]
      | some id => simp [freshParked, hqos]
    | true => simp [freshParked]
  | dropped acks publishes waiting =>
    rw [parkedAfter_same hregack waiting, acks, publishes, ite_self, List.count_nil]
    omega

theorem ofTurn (hsync : t.waiting.map (·.1) = (s.clients c).waitREGACKList.list)
    (hturn : Turn gw (s.clients c) c ev handled) (hsettles : settles gw c t (s.clients c) ev = true) :
    (t.turned c s ev handled).Balance c msgId := by
  cases hturn with
  | silent puback regack publish acks publishes waiting =>
    exact h.silent hheads puback regack acks publishes waiting
  | puback ack acks publishes waiting => exact h.puback hheads rfl acks publishes waiting hsettles
  | regack ack acks publishes waiting => exact h.regack hheads rfl hsync acks publishes
  | publish packet turn => exact h.publish hheads rfl turn hsettles

end Tally.Balance

theorem parkedAfter_sync {client : Client}
    (hsync : t.waiting.map (·.1) = client.waitREGACKList.list)
    (hturn : Turn gw client c ev handled) :
    (t.parkedAfter client handled.client ev).map (·.1) = handled.client.waitREGACKList.list := by
  cases hturn with
  | silent puback regack publish acks publishes waiting =>
    rw [parkedAfter_same regack waiting, hsync, waiting]
  | puback ack acks publishes waiting =>
    have hregack : ∀ a data, Event.clientRecv c (.puback (some ack)) ≠
      .clientRecv a (.regack (some data)) := nofun
    rw [parkedAfter_same hregack waiting, hsync, waiting]
  | regack ack acks publishes waiting =>
    rw [waiting, Tally.parkedAfter, ← hsync]
    split_ifs
    · rw [List.eraseP_map]
      rfl
    · rfl
  | publish packet turn =>
    have hregack : ∀ a data, Event.brokerRecv c packet ≠ .clientRecv a (.regack (some data)) := nofun
    cases turn with
    | replied itself acks publishes waiting => rw [parkedAfter_same hregack waiting, hsync, waiting]
    | sent acks publishes waiting => rw [parkedAfter_same hregack waiting, hsync, waiting]
    | dropped acks publishes waiting => rw [parkedAfter_same hregack waiting, hsync, waiting]
    | parked acks publishes waiting =>
      obtain ⟨entry, -, hlist⟩ := waiting
      simp only [Tally.parkedAfter, hlist, List.drop_left, List.map_append, hsync, List.map_cons,
        List.map_nil]

end Turns

section Steps

variable {gw : Gateway} {ids : MessageIds} {c : Nat} {w after : Traced Tally} {act : Act} {ev : Event}
  {rest : List Event} {target : Nat} {handled : Handled}

theorem InOrder.heads (h : InOrder c w) (hitems : w.state.packetEventQue.items = ev :: rest) :
    w.ghost.Heads c ev := by
  intro hconcerns
  have hqueue := h.queue
  rw [hitems, List.filter_cons, if_pos hconcerns] at hqueue
  match hghost : w.ghost.queue with
  | [] => simp [hghost] at hqueue
  | (other, tag) :: queue =>
    rw [hghost, List.map_cons, List.cons.injEq] at hqueue
    obtain rfl : other = ev := hqueue.1
    refine ⟨queue, ?_⟩
    simp [Tally.headTag, hghost]

theorem InOrder.behind (h : InOrder c w) (hitems : w.state.packetEventQue.items = ev :: rest) :
    (if ev.concerns c then w.ghost.queue.tail else w.ghost.queue).map (·.1) =
      rest.filter (·.concerns c) := by
  have hqueue := h.queue
  rw [hitems] at hqueue
  cases hconcerns : ev.concerns c with
  | true =>
    rw [List.filter_cons, if_pos hconcerns] at hqueue
    rw [if_pos rfl, List.map_tail, hqueue, List.tail_cons]
  | false =>
    rw [List.filter_cons, hconcerns, if_neg Bool.false_ne_true] at hqueue
    rw [if_neg Bool.false_ne_true, hqueue]

theorem target_of_concerns {clients : Nat → Client} (hplain : (clients c).isAggregater = false)
    (hconcerns : ev.concerns c = true) (h : handleEvent gw ids clients ev = .done target handled) :
    target = c := by
  cases ev with
  | broadcast => cases h
  | clientRecv a packet =>
    obtain rfl : a = c := by simpa [Event.concerns] using hconcerns
    exact (ofOption_done h).1
  | brokerRecv a packet =>
    obtain rfl : a = c := by simpa [Event.concerns] using hconcerns
    simp only [handleEvent, hplain, Bool.false_eq_true, if_false] at h
    exact (ofOption_done h).1

theorem filter_accepted (q : Que Event) (packets : List MQTTGWPacket) (target c : Nat) :
    (q.accepted (packets.map (Event.brokerRecv target))).filter (·.concerns c) =
      if target = c then q.accepted (packets.map (Event.brokerRecv target)) else [] := by
  have hconcerns : ∀ ev ∈ q.accepted (packets.map (Event.brokerRecv target)),
      ev.concerns c = decide (target = c) := by
    intro ev hmem
    obtain ⟨packet, -, rfl⟩ := List.mem_map.mp (List.mem_of_mem_take hmem)
    rfl
  split_ifs with htarget
  · rw [List.filter_eq_self]
    intro ev hmem
    rw [hconcerns ev hmem, decide_eq_true htarget]
  · rw [List.filter_eq_nil_iff]
    intro ev hmem
    rw [hconcerns ev hmem, decide_eq_false htarget]
    decide

theorem applied_items (hitems : w.state.packetEventQue.items = ev :: rest) :
    ((apply (take w.state) target handled).packetEventQue.items).filter (·.concerns c) =
      rest.filter (·.concerns c) ++ if target = c then
        (take w.state).packetEventQue.accepted (handled.packetEvents.map (Event.brokerRecv target))
      else [] := by
  simp only [apply, Fifo.items_postAll, List.filter_append, filter_accepted, take_items hitems]

theorem InOrder.turned (h : InOrder c w) (hitems : w.state.packetEventQue.items = ev :: rest)
    (hdone : handleEvent gw ids w.state.clients ev = .done target handled) :
    InOrder c ⟨apply (take w.state) target handled,
      (tallyOf c).handled w.ghost ids w.state ev target handled⟩ := by
  have hbehind := h.behind hitems
  by_cases htarget : target = c
  · subst htarget
    have hturn := handleEvent_turn h.plain hdone
    refine ⟨?_, ?_, ?_⟩
    · rw [apply_client]
      exact (isAggregater_of_identity (handleEvent_identity hdone)).trans h.plain
    · rw [applied_items hitems, if_pos rfl, ← hbehind]
      simp only [tallyOf, if_true, Tally.turned, List.map_append, List.map_map]
      congr 1
      exact List.map_id _
    · rw [apply_client]
      simp only [tallyOf, if_true, Tally.turned]
      exact parkedAfter_sync h.waiting hturn
  · have hconcerns : ev.concerns c = false := by
      by_contra hconcerns
      exact htarget (target_of_concerns h.plain (by simpa using hconcerns) hdone)
    rw [hconcerns, if_neg Bool.false_ne_true] at hbehind
    simp only [tallyOf, if_neg htarget]
    refine ⟨?_, ?_, ?_⟩
    · rw [apply_other htarget]
      exact h.plain
    · rw [applied_items hitems, if_neg htarget, List.append_nil]
      exact hbehind
    · rw [apply_other htarget]
      exact h.waiting

theorem InOrder.arrived (h : InOrder c w) (ev : Event) :
    InOrder c ⟨{ w.state with packetEventQue := w.state.packetEventQue.post ev },
      (tallyOf c).posted w.ghost w.state ev⟩ := by
  refine ⟨h.plain, ?_, h.waiting⟩
  simp only [tallyOf, Tally.arrived]
  by_cases hroom : w.state.packetEventQue.Room 1
  · rw [Fifo.post_items hroom, List.filter_append, ← h.queue]
    cases hconcerns : ev.concerns c with
    | true => simp [hroom, hconcerns]
    | false => simp [hconcerns]
  · rw [Fifo.post_full hroom, if_neg (fun hboth => hroom hboth.1)]
    exact h.queue

theorem InOrder.setClient {client : Client} (h : InOrder c w)
    (haggregater : client.isAggregater = (w.state.clients target).isAggregater)
    (hwaiting : client.waitREGACKList = (w.state.clients target).waitREGACKList) :
    InOrder c ⟨MQTTSNGW.setClient w.state target client, w.ghost⟩ := by
  refine ⟨?_, h.queue, ?_⟩
  · exact (setClient_field Client.isAggregater haggregater c).trans h.plain
  · rw [h.waiting]
    exact congrArg WaitREGACKPacketList.list (setClient_field Client.waitREGACKList hwaiting c).symm

structure Kept (c : Nat) (w : Traced Tally) : Prop where
  inOrder : InOrder c w
  balance : ∀ msgId, w.ghost.Balance c msgId

theorem Kept.moves (h : Kept c w) (hmoves : Traced.Moves gw (tallyOf c) w act after)
    (hanswers : Answers c w act) (hsettles : Settles gw c w act) : Kept c after := by
  cases hmoves with
  | stuck fault => exact h
  | @posted ev running =>
    exact ⟨h.inOrder.arrived ev, fun msgId => (h.balance msgId).arrived hanswers⟩
  | @connectSended a running =>
    exact ⟨h.inOrder.setClient rfl rfl, h.balance⟩
  | @disconnected a running =>
    exact ⟨h.inOrder.setClient rfl rfl, h.balance⟩
  | empty running items => exact h
  | @skipped ids ev rest running items result =>
    obtain rfl := handleEvent_nothing result
    refine ⟨⟨h.inOrder.plain, ?_, h.inOrder.waiting⟩, h.balance⟩
    rw [take_items items]
    exact h.inOrder.behind items
  | faulted running items result => exact ⟨⟨h.inOrder.plain, h.inOrder.queue, h.inOrder.waiting⟩, h.balance⟩
  | @handled ids ev rest target handled running items result =>
    refine ⟨h.inOrder.turned items result, ?_⟩
    intro msgId
    by_cases htarget : target = c
    · subst htarget
      rw [Settles, Handles.at_head running items] at hsettles
      simp only [tallyOf, if_true]
      exact (h.balance msgId).ofTurn (h.inOrder.heads items) h.inOrder.waiting
        (handleEvent_turn h.inOrder.plain result) hsettles
    · simp only [tallyOf, if_neg htarget]
      exact h.balance msgId

end Steps

def untallied (clients : Nat → Client) : Traced Tally := ⟨initial clients, .start⟩

def Attentive (gw : Gateway) (c : Nat) (w : Traced Tally) (act : Act) : Prop :=
  Answers c w act ∧ Settles gw c w act

theorem run_kept {gw : Gateway} {c : Nat} {w : Traced Tally} {acts : List Act} (hkept : Kept c w)
    (h : Steps (Traced.step gw (tallyOf c)) (Attentive gw c) w acts) :
    Kept c (acts.foldl (Traced.step gw (tallyOf c)) w) := by
  refine Steps.invariant ?_ h hkept
  intro w act hattentive hkept
  exact hkept.moves (Traced.moves gw (tallyOf c) w act) hattentive.1 hattentive.2

theorem acknowledged_at_most_once (gw : Gateway) (clients : Nat → Client) (c : Nat)
    (hplain : (clients c).isAggregater = false) (hidle : (clients c).waitREGACKList.list = [])
    (acts : List Act)
    (h : Steps (Traced.step gw (tallyOf c)) (Attentive gw c) (untallied clients) acts) (n : Nat) :
    AtMostOnce ((acts.take n).foldl (Traced.step gw (tallyOf c)) (untallied clients)) := by
  rw [← List.take_append_drop n acts, Steps.append] at h
  have hstart : Kept c (untallied clients) :=
    ⟨⟨hplain, rfl, hidle.symm⟩, fun msgId => ⟨Nat.le_refl _, Nat.le_refl _, Nat.le_refl _, Nat.le_refl _⟩⟩
  intro msgId
  exact ((run_kept hstart h.1).balance msgId).atMostOnce

instance (c : Nat) (w : Traced Tally) : ∀ act, Decidable (Answers c w act)
  | .post ev => Option.decidableForallMem (Tally.pubackOf c ev)
  | .handle _ => .isTrue trivial
  | .connectSended _ => .isTrue trivial
  | .disconnected _ => .isTrue trivial

instance (gw : Gateway) (c : Nat) (w : Traced Tally) (act : Act) : Decidable (Settles gw c w act) :=
  @Handles.decidable _ (fun _ _ => inferInstance) w.state act

instance (gw : Gateway) (c : Nat) (w : Traced Tally) (act : Act) : Decidable (Attentive gw c w act) :=
  inferInstanceAs (Decidable (Answers c w act ∧ Settles gw c w act))

def awakeHello : List Act :=
  arrives (.clientRecv 0 (.connect (some ⟨false, false, 0⟩))) ++
    arrives (.brokerRecv 0 ⟨0x20, 2, [0, 0]⟩) ++ arrives (.brokerRecv 0 storedHello) ++
    arrives (.clientRecv 0 (.puback (some ⟨0, 1, MQTTSN_RC_ACCEPTED⟩)))

theorem acknowledged_once :
    (awakeHello.foldl (Traced.step bareGateway (tallyOf 0)) (untallied freshClients)).ghost.acked = [1] ∧
    AtMostOnce ((awakeHello.take 8).foldl (Traced.step bareGateway (tallyOf 0))
      (untallied freshClients)) :=
  ⟨by decide +kernel, acknowledged_at_most_once bareGateway freshClients 0 rfl rfl awakeHello
    (by decide +kernel) 8⟩

def wokenHello : List Act :=
  fallAsleep ++ arrives (.brokerRecv 0 storedHello) ++
    arrives (.clientRecv 0 (.connect (some ⟨false, false, 0⟩))) ++ [.handle noIds] ++
    arrives (.clientRecv 0 (.puback (some ⟨0, 1, MQTTSN_RC_ACCEPTED⟩)))

theorem acknowledged_twice :
    Steps (Traced.step bareGateway (tallyOf 0)) (Answers 0) (untallied freshClients) wokenHello ∧
    ¬AtMostOnce (wokenHello.foldl (Traced.step bareGateway (tallyOf 0)) (untallied freshClients)) := by
  refine ⟨by decide +kernel, ?_⟩
  intro h
  exact absurd (h 1) (by decide +kernel)

end MbedMqtt.MQTTSNGW
