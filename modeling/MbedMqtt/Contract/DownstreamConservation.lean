import Mathlib.Data.List.Perm.Subperm
import MbedMqtt.Gateway.Downstream
import MbedMqtt.Gateway.Identity
import MbedMqtt.Gateway.Trace
import MbedMqtt.Contract.SleepQueue

namespace MbedMqtt.MQTTSNGW

open PacketHandleTask

structure Downflow where
  received : List Content
  sent : List Content
  deriving DecidableEq, Repr

def downflowOf (c : Nat) : Observer Downflow where
  posted flow _ ev := { flow with received := flow.received ++ (ev.content c).toList }
  handled flow _ _ _ target handled :=
    if target = c then { flow with sent := flow.sent ++ contents handled.clientSend } else flow

def opened (clients : Nat → Client) : Traced Downflow := ⟨PacketHandleTask.initial clients, ⟨[], []⟩⟩

def pending (c : Nat) (events : List Event) : List Content := events.filterMap (Event.content c)

structure Balanced (c : Nat) (held : List Content) (w : Traced Downflow) : Prop where
  plain : (w.state.clients c).isAggregater = false
  le : ∀ content, w.ghost.sent.count content + (w.state.clients c).holding.count content +
      (pending c w.state.packetEventQue.items).count content ≤
    held.count content + w.ghost.received.count content

section Pending

variable {c : Nat}

theorem pending_append (events later : List Event) :
    pending c (events ++ later) = pending c events ++ pending c later :=
  List.filterMap_append

theorem pending_cons (ev : Event) (events : List Event) :
    pending c (ev :: events) = (ev.content c).toList ++ pending c events := by
  rw [pending, List.filterMap_cons, pending]
  cases ev.content c with
  | none => rfl
  | some content => rfl

theorem pending_own (packets : List MQTTGWPacket) :
    pending c (packets.map (.brokerRecv c)) = storedContents packets := by
  rw [pending, List.filterMap_map, storedContents]
  congr 1
  funext packet
  simp [Event.content]

theorem pending_other {d : Nat} (hd : d ≠ c) (packets : List MQTTGWPacket) :
    pending c (packets.map (.brokerRecv d)) = [] := by
  rw [pending, List.filterMap_map, List.filterMap_eq_nil_iff]
  intro packet _
  simp [Event.content, hd]

theorem pending_postAll (que : Que Event) (events : List Event) (content : Content) :
    (pending c (que.postAll events).items).count content ≤
      (pending c que.items).count content + (pending c events).count content := by
  have haccepted : (que.accepted events).Sublist events := List.take_sublist _ _
  rw [Fifo.items_postAll, pending_append, List.count_append]
  exact Nat.add_le_add_left ((haccepted.filterMap _).count_le content) _

end Pending

namespace Balanced

variable {gw : Gateway} {c : Nat} {held : List Content} {w w' : Traced Downflow} {act : Act}

theorem setClient (h : Balanced c held w) {d : Nat} {client : Client}
    (hidentity : client.identity = (w.state.clients d).identity)
    (hholding : client.holding = (w.state.clients d).holding) :
    Balanced c held ⟨MQTTSNGW.setClient w.state d client, w.ghost⟩ where
  plain := (isAggregater_of_identity (setClient_field Client.identity hidentity c)).trans h.plain
  le content := by
    have hsame : ((MQTTSNGW.setClient w.state d client).clients c).holding =
        (w.state.clients c).holding := setClient_field Client.holding hholding c
    rw [hsame]
    exact h.le content

theorem handled (h : Balanced c held w) {ids : MessageIds} {ev : Event} {rest : List Event}
    {target : Nat} {handled : Handled} (hitems : w.state.packetEventQue.items = ev :: rest)
    (hresult : handleEvent gw ids w.state.clients ev = .done target handled) :
    Balanced c held ⟨apply (take w.state) target handled,
      (downflowOf c).handled w.ghost ids w.state ev target handled⟩ := by
  have hevents := fun content => pending_postAll (c := c) (take w.state).packetEventQue
    (handled.packetEvents.map (.brokerRecv target)) content
  simp only [take_items hitems] at hevents
  by_cases htarget : target = c
  · subst htarget
    refine ⟨?_, fun content => ?_⟩
    · rw [apply_client]
      exact (isAggregater_of_identity (handleEvent_identity hresult)).trans h.plain
    · have hconserved := handleEvent_conserves h.plain hresult content
      have hle := h.le content
      have hqueue := hevents content
      rw [hitems, pending_cons, List.count_append] at hle
      rw [pending_own] at hqueue
      rw [apply_client]
      simp only [downflowOf, if_true, List.count_append, apply] at hqueue ⊢
      omega
  · refine ⟨?_, fun content => ?_⟩
    · rw [apply_other htarget]
      exact h.plain
    · have hle := h.le content
      have hqueue := hevents content
      rw [hitems, pending_cons, List.count_append] at hle
      rw [pending_other htarget, List.count_nil] at hqueue
      rw [apply_other htarget]
      simp only [downflowOf, if_neg htarget, apply] at hqueue ⊢
      omega

theorem moves (h : Balanced c held w) (hmoves : Traced.Moves gw (downflowOf c) w act w') :
    Balanced c held w' := by
  cases hmoves with
  | stuck => exact h
  | @posted ev =>
    refine ⟨h.plain, fun content => ?_⟩
    have hle := h.le content
    have hqueue := pending_postAll (c := c) w.state.packetEventQue [ev] content
    simp only [Fifo.postAll, List.foldl_cons, List.foldl_nil, pending_cons] at hqueue
    simp only [downflowOf, List.count_append] at hqueue ⊢
    simp only [pending, List.filterMap_nil, List.count_nil] at hqueue hle ⊢
    omega
  | connectSended => exact h.setClient rfl rfl
  | disconnected => exact h.setClient rfl rfl
  | empty => exact h
  | skipped _ hitems =>
    refine ⟨h.plain, fun content => ?_⟩
    have hle := h.le content
    rw [hitems, pending_cons, List.count_append] at hle
    have hclients : (take w.state).clients c = w.state.clients c := rfl
    simp only [take_items hitems, hclients]
    omega
  | faulted => exact ⟨h.plain, h.le⟩
  | handled _ hitems hresult => exact h.handled hitems hresult

end Balanced

theorem downstream_conserved (gw : Gateway) {clients : Nat → Client} {c : Nat}
    (hplain : (clients c).isAggregater = false) (acts : List Act) :
    let w := acts.foldl (Traced.step gw (downflowOf c)) (opened clients)
    List.Subperm
      (w.ghost.sent ++ (w.state.clients c).holding ++ pending c w.state.packetEventQue.items)
      ((clients c).holding ++ w.ghost.received) := by
  have hopened : Balanced c (clients c).holding (opened clients) :=
    ⟨hplain, fun content => by simp [opened, initial, pending]⟩
  have hsteps : Steps (Traced.step gw (downflowOf c)) (fun _ _ => True) (opened clients) acts :=
    Steps.of_forall fun _ _ => trivial
  have hbalanced := hsteps.invariant (I := Balanced c (clients c).holding)
    (fun _ h => h.moves (Traced.moves gw (downflowOf c) _ _)) hopened
  rw [List.subperm_iff_count]
  intro content
  simpa only [List.count_append] using hbalanced.le content

def delayedHello : Traced Downflow :=
  (fallAsleep ++ arrives (.brokerRecv 0 storedHello) ++ arrives (.clientRecv 0 .pingreq) ++
    [Act.handle noIds]).foldl (Traced.step bareGateway (downflowOf 0)) (opened freshClients)

theorem downstream_conserved_delayed :
    delayedHello.ghost.sent = storedContents [storedHello] ∧
    List.Subperm
      (delayedHello.ghost.sent ++ (delayedHello.state.clients 0).holding ++
        pending 0 delayedHello.state.packetEventQue.items)
      ((freshClients 0).holding ++ delayedHello.ghost.received) :=
  ⟨by decide +kernel, downstream_conserved bareGateway rfl _⟩

end MbedMqtt.MQTTSNGW
