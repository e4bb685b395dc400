import MbedMqtt.Gateway.PacketHandleTask

namespace MbedMqtt.MQTTSNGW

open PacketHandleTask

structure Observer (γ : Type) where
  posted : γ → State → Event → γ
  handled : γ → MessageIds → State → Event → Nat → Handled → γ

structure Traced (γ : Type) where
  state : State
  ghost : γ

def Handles (P : MessageIds → Event → Prop) (s : State) : Act → Prop
  | .handle ids => s.fault = false → ∀ ev ∈ s.packetEventQue.items.head?, P ids ev
  | _ => True

instance Handles.decidable {P : MessageIds → Event → Prop} [∀ ids ev, Decidable (P ids ev)]
    (s : State) : ∀ act, Decidable (Handles P s act)
  | .handle ids =>
      inferInstanceAs (Decidable (s.fault = false → ∀ ev ∈ s.packetEventQue.items.head?, P ids ev))
  | .post _ => .isTrue trivial
  | .connectSended _ => .isTrue trivial
  | .disconnected _ => .isTrue trivial

theorem Handles.at_head {P : MessageIds → Event → Prop} {s : State} {ids : MessageIds} {ev : Event}
    {rest : List Event} (hrunning : s.fault = false) (hitems : s.packetEventQue.items = ev :: rest) :
    Handles P s (.handle ids) ↔ P ids ev := by
  simp [Handles, hrunning, hitems]

def setClient (s : State) (c : Nat) (client : Client) : State :=
  { s with clients := Function.update s.clients c client }

theorem setClient_field {β : Type} (field : Client → β) {s : State} {client : Client} {target : Nat}
    (h : field client = field (s.clients target)) (c : Nat) :
    field ((setClient s target client).clients c) = field (s.clients c) :=
  update_related (R := fun before after => field after = field before) (fun _ => rfl) h c

namespace Traced

variable {γ : Type}

def notedResult (o : Observer γ) (w : Traced γ) (ids : MessageIds) (ev : Event) : Result → γ
  | .done target handled => o.handled w.ghost ids w.state ev target handled
  | _ => w.ghost

def noted (gw : Gateway) (o : Observer γ) (w : Traced γ) : Act → γ
  | .post ev => o.posted w.ghost w.state ev
  | .handle ids =>
      match w.state.packetEventQue.items with
      | [] => w.ghost
      | ev :: _ => notedResult o w ids ev (handleEvent gw ids w.state.clients ev)
  | _ => w.ghost

def step (gw : Gateway) (o : Observer γ) (w : Traced γ) (act : Act) : Traced γ where
  state := PacketHandleTask.step gw w.state act
  ghost := if w.state.fault then w.ghost else noted gw o w act

inductive Moves (gw : Gateway) (o : Observer γ) (w : Traced γ) : Act → Traced γ → Prop
  | stuck {act : Act} (fault : w.state.fault = true) : Moves gw o w act w
  | posted {ev : Event} (running : w.state.fault = false) :
      Moves gw o w (.post ev)
        ⟨{ w.state with packetEventQue := w.state.packetEventQue.post ev },
          o.posted w.ghost w.state ev⟩
  | connectSended {c : Nat} (running : w.state.fault = false) :
      Moves gw o w (.connectSended c)
        ⟨setClient w.state c (w.state.clients c).connectSended, w.ghost⟩
  | disconnected {c : Nat} (running : w.state.fault = false) :
      Moves gw o w (.disconnected c)
        ⟨setClient w.state c (w.state.clients c).disconnected, w.ghost⟩
  | empty {ids : MessageIds} (running : w.state.fault = false)
      (items : w.state.packetEventQue.items = []) : Moves gw o w (.handle ids) w
  | skipped {ids : MessageIds} {ev : Event} {rest : List Event} (running : w.state.fault = false)
      (items : w.state.packetEventQue.items = ev :: rest)
      (result : handleEvent gw ids w.state.clients ev = .nothing) :
      Moves gw o w (.handle ids) ⟨take w.state, w.ghost⟩
  | faulted {ids : MessageIds} {ev : Event} {rest : List Event} (running : w.state.fault = false)
      (items : w.state.packetEventQue.items = ev :: rest)
      (result : handleEvent gw ids w.state.clients ev = .fault) :
      Moves gw o w (.handle ids) ⟨{ w.state with fault := true }, w.ghost⟩
  | handled {ids : MessageIds} {ev : Event} {rest : List Event} {target : Nat} {handled : Handled}
      (running : w.state.fault = false) (items : w.state.packetEventQue.items = ev :: rest)
      (result : handleEvent gw ids w.state.clients ev = .done target handled) :
      Moves gw o w (.handle ids)
        ⟨apply (take w.state) target handled, o.handled w.ghost ids w.state ev target handled⟩

theorem moves_handle {gw : Gateway} {o : Observer γ} {w : Traced γ} {ids : MessageIds} {ev : Event}
    {rest : List Event} (hrunning : w.state.fault = false)
    (hitems : w.state.packetEventQue.items = ev :: rest) :
    Moves gw o w (.handle ids) (w.step gw o (.handle ids)) := by
  have hstep : w.step gw o (.handle ids) = ⟨finish w.state (handleEvent gw ids w.state.clients ev),
      notedResult o w ids ev (handleEvent gw ids w.state.clients ev)⟩ := by
    simp only [step, step_handle hrunning hitems, hrunning, noted, hitems]
    rfl
  rw [hstep]
  cases hresult : handleEvent gw ids w.state.clients ev with
  | nothing => exact .skipped hrunning hitems hresult
  | fault => exact .faulted hrunning hitems hresult
  | done target handled => exact .handled hrunning hitems hresult

theorem moves (gw : Gateway) (o : Observer γ) (w : Traced γ) (act : Act) :
    Moves gw o w act (w.step gw o act) := by
  cases hfault : w.state.fault with
  | true =>
    have hstep : w.step gw o act = w := by
      simp only [step, step_fault hfault, hfault]
      rfl
    rw [hstep]
    exact .stuck hfault
  | false =>
    cases act with
    | post ev =>
      have hstep : w.step gw o (.post ev) = ⟨{ w.state with
          packetEventQue := w.state.packetEventQue.post ev }, o.posted w.ghost w.state ev⟩ := by
        simp only [step, PacketHandleTask.step, hfault, noted]
        rfl
      rw [hstep]
      exact .posted hfault
    | connectSended c =>
      have hstep : w.step gw o (.connectSended c) =
          ⟨setClient w.state c (w.state.clients c).connectSended, w.ghost⟩ := by
        simp only [step, PacketHandleTask.step, hfault, noted, setClient]
        rfl
      rw [hstep]
      exact .connectSended hfault
    | disconnected c =>
      have hstep : w.step gw o (.disconnected c) =
          ⟨setClient w.state c (w.state.clients c).disconnected, w.ghost⟩ := by
        simp only [step, PacketHandleTask.step, hfault, noted, setClient]
        rfl
      rw [hstep]
      exact .disconnected hfault
    | handle ids =>
      cases hitems : w.state.packetEventQue.items with
      | nil =>
        have hstep : w.step gw o (.handle ids) = w := by
          simp only [step, step_empty hfault hitems, hfault, noted, hitems]
          rfl
        rw [hstep]
        exact .empty hfault hitems
      | cons ev rest => exact moves_handle hfault hitems

end Traced

end MbedMqtt.MQTTSNGW
