import MbedMqtt.Library.Simulation
import MbedMqtt.Contract.SleepQueue
import MbedMqtt.Gateway.Stage
import MbedMqtt.Gateway.Trace

namespace MbedMqtt.MQTTSNGW

open PacketHandleTask

structure Sends where
  clientSend : List MQTTSNPacket
  brokerSend : List MQTTGWPacket
  suspended : List MQTTSNPacket
  deriving DecidableEq, Repr

def Sends.add (sends : Sends) (handled : Handled) : Sends where
  clientSend := sends.clientSend ++ handled.clientSend
  brokerSend := sends.brokerSend ++ handled.brokerSend
  suspended := sends.suspended ++ handled.suspended

def sending : Observer (Nat → Sends) where
  posted sends _ _ := sends
  handled sends _ _ _ target handled :=
    Function.update sends target ((sends target).add handled)

def Traced.start (clients : Nat → Client) : Traced (Nat → Sends) :=
  ⟨PacketHandleTask.initial clients, fun _ => ⟨[], [], []⟩⟩

def touches (c : Nat) (s : State) : Act → Bool
  | .post ev => ev.concerns c
  | .handle _ => s.packetEventQue.items.head?.any (·.concerns c)
  | .connectSended d => d = c
  | .disconnected d => d = c

def attends (c : Nat) (w : Traced (Nat → Sends)) (act : Act) : Bool :=
  !w.state.fault && touches c w.state act

-- the run that is left when everything about the other clients is taken out
def ownActs (gw : Gateway) (c : Nat) (w : Traced (Nat → Sends)) (acts : List Act) : List Act :=
  purge (Traced.step gw sending) (attends c) w acts

def PacketHandleTask.Result.posts : Result → Nat
  | .done _ handled => handled.packetEvents.length
  | _ => 0

def Roomy (gw : Gateway) (w : Traced (Nat → Sends)) : Act → Prop
  | .post _ => w.state.packetEventQue.Room 1
  | .handle ids => ∀ ev ∈ w.state.packetEventQue.items.head?,
      w.state.packetEventQue.pop.Room (handleEvent gw ids w.state.clients ev).posts
  | _ => True

instance (gw : Gateway) (w : Traced (Nat → Sends)) : ∀ act, Decidable (Roomy gw w act)
  | .post _ => inferInstanceAs (Decidable (w.state.packetEventQue.Room 1))
  | .handle ids => inferInstanceAs (Decidable (∀ ev ∈ w.state.packetEventQue.items.head?,
      w.state.packetEventQue.pop.Room (handleEvent gw ids w.state.clients ev).posts))
  | .connectSended _ => .isTrue trivial
  | .disconnected _ => .isTrue trivial

theorem filter_concerns {c d : Nat} (packets : List MQTTGWPacket) :
    (packets.map (Event.brokerRecv d)).filter (·.concerns c) =
      if d = c then packets.map (.brokerRecv d) else [] := by
  split
  · rename_i hd
    simp [List.filter_eq_self, Event.concerns, hd]
  · rename_i hd
    simp [List.filter_eq_nil_iff, Event.concerns, hd]

theorem Traced.step_handle {γ : Type} {gw : Gateway} {o : Observer γ} {w : Traced γ}
    {ids : MessageIds} {ev : Event} {rest : List Event} (hrunning : w.state.fault = false)
    (hitems : w.state.packetEventQue.items = ev :: rest) :
    w.step gw o (.handle ids) = ⟨finish w.state (handleEvent gw ids w.state.clients ev),
      notedResult o w ids ev (handleEvent gw ids w.state.clients ev)⟩ := by
  simp only [step, PacketHandleTask.step_handle hrunning hitems, hrunning, noted, hitems]
  rfl

section Steps

variable {γ : Type} {gw : Gateway} {o : Observer γ} {w : Traced γ}

theorem Traced.step_post (hrunning : w.state.fault = false) (ev : Event) :
    w.step gw o (.post ev) = ⟨{ w.state with packetEventQue := w.state.packetEventQue.post ev },
      o.posted w.ghost w.state ev⟩ := by
  simp only [step, PacketHandleTask.step, hrunning, noted]
  rfl

theorem Traced.step_connectSended (hrunning : w.state.fault = false) (c : Nat) :
    w.step gw o (.connectSended c) =
      ⟨MQTTSNGW.setClient w.state c (w.state.clients c).connectSended, w.ghost⟩ := by
  simp only [step, PacketHandleTask.step, hrunning, noted, MQTTSNGW.setClient]
  rfl

theorem Traced.step_disconnected (hrunning : w.state.fault = false) (c : Nat) :
    w.step gw o (.disconnected c) =
      ⟨MQTTSNGW.setClient w.state c (w.state.clients c).disconnected, w.ghost⟩ := by
  simp only [step, PacketHandleTask.step, hrunning, noted, MQTTSNGW.setClient]
  rfl

end Steps

-- `v` serves the client as `w` does, and may hold nothing about the others
structure Alike (c : Nat) (w v : Traced (Nat → Sends)) : Prop where
  client : v.state.clients c = w.state.clients c
  events : v.state.packetEventQue.items = w.state.packetEventQue.items.filter (·.concerns c)
  size : v.state.packetEventQue.maxSize = w.state.packetEventQue.maxSize
  sends : v.ghost c = w.ghost c
  running : w.state.fault = false → v.state.fault = false
  plain : ∀ d, (w.state.clients d).isAggregater = false

namespace Alike

variable {gw : Gateway} {c : Nat} {w v : Traced (Nat → Sends)}

theorem refl_start {clients : Nat → Client} (hplain : ∀ d, (clients d).isAggregater = false) :
    Alike c (.start clients) (.start clients) :=
  ⟨rfl, rfl, rfl, rfl, id, hplain⟩

theorem plain_step (h : Alike c w v) (gw : Gateway) (act : Act) (d : Nat) :
    ((w.step gw sending act).state.clients d).isAggregater = false :=
  (isAggregater_of_identity (step_identity gw w.state act d)).trans (h.plain d)

theorem room (h : Alike c w v) {n : Nat} (hroom : w.state.packetEventQue.Room n) :
    v.state.packetEventQue.Room n :=
  hroom.mono h.size (by
    rw [h.events]
    exact List.length_filter_le _ _)

theorem room_pop (h : Alike c w v) {ev : Event} {rest : List Event}
    (hw : w.state.packetEventQue.items = ev :: rest)
    (hv : v.state.packetEventQue.items = ev :: rest.filter (·.concerns c)) {n : Nat}
    (hroom : w.state.packetEventQue.pop.Room n) : v.state.packetEventQue.pop.Room n :=
  Fifo.Room.mono (q := w.state.packetEventQue.pop) h.size (by
    simp only [Fifo.pop, hw, hv, List.tail_cons]
    exact List.length_filter_le _ _) hroom

theorem head (h : Alike c w v) {ev : Event} {rest : List Event}
    (hitems : w.state.packetEventQue.items = ev :: rest) (hconcerns : ev.concerns c = true) :
    v.state.packetEventQue.items = ev :: rest.filter (·.concerns c) := by
  rw [h.events, hitems, List.filter_cons, if_pos hconcerns]

theorem skip (h : Alike c w v) {ev : Event} {rest : List Event}
    (hitems : w.state.packetEventQue.items = ev :: rest) (hconcerns : ev.concerns c = false) :
    v.state.packetEventQue.items = rest.filter (·.concerns c) := by
  rw [h.events, hitems, List.filter_cons, if_neg (by simp [hconcerns])]

theorem handled_noticed (h : Alike c w v) {ids : MessageIds} {ev : Event} {rest : List Event}
    {handled : Handled} (hitems : w.state.packetEventQue.items = ev :: rest)
    (hconcerns : ev.concerns c = true)
    (hroom : w.state.packetEventQue.pop.Room handled.packetEvents.length)
    (hplain : ∀ d, ((apply (take w.state) c handled).clients d).isAggregater = false) :
    Alike c ⟨apply (take w.state) c handled, sending.handled w.ghost ids w.state ev c handled⟩
      ⟨apply (take v.state) c handled, sending.handled v.ghost ids v.state ev c handled⟩ := by
  have hitems' := h.head hitems hconcerns
  have hlength : (handled.packetEvents.map (Event.brokerRecv c)).length =
      handled.packetEvents.length := List.length_map _
  refine ⟨?_, ?_, ?_, ?_, h.running, hplain⟩
  · rw [apply_client, apply_client]
  · simp only [apply, take]
    rw [Fifo.postAll_items (hlength ▸ h.room_pop hitems hitems' hroom),
      Fifo.postAll_items (hlength ▸ hroom), List.filter_append, filter_concerns, if_pos rfl]
    simp [Fifo.pop, hitems, hitems']
  · simp [apply, take, Fifo.pop, h.size]
  · simp [sending, h.sends]

theorem handled_unnoticed (h : Alike c w v) {ids : MessageIds} {ev : Event} {rest : List Event}
    {target : Nat} {handled : Handled} (hitems : w.state.packetEventQue.items = ev :: rest)
    (hconcerns : ev.concerns c = false) (htarget : target ≠ c)
    (hroom : w.state.packetEventQue.pop.Room handled.packetEvents.length)
    (hplain : ∀ d, ((apply (take w.state) target handled).clients d).isAggregater = false) :
    Alike c ⟨apply (take w.state) target handled,
      sending.handled w.ghost ids w.state ev target handled⟩ v := by
  have hlength : (handled.packetEvents.map (Event.brokerRecv target)).length =
      handled.packetEvents.length := List.length_map _
  refine ⟨?_, ?_, ?_, ?_, h.running, hplain⟩
  · rw [apply_other htarget, h.client]
  · simp only [apply, take]
    rw [Fifo.postAll_items (hlength ▸ hroom), List.filter_append, filter_concerns, if_neg htarget,
      List.append_nil, h.skip hitems hconcerns]
    simp [Fifo.pop, hitems]
  · simp [apply, take, Fifo.pop, h.size]
  · simp [sending, Function.update_of_ne (Ne.symm htarget), h.sends]

theorem handle_noticed (h : Alike c w v) {ids : MessageIds} (hroom : Roomy gw w (.handle ids))
    (hrunning : w.state.fault = false) {ev : Event} {rest : List Event}
    (hitems : w.state.packetEventQue.items = ev :: rest) (hconcerns : ev.concerns c = true) :
    Alike c (w.step gw sending (.handle ids)) (v.step gw sending (.handle ids)) := by
  have hplain := h.plain_step gw (.handle ids)
  have hitems' := h.head hitems hconcerns
  have hevent : handleEvent gw ids v.state.clients ev = handleEvent gw ids w.state.clients ev :=
    handleEvent_congr hconcerns (h.plain c) h.client
  have hposts := hroom ev (by rw [hitems]; rfl)
  rw [Traced.step_handle hrunning hitems] at hplain ⊢
  rw [Traced.step_handle (h.running hrunning) hitems', hevent]
  cases hresult : handleEvent gw ids w.state.clients ev with
  | nothing =>
    refine ⟨h.client, ?_, h.size, h.sends, h.running, h.plain⟩
    simp [finish, take, Fifo.pop, hitems, hitems']
  | fault =>
    exact ⟨h.client, h.events, h.size, h.sends, fun hfault => by simp [finish] at hfault, h.plain⟩
  | done target handled =>
    obtain rfl : target = c := by
      simpa [hconcerns] using (handleEvent_target h.plain hresult c).symm
    rw [hresult] at hposts hplain
    exact h.handled_noticed hitems hconcerns hposts hplain

theorem handle_unnoticed (h : Alike c w v) {ids : MessageIds} (hroom : Roomy gw w (.handle ids))
    (hrunning : w.state.fault = false) {ev : Event} {rest : List Event}
    (hitems : w.state.packetEventQue.items = ev :: rest) (hconcerns : ev.concerns c = false) :
    Alike c (w.step gw sending (.handle ids)) v := by
  have hplain := h.plain_step gw (.handle ids)
  have hposts := hroom ev (by rw [hitems]; rfl)
  rw [Traced.step_handle hrunning hitems] at hplain ⊢
  cases hresult : handleEvent gw ids w.state.clients ev with
  | nothing =>
    refine ⟨h.client, ?_, h.size, h.sends, h.running, h.plain⟩
    simp [finish, take, Fifo.pop, hitems, h.skip hitems hconcerns]
  | fault =>
    exact ⟨h.client, h.events, h.size, h.sends, fun hfault => by simp [finish] at hfault, h.plain⟩
  | done target handled =>
    have htarget : target ≠ c := by
      simpa [hconcerns] using (handleEvent_target h.plain hresult c).symm
    rw [hresult] at hposts hplain
    exact h.handled_unnoticed hitems hconcerns htarget hposts hplain

theorem update_noticed (h : Alike c w v) (f : Client → Client)
    (hplain : ∀ d, ((setClient w.state c (f (w.state.clients c))).clients d).isAggregater = false) :
    Alike c ⟨setClient w.state c (f (w.state.clients c)), w.ghost⟩
      ⟨setClient v.state c (f (v.state.clients c)), v.ghost⟩ :=
  ⟨by simp [setClient, h.client], h.events, h.size, h.sends, h.running, hplain⟩

theorem update_unnoticed (h : Alike c w v) {d : Nat} (hd : d ≠ c) {client : Client}
    (hplain : ∀ e, ((setClient w.state d client).clients e).isAggregater = false) :
    Alike c ⟨setClient w.state d client, w.ghost⟩ v :=
  ⟨by simp [setClient, Ne.symm hd, h.client], h.events, h.size, h.sends, h.running, hplain⟩

theorem noticed (h : Alike c w v) {act : Act} (hroom : Roomy gw w act)
    (hattends : attends c w act = true) :
    Alike c (w.step gw sending act) (v.step gw sending act) := by
  simp only [attends, Bool.and_eq_true, Bool.not_eq_true'] at hattends
  obtain ⟨hrunning, htouches⟩ := hattends
  have hplain := h.plain_step gw act
  cases act with
  | post ev =>
    simp only [touches] at htouches
    rw [Traced.step_post hrunning, Traced.step_post (h.running hrunning)]
    refine ⟨h.client, ?_, ?_, h.sends, h.running, h.plain⟩
    · simp [Fifo.post_items hroom, Fifo.post_items (h.room hroom), h.events, htouches]
    · simp [h.size]
  | handle ids =>
    cases hitems : w.state.packetEventQue.items with
    | nil => simp [touches, hitems] at htouches
    | cons ev rest =>
      have hconcerns : ev.concerns c = true := by simpa [touches, hitems] using htouches
      exact h.handle_noticed hroom hrunning hitems hconcerns
  | connectSended d =>
    obtain rfl : d = c := by simpa [touches] using htouches
    rw [Traced.step_connectSended hrunning] at hplain ⊢
    rw [Traced.step_connectSended (h.running hrunning)]
    exact h.update_noticed Client.connectSended hplain
  | disconnected d =>
    obtain rfl : d = c := by simpa [touches] using htouches
    rw [Traced.step_disconnected hrunning] at hplain ⊢
    rw [Traced.step_disconnected (h.running hrunning)]
    exact h.update_noticed Client.disconnected hplain

theorem unnoticed (h : Alike c w v) {act : Act} (hroom : Roomy gw w act)
    (hattends : attends c w act = false) : Alike c (w.step gw sending act) v := by
  have hplain := h.plain_step gw act
  cases hfault : w.state.fault with
  | true =>
    have hstuck : w.step gw sending act = w := by
      simp only [Traced.step, step_fault hfault, hfault]
      rfl
    rwa [hstuck]
  | false =>
    have htouches : touches c w.state act = false := by simpa [attends, hfault] using hattends
    cases act with
    | post ev =>
      simp only [touches] at htouches
      rw [Traced.step_post hfault]
      refine ⟨h.client, ?_, ?_, h.sends, h.running, h.plain⟩
      · simp [Fifo.post_items hroom, h.events, htouches]
      · simp [h.size]
    | handle ids =>
      cases hitems : w.state.packetEventQue.items with
      | nil =>
        have hempty : w.step gw sending (.handle ids) = w := by
          simp only [Traced.step, step_empty hfault hitems, hfault, Traced.noted, hitems]
          rfl
        rwa [hempty]
      | cons ev rest =>
        have hconcerns : ev.concerns c = false := by simpa [touches, hitems] using htouches
        exact h.handle_unnoticed hroom hfault hitems hconcerns
    | connectSended d =>
      have hd : d ≠ c := by simpa [touches] using htouches
      rw [Traced.step_connectSended hfault] at hplain ⊢
      exact h.update_unnoticed hd hplain
    | disconnected d =>
      have hd : d ≠ c := by simpa [touches] using htouches
      rw [Traced.step_disconnected hfault] at hplain ⊢
      exact h.update_unnoticed hd hplain

end Alike

theorem alike_unwinds (gw : Gateway) (c : Nat) :
    Unwinds (Traced.step gw sending) (Roomy gw) (attends c) (Alike c) where
  noticed hroom h hattends := h.noticed hroom hattends
  unnoticed hroom h hattends := h.unnoticed hroom hattends

def isPost : Act → Bool
  | .post _ => true
  | _ => false

def postsFor (c : Nat) : Act → Bool
  | .post ev => ev.concerns c
  | _ => false

def Running (w : Traced (Nat → Sends)) (_ : Act) : Prop := w.state.fault = false

theorem Traced.foldl_fault {gw : Gateway} {w : Traced (Nat → Sends)} (h : w.state.fault = true)
    (acts : List Act) : acts.foldl (Traced.step gw sending) w = w := by
  induction acts with
  | nil => rfl
  | cons act acts ih =>
    have hstuck : w.step gw sending act = w := by
      simp only [step, step_fault h, h]
      rfl
    rw [List.foldl_cons, hstuck, ih]

theorem running_of_final {gw : Gateway} {w : Traced (Nat → Sends)} {acts : List Act}
    (h : (acts.foldl (Traced.step gw sending) w).state.fault = false) :
    Steps (Traced.step gw sending) Running w acts := by
  induction acts generalizing w with
  | nil => trivial
  | cons act acts ih =>
    refine ⟨?_, ih h⟩
    by_contra hfault
    rw [Traced.foldl_fault (Bool.eq_true_of_not_eq_false hfault)] at h
    exact hfault h

theorem ownActs_posts {gw : Gateway} {c : Nat} {w : Traced (Nat → Sends)} {acts : List Act}
    (h : (acts.foldl (Traced.step gw sending) w).state.fault = false) :
    (ownActs gw c w acts).filter isPost = acts.filter (postsFor c) := by
  have hposts : ∀ {w : Traced (Nat → Sends)} {act : Act}, Running w act → isPost act = true →
      attends c w act = postsFor c act := by
    intro w act hrunning hpost
    cases act with
    | post ev =>
      rw [Running] at hrunning
      simp [attends, touches, postsFor, hrunning]
    | _ => cases hpost
  rw [ownActs, purge_filter (p := isPost) (q := postsFor c) hposts (running_of_final h), List.filter_filter]
  congr 1
  funext act
  cases act with
  | post ev => simp [isPost]
  | _ => rfl

theorem client_isolated (gw : Gateway) {clients : Nat → Client}
    (hplain : ∀ d, (clients d).isAggregater = false) {acts : List Act}
    (hroom : Steps (Traced.step gw sending) (Roomy gw) (.start clients) acts) (c : Nat) :
    Alike c (acts.foldl (Traced.step gw sending) (.start clients))
        ((ownActs gw c (.start clients) acts).foldl (Traced.step gw sending) (.start clients)) ∧
      List.Sublist (ownActs gw c (.start clients) acts) acts ∧
      ((acts.foldl (Traced.step gw sending) (.start clients)).state.fault = false →
        (ownActs gw c (.start clients) acts).filter isPost = acts.filter (postsFor c)) :=
  ⟨(alike_unwinds gw c).run hroom (.refl_start hplain), purge_sublist _ _, ownActs_posts⟩

-- client 1 sends while client 0 connects
def crossing : List Act :=
  [.post (.clientRecv 0 (.connect (some ⟨false, false, 0⟩))), .post (.clientRecv 1 .pingreq),
    .handle noIds, .connectSended 0, .handle noIds, .post (.brokerRecv 0 ⟨0x20, 2, [0, 0]⟩),
    .post (.brokerRecv 1 storedHello), .handle noIds, .handle noIds]

theorem client_isolated_crossing :
    (ownActs bareGateway 0 (.start freshClients) crossing).length = 5 ∧
    Alike 0 (crossing.foldl (Traced.step bareGateway sending) (.start freshClients))
        ((ownActs bareGateway 0 (.start freshClients) crossing).foldl
          (Traced.step bareGateway sending) (.start freshClients)) ∧
      List.Sublist (ownActs bareGateway 0 (.start freshClients) crossing) crossing ∧
      ((crossing.foldl (Traced.step bareGateway sending) (.start freshClients)).state.fault = false →
        (ownActs bareGateway 0 (.start freshClients) crossing).filter isPost =
          crossing.filter (postsFor 0)) :=
  ⟨by decide +kernel, client_isolated bareGateway (fun _ => rfl) (by decide +kernel) 0⟩

end MbedMqtt.MQTTSNGW
