import MbedMqtt.Contract.SleepQueue

namespace MbedMqtt.MQTTSNGW

open PacketHandleTask

def Pending (c : Nat) (events : List Event) : Prop := ∃ ev ∈ events, ev.concerns c = true

instance (c : Nat) (events : List Event) : Decidable (Pending c events) :=
  inferInstanceAs (Decidable (∃ ev ∈ events, ev.concerns c = true))

def HeldReleasable (s : State) : Prop :=
  ∀ c, (s.clients c).holdPingRequest = true → ¬Pending c s.packetEventQue.items →
    (s.clients c).waitREGACKList.list ≠ []

def releases (gw : Gateway) (clients : Nat → Client) (ev : Event) : Bool :=
  match ev, role gw clients ev with
  | _, .ping => true
  | _, .regack => true
  | .clientRecv c packet, .drain =>
      packet = .pingreq || !(clients c).clientSleepPacketQue.items.isEmpty
  | .brokerRecv c packet, .publish => registers (clients c) packet.getPUBLISH
  | _, _ => false

def Event.client : Event → Option Nat
  | .clientRecv c _ => some c
  | .brokerRecv c _ => some c
  | .broadcast => none

def Relieves (gw : Gateway) (s : State) (ev : Event) (c : Nat) : Prop :=
  (s.clients c).holdPingRequest = true → (s.clients c).waitREGACKList.list = [] →
    ¬Pending c s.packetEventQue.items.tail → releases gw s.clients ev = true

def Relieved (gw : Gateway) (s : State) : Act → Prop
  | .handle _ => s.fault = false → ∀ ev ∈ s.packetEventQue.items.head?, ∀ c ∈ ev.client,
      Relieves gw s ev c
  | _ => True

instance (gw : Gateway) (s : State) (ev : Event) (c : Nat) : Decidable (Relieves gw s ev c) :=
  inferInstanceAs (Decidable ((s.clients c).holdPingRequest = true →
    (s.clients c).waitREGACKList.list = [] → ¬Pending c s.packetEventQue.items.tail →
    releases gw s.clients ev = true))

instance (gw : Gateway) (s : State) (act : Act) : Decidable (Relieved gw s act) :=
  match act with
  | .handle _ => inferInstanceAs (Decidable (s.fault = false →
      ∀ ev ∈ s.packetEventQue.items.head?, ∀ c ∈ ev.client, Relieves gw s ev c))
  | .post _ | .connectSended _ | .disconnected _ => .isTrue trivial

structure Alive (s : State) : Prop where
  bounded : s.packetEventQue.Bounded
  sound : ∀ c, (s.clients c).topics.Sound
  held : HeldReleasable s

section Effects

variable {gw : Gateway} {clients : Nat → Client} {ev : Event} {c target : Nat} {handled : Handled}
  {kind : Role}

theorem drain_stored {packet : MQTTSNPacket}
    (h : role gw clients (.clientRecv c packet) = .drain) (hping : packet = .pingreq) :
    (clients c).clientSleepPacketQue.items ≠ [] := by
  subst hping
  have hdrains := role_drain.mp h
  simp only [drains, MQTTSNConnectionHandler.holdsPing, Bool.and_eq_true] at hdrains
  simpa using hdrains.2

theorem Effect.persists (h : Effect clients ev c handled kind)
    (hwaiting : (clients c).waitREGACKList.list ≠ []) :
    handled.client.holdPingRequest = false ∨ handled.client.waitREGACKList.list ≠ [] := by
  cases kind with
  | other =>
    exact .inr (h.same.waiting ▸ hwaiting)
  | drain =>
    obtain ⟨packet, -, hdrained, -⟩ := h
    exact .inr (hdrained.waiting ▸ hwaiting)
  | ping =>
    exact .inl h.2.hold
  | regack =>
    obtain ⟨packet, -, hreleased⟩ := h
    exact hreleased.hold
  | save =>
    obtain ⟨packet, -, hsaved⟩ := h
    exact .inr (hsaved.waiting ▸ hwaiting)
  | publish =>
    obtain ⟨packet, -, hdelivered⟩ := h
    exact .inr fun hnil => hwaiting (List.prefix_nil.mp (hnil ▸ hdelivered.waiting))

theorem Effect.unheld (h : Effect clients ev c handled kind) (hrole : role gw clients ev = kind)
    (hhold : (clients c).holdPingRequest = false) :
    handled.client.holdPingRequest = false ∨ handled.client.waitREGACKList.list ≠ [] ∨
      handled.packetEvents ≠ [] := by
  cases kind with
  | other =>
    exact .inl (h.same.hold.trans hhold)
  | drain =>
    obtain ⟨packet, rfl, hdrained, hheld⟩ := h
    by_cases hping : packet = .pingreq
    · rw [hdrained.events]
      exact .inr (.inr (drain_stored hrole hping))
    · exact .inl (by simpa [hhold, hping] using hheld)
  | ping =>
    exact .inl h.2.hold
  | regack =>
    obtain ⟨packet, -, hreleased⟩ := h
    exact hreleased.hold.imp_right .inl
  | save =>
    obtain ⟨packet, -, hsaved⟩ := h
    exact .inl (hsaved.hold.trans hhold)
  | publish =>
    obtain ⟨packet, -, hdelivered⟩ := h
    exact .inl (hdelivered.hold.trans hhold)

theorem Effect.relieves (h : Effect clients ev c handled kind) (hrole : role gw clients ev = kind)
    (hsound : (clients c).topics.Sound) (hreleases : releases gw clients ev = true) :
    handled.client.holdPingRequest = false ∨ handled.client.waitREGACKList.list ≠ [] ∨
      handled.packetEvents ≠ [] := by
  cases kind with
  | other => simp [releases, hrole] at hreleases
  | save => simp [releases, hrole] at hreleases
  | drain =>
    obtain ⟨packet, rfl, hdrained, -⟩ := h
    simp only [releases, hrole, Bool.or_eq_true, decide_eq_true_eq] at hreleases
    rw [hdrained.events]
    rcases hreleases with hping | hstored
    · exact .inr (.inr (drain_stored hrole hping))
    · exact .inr (.inr (by simpa using hstored))
  | ping =>
    exact .inl h.2.hold
  | regack =>
    obtain ⟨packet, -, hreleased⟩ := h
    exact hreleased.hold.imp_right .inl
  | publish =>
    obtain ⟨packet, rfl, hdelivered⟩ := h
    simp only [releases, hrole] at hreleases
    exact .inr (.inl (hdelivered.registered hsound hreleases))

theorem Effect.strands (h : Effect clients ev c handled kind) (hrole : role gw clients ev = kind)
    (hhold : (clients c).holdPingRequest = true) (hwaiting : (clients c).waitREGACKList.list = [])
    (hreleases : releases gw clients ev = false) :
    handled.client.holdPingRequest = true ∧ handled.client.waitREGACKList.list = [] ∧
      handled.packetEvents = [] := by
  cases kind with
  | ping => cases ev <;> simp [releases, hrole] at hreleases
  | regack => cases ev <;> simp [releases, hrole] at hreleases
  | other =>
    exact ⟨h.same.hold.trans hhold, h.same.waiting ▸ hwaiting, h.events⟩
  | drain =>
    obtain ⟨packet, rfl, hdrained, hheld⟩ := h
    simp only [releases, hrole, Bool.or_eq_false_iff] at hreleases
    refine ⟨by simp [hheld, hhold], hdrained.waiting ▸ hwaiting, ?_⟩
    rw [hdrained.events]
    simpa using hreleases.2
  | save =>
    obtain ⟨packet, -, hsaved⟩ := h
    exact ⟨hsaved.hold.trans hhold, hsaved.waiting ▸ hwaiting, hsaved.events⟩
  | publish =>
    obtain ⟨packet, rfl, hdelivered⟩ := h
    simp only [releases, hrole] at hreleases
    exact ⟨hdelivered.hold.trans hhold, hdelivered.unregistered hreleases ▸ hwaiting,
      hdelivered.events⟩

theorem Effect.sound (h : Effect clients ev c handled kind)
    (hsound : (clients c).topics.Sound) : handled.client.topics.Sound := by
  cases kind with
  | other =>
    exact h.same.sound hsound
  | drain =>
    obtain ⟨packet, -, hdrained, -⟩ := h
    exact hdrained.sound hsound
  | ping =>
    exact h.2.sound hsound
  | regack =>
    obtain ⟨packet, -, hreleased⟩ := h
    exact hreleased.sound hsound
  | save =>
    obtain ⟨packet, -, hsaved⟩ := h
    exact hsaved.sound hsound
  | publish =>
    obtain ⟨packet, -, hdelivered⟩ := h
    exact hdelivered.sound hsound

theorem Effect.elsewhere (h : Effect clients ev target handled kind)
    (hclient : ev.client = some c) (htarget : target ≠ c) : kind = .other := by
  cases kind with
  | other => rfl
  | ping =>
    rw [h.1] at hclient
    exact absurd (Option.some.inj hclient) htarget
  | _ =>
    obtain ⟨packet, rfl, -⟩ := h
    exact absurd (Option.some.inj hclient) htarget

end Effects

section Step

variable {gw : Gateway} {s : State} {ev : Event} {rest : List Event} {c target : Nat}
  {handled : Handled}

theorem concerns_iff : ev.concerns c = true ↔ ev.client = some c := by
  cases ev <;> simp [Event.concerns, Event.client]

theorem Alive.same {after : State} (h : Alive s)
    (hbounded : after.packetEventQue.Bounded)
    (hsame : ∀ c, Same (s.clients c) (after.clients c))
    (hpending : ∀ c, Pending c s.packetEventQue.items → Pending c after.packetEventQue.items) :
    Alive after where
  bounded := hbounded
  sound c := (hsame c).sound (h.sound c)
  held := by
    intro c hhold hnone
    rw [(hsame c).hold] at hhold
    rw [(hsame c).waiting]
    exact h.held c hhold fun hsome => hnone (hpending c hsome)

theorem pending_apply (hitems : s.packetEventQue.items = ev :: rest) (h : Pending c rest) :
    Pending c (apply (take s) target handled).packetEventQue.items := by
  obtain ⟨event, hevent, hconcerns⟩ := h
  refine ⟨event, Fifo.mem_postAll ?_, hconcerns⟩
  rwa [take_items hitems]

theorem pending_posted (h : Alive s) (hitems : s.packetEventQue.items = ev :: rest)
    (hevents : handled.packetEvents ≠ []) :
    Pending c (apply (take s) c handled).packetEventQue.items := by
  obtain ⟨packet, packets, hcons⟩ := List.exists_cons_of_ne_nil hevents
  refine ⟨.brokerRecv c packet, ?_, by simp [Event.concerns]⟩
  simp only [apply, hcons, List.map_cons]
  exact Fifo.head_mem_postAll (h.bounded.room_pop (by simp [hitems]))

theorem HeldReleasable.last (h : HeldReleasable s) (hitems : s.packetEventQue.items = ev :: rest)
    (hhold : (s.clients c).holdPingRequest = true)
    (hwaiting : (s.clients c).waitREGACKList.list = []) (hrest : ¬Pending c rest) :
    ev.client = some c := by
  by_contra hother
  refine h c hhold ?_ hwaiting
  rintro ⟨event, hevent, hconcerns⟩
  rw [hitems, List.mem_cons] at hevent
  rcases hevent with rfl | hevent
  · exact hother (concerns_iff.mp hconcerns)
  · exact hrest ⟨event, hevent, hconcerns⟩

theorem Alive.applied (h : Alive s) (hitems : s.packetEventQue.items = ev :: rest)
    (heffect : Effect s.clients ev target handled (role gw s.clients ev))
    (hrelieves : ∀ c ∈ ev.client, Relieves gw s ev c) :
    Alive (apply (take s) target handled) where
  bounded := h.bounded.pop.postAll
  sound c := by
    by_cases htarget : c = target
    · subst htarget
      rw [apply_client]
      exact heffect.sound (h.sound c)
    · rw [apply_other (Ne.symm htarget)]
      exact h.sound c
  held := by
    intro c hhold hnone hwaiting
    have hrest : ¬Pending c rest := fun hsome => hnone (pending_apply hitems hsome)
    have hlast : (s.clients c).holdPingRequest = true → (s.clients c).waitREGACKList.list = [] →
        ev.client = some c ∧ releases gw s.clients ev = true := by
      intro hheld hempty
      have hclient := h.held.last hitems hheld hempty hrest
      refine ⟨hclient, hrelieves c hclient hheld hempty ?_⟩
      rwa [hitems, List.tail_cons]
    by_cases htarget : target = c
    · subst htarget
      rw [apply_client] at hhold hwaiting
      have hevents : handled.packetEvents = [] := by
        by_contra hevents
        exact hnone (pending_posted h hitems hevents)
      have hstuck : ¬(handled.client.holdPingRequest = false ∨
          handled.client.waitREGACKList.list ≠ [] ∨ handled.packetEvents ≠ []) := by
        simp [hhold, hwaiting, hevents]
      by_cases hempty : (s.clients target).waitREGACKList.list = []
      · cases hheld : (s.clients target).holdPingRequest with
        | false => exact hstuck (heffect.unheld rfl hheld)
        | true => exact hstuck (heffect.relieves rfl (h.sound target) (hlast hheld hempty).2)
      · exact hstuck ((heffect.persists hempty).imp_right .inl)
    · rw [apply_other htarget] at hhold hwaiting
      obtain ⟨hclient, hreleases⟩ := hlast hhold hwaiting
      simp [releases, heffect.elsewhere hclient htarget] at hreleases

theorem relieves_of_held (hitems : s.packetEventQue.items = ev :: rest)
    (heffect : Effect s.clients ev target handled (role gw s.clients ev))
    (hheld : HeldReleasable (apply (take s) target handled)) (hclient : ev.client = some c) :
    Relieves gw s ev c := by
  intro hhold hwaiting hrest
  rw [hitems, List.tail_cons] at hrest
  by_contra hreleases
  rw [Bool.not_eq_true] at hreleases
  have hqueue : handled.packetEvents = [] →
      ¬Pending c (apply (take s) target handled).packetEventQue.items := by
    intro hevents
    simpa only [apply, hevents, List.map_nil, Fifo.postAll_nil, take_items hitems] using hrest
  by_cases htarget : target = c
  · subst htarget
    obtain ⟨hstays, hempty, hevents⟩ := heffect.strands rfl hhold hwaiting hreleases
    refine hheld target ?_ (hqueue hevents) ?_
    · rw [apply_client, hstays]
    · rw [apply_client, hempty]
  · have hother := heffect.elsewhere hclient htarget
    rw [hother] at heffect
    refine hheld c ?_ (hqueue heffect.events) ?_
    · rw [apply_other htarget, hhold]
    · rw [apply_other htarget, hwaiting]

theorem Alive.finished (h : Alive s) (ids : MessageIds)
    (hitems : s.packetEventQue.items = ev :: rest)
    (hrelieves : ∀ c ∈ ev.client, Relieves gw s ev c) :
    Alive (finish s (handleEvent gw ids s.clients ev)) := by
  cases hresult : handleEvent gw ids s.clients ev with
  | done target handled => exact h.applied hitems (handleEvent_effect hresult) hrelieves
  | fault => exact h.same h.bounded (fun c => .refl _) fun c => id
  | nothing =>
    obtain rfl := handleEvent_nothing hresult
    refine h.same h.bounded.pop (fun c => .refl _) ?_
    intro c hpending
    obtain ⟨event, hevent, hconcerns⟩ := hpending
    refine ⟨event, ?_, hconcerns⟩
    rw [hitems, List.mem_cons] at hevent
    rcases hevent with rfl | hevent
    · cases hconcerns
    · rwa [finish, take_items hitems]

theorem step_alive {act : Act} (h : Alive s) (hrelieved : Relieved gw s act) :
    Alive (step gw s act) := by
  cases hfault : s.fault with
  | true =>
    rwa [step_fault hfault]
  | false =>
    cases act with
    | handle ids =>
      cases hitems : s.packetEventQue.items with
      | nil => rwa [step_empty hfault hitems]
      | cons ev rest =>
        rw [step_handle hfault hitems]
        exact h.finished ids hitems (hrelieved hfault ev (by simp [hitems]))
    | post ev =>
      rw [step, hfault]
      refine h.same h.bounded.post (fun c => .refl _) ?_
      intro c hpending
      obtain ⟨event, hevent, hconcerns⟩ := hpending
      exact ⟨event, Fifo.mem_post hevent, hconcerns⟩
    | connectSended target =>
      rw [step, hfault]
      exact h.same h.bounded (update_related .refl ⟨rfl, rfl, rfl, id⟩) fun c => id
    | disconnected target =>
      rw [step, hfault]
      exact h.same h.bounded (update_related .refl ⟨rfl, rfl, rfl, id⟩) fun c => id

theorem step_relieved {act : Act} (hheld : HeldReleasable (step gw s act))
    (hfault : (step gw s act).fault = false) : Relieved gw s act := by
  cases act with
  | handle ids =>
    intro hrunning ev hev c hclient
    obtain ⟨rest, hitems⟩ := List.head?_eq_some_iff.mp hev
    rw [step_handle hrunning hitems] at hheld hfault
    cases hresult : handleEvent gw ids s.clients ev with
    | done target handled =>
      rw [hresult] at hheld
      exact relieves_of_held hitems (handleEvent_effect hresult) hheld hclient
    | fault =>
      rw [hresult] at hfault
      cases hfault
    | nothing =>
      obtain rfl := handleEvent_nothing hresult
      cases hclient
  | _ => trivial

end Step

section Runs

variable {gw : Gateway} {s : State} {acts : List Act}

theorem run_fault (h : s.fault = true) : run gw s acts = s := by
  induction acts with
  | nil => rfl
  | cons act acts ih => rwa [run, List.foldl_cons, step_fault h, ← run]

theorem run_alive (h : Alive s) (hrelieved : Steps (step gw) (Relieved gw) s acts) :
    Alive (run gw s acts) :=
  Steps.invariant (fun hmeets halive => step_alive halive hmeets) hrelieved h

theorem run_relieved (hheld : ∀ n, HeldReleasable (run gw s (acts.take n)))
    (hfault : (run gw s acts).fault = false) : Steps (step gw) (Relieved gw) s acts := by
  induction acts generalizing s with
  | nil => trivial
  | cons act acts ih =>
    have hstep : (step gw s act).fault = false := by
      cases hstep : (step gw s act).fault with
      | false => rfl
      | true =>
        rw [run, List.foldl_cons, ← run, run_fault hstep, hstep] at hfault
        exact hfault
    exact ⟨step_relieved (hheld 1) hstep, ih (fun n => hheld (n + 1)) hfault⟩

end Runs

theorem Alive.initial {clients : Nat → Client} (hbuilt : ∀ c, (clients c).topics.Built)
    (hfresh : ∀ c, (clients c).holdPingRequest = false) : Alive (initial clients) where
  bounded := .inr (Nat.zero_le _)
  sound c := (hbuilt c).sound
  held := by
    intro c hhold
    exact absurd (hhold.symm.trans (hfresh c)) Bool.noConfusion

theorem held_ping_released (gw : Gateway) (clients : Nat → Client)
    (hbuilt : ∀ c, (clients c).topics.Built) (hfresh : ∀ c, (clients c).holdPingRequest = false)
    (acts : List Act) :
    (Steps (step gw) (Relieved gw) (initial clients) acts →
      ∀ n, HeldReleasable (run gw (initial clients) (acts.take n))) ∧
    ((run gw (initial clients) acts).fault = false →
      (∀ n, HeldReleasable (run gw (initial clients) (acts.take n))) →
      Steps (step gw) (Relieved gw) (initial clients) acts) := by
  constructor
  · intro hrelieved n
    rw [← List.take_append_drop n acts, Steps.append] at hrelieved
    exact (run_alive (.initial hbuilt hfresh) hrelieved.1).held
  · intro hfault hheld
    exact run_relieved hheld hfault

def subscribedTopics : Topics := (Topics.initial.add .normal ⟨[0x61, 0x2f, 0x23], by decide⟩).1

def subscribedClients : Nat → Client := fun _ => .initial .regular [0x63] subscribedTopics

def storedNews : MQTTGWPacket := ⟨0x32, 8, [0, 3, 0x61, 0x2f, 0x62, 0, 1, 0x68]⟩

def wakeUp : List Act :=
  fallAsleep ++ arrives (.brokerRecv 0 storedNews) ++ arrives (.clientRecv 0 .pingreq) ++
    [.handle noIds] ++ arrives (.clientRecv 0 (.regack (some ⟨2, 1, MQTTSN_RC_ACCEPTED⟩)))

theorem held_ping_registered :
    ((run bareGateway (initial subscribedClients) (wakeUp.take 10)).clients 0).holdPingRequest = true ∧
      ∀ n, HeldReleasable (run bareGateway (initial subscribedClients) (wakeUp.take n)) :=
  ⟨by decide +kernel, (held_ping_released bareGateway subscribedClients
    (fun _ => .add .initial _ _) (fun _ => rfl) wakeUp).1 (by decide +kernel)⟩

def shortWakeUp : List Act :=
  fallAsleep ++ arrives (.brokerRecv 0 storedHello) ++ arrives (.clientRecv 0 .pingreq) ++
    [.handle noIds]

theorem ping_stranded :
    ¬HeldReleasable (run bareGateway (initial freshClients) shortWakeUp) := by
  intro h
  have hhold : ((run bareGateway (initial freshClients) shortWakeUp).clients 0).holdPingRequest =
      true := by decide +kernel
  have hnone : ¬Pending 0
      (run bareGateway (initial freshClients) shortWakeUp).packetEventQue.items := by
    decide +kernel
  have hwaiting : ((run bareGateway (initial freshClients) shortWakeUp).clients
      0).waitREGACKList.list = [] := by decide +kernel
  exact h 0 hhold hnone hwaiting

end MbedMqtt.MQTTSNGW
