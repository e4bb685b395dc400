import MbedMqtt.Gateway.ForwarderChain
import MbedMqtt.Library.Steps

namespace MbedMqtt.MQTTSNGW

inductive ForwarderCall where
  | addClient (client : Nat) (id : WirelessNodeId)
  | eraseClient (client : Nat)
  deriving DecidableEq, Repr

-- the list beside the clients added and not erased
structure ForwarderRun where
  chain : Option ForwarderChain
  registry : Nat → Option WirelessNodeId

namespace ForwarderRun

def initial : ForwarderRun := ⟨some .initial, fun _ => none⟩

def step (s : ForwarderRun) : ForwarderCall → ForwarderRun
  | .addClient client id =>
      ⟨s.chain.bind fun chain => chain.addClient client id,
        Function.update s.registry client (some id)⟩
  | .eraseClient client =>
      ⟨s.chain.bind fun chain => chain.eraseClient client, Function.update s.registry client none⟩

structure Matches (chain : ForwarderChain) (registry : Nat → Option WirelessNodeId) : Prop where
  listed : ∃ elements, chain.elements = some elements ∧ (elements.map (·.client)).Nodup ∧
    ∀ client id, ⟨client, id⟩ ∈ elements ↔ registry client = some id
  found : ∀ client id, registry client = some id → chain.getClient id = some (some client)
  node : ∀ client, chain.getWirelessNodeId client = some (registry client)

def Faithful (s : ForwarderRun) : Prop := ∃ chain, s.chain = some chain ∧ Matches chain s.registry

def firstClient (s : ForwarderRun) : Option Nat :=
  s.chain.bind fun chain =>
    (chain.headClient.bind chain.heap.read).map fun node => node.element.client

def Keeps (s : ForwarderRun) : ForwarderCall → Prop
  | .addClient client id =>
      (∀ known, s.registry client = some known → known = id) ∧
      ∀ other, s.registry other = some id → other = client
  | .eraseClient client => s.registry client = none ∨ s.firstClient = some client

section Registry

variable {elements xs ys : List ForwarderElement} {registry : Nat → Option WirelessNodeId}
  {forwarder : Forwarder} {c : Nat} {id : WirelessNodeId}

structure Registered (elements : List ForwarderElement) (registry : Nat → Option WirelessNodeId) :
    Prop where
  mem : ∀ client id, ⟨client, id⟩ ∈ elements ↔ registry client = some id
  ids : ∀ client other id, registry client = some id → registry other = some id → client = other

theorem Registered.client_of_mem (h : Registered elements registry) {element : ForwarderElement}
    (hmem : element ∈ elements) : registry element.client = some element.wirelessNodeId :=
  (h.mem element.client element.wirelessNodeId).mp hmem

theorem Registered.unlisted (h : Registered elements registry) (hnone : registry c = none) :
    ∀ element ∈ elements, element.client ≠ c := by
  rintro element hmem rfl
  have hsome := h.client_of_mem hmem
  rw [hnone] at hsome
  exact absurd hsome nofun

theorem Registered.empty : Registered [] fun _ => none :=
  ⟨fun _ _ => ⟨nofun, nofun⟩, nofun⟩

theorem Registered.found (h : Registered forwarder.elements registry)
    (hid : registry c = some id) : forwarder.getClient id = some c := by
  have hmem := (h.mem c id).mpr hid
  rw [Forwarder.getClient]
  cases hfind : forwarder.elements.find? (·.wirelessNodeId = id) with
  | none => exact absurd (List.find?_eq_none.mp hfind _ hmem) (by simp)
  | some element =>
    have hsame : element.wirelessNodeId = id := by simpa using List.find?_some hfind
    have hother := h.client_of_mem (List.mem_of_find?_eq_some hfind)
    rw [hsame] at hother
    exact congrArg some (h.ids _ _ id hother hid)

theorem Registered.node (h : Registered forwarder.elements registry) (c : Nat) :
    forwarder.getWirelessNodeId c = registry c := by
  rw [Forwarder.getWirelessNodeId]
  cases hfind : forwarder.elements.find? (·.client = c) with
  | none =>
    cases hreg : registry c with
    | none => rfl
    | some id =>
      have hmem := (h.mem c id).mpr hreg
      exact absurd (List.find?_eq_none.mp hfind _ hmem) (by simp)
  | some element =>
    have hsame : element.client = c := by simpa using List.find?_some hfind
    rw [← hsame, h.client_of_mem (List.mem_of_find?_eq_some hfind)]
    rfl

theorem Registered.add_listed (h : Registered elements registry) {known : WirelessNodeId}
    (hknown : registry c = some known) :
    Registered elements (Function.update registry c (some id)) ↔ known = id := by
  constructor
  · intro hafter
    have hmem := (hafter.mem c id).mpr (Function.update_self _ _ _)
    exact Option.some.inj (hknown.symm.trans ((h.mem c id).mp hmem))
  · rintro rfl
    rwa [← hknown, Function.update_eq_self]

theorem Registered.add_new (h : Registered elements registry) (hnone : registry c = none) :
    Registered (elements ++ [⟨c, id⟩]) (Function.update registry c (some id)) ↔
      ∀ other, registry other ≠ some id := by
  constructor
  · intro hafter other hother
    have hne : other ≠ c := by
      rintro rfl
      exact absurd (hnone.symm.trans hother) nofun
    apply hne
    apply hafter.ids other c id
    · rwa [Function.update_of_ne hne]
    · exact Function.update_self _ _ _
  · intro hfresh
    have hunlisted := h.unlisted hnone
    constructor
    · intro client node
      rw [List.mem_append, List.mem_singleton, ForwarderElement.mk.injEq, h.mem]
      rcases eq_or_ne client c with rfl | hne
      · simp [hnone, eq_comm]
      · simp [hne]
    · intro client other node hclient hother
      rcases eq_or_ne client c with rfl | hne
      · rcases eq_or_ne other client with rfl | hne
        · rfl
        · rw [Function.update_self] at hclient
          rw [Function.update_of_ne hne] at hother
          exact absurd (hother.trans hclient.symm) (hfresh other)
      · rw [Function.update_of_ne hne] at hclient
        rcases eq_or_ne other c with rfl | hother'
        · rw [Function.update_self] at hother
          exact absurd (hclient.trans hother.symm) (hfresh client)
        · rw [Function.update_of_ne hother'] at hother
          exact h.ids client other node hclient hother

theorem Registered.erase (h : Registered (xs ++ ⟨c, id⟩ :: ys) registry)
    (hdistinct : ((xs ++ ⟨c, id⟩ :: ys).map (·.client)).Nodup) :
    Registered ys (Function.update registry c none) ↔ xs = [] := by
  rw [List.map_append, List.map_cons, List.nodup_middle, List.nodup_cons, ← List.map_append]
    at hdistinct
  obtain ⟨hc, hnodup⟩ := hdistinct
  constructor
  · intro hafter
    cases xs with
    | nil => rfl
    | cons first xs =>
      have hne : first.client ≠ c := by
        rintro rfl
        exact hc (by simp)
      have hreg := h.client_of_mem (List.mem_append_left _ List.mem_cons_self)
      have hmem := (hafter.mem first.client first.wirelessNodeId).mpr
        ((Function.update_of_ne hne _ _).trans hreg)
      rw [List.cons_append, List.map_cons, List.nodup_cons, List.map_append] at hnodup
      exact absurd (List.mem_append_right _ (List.mem_map_of_mem hmem)) hnodup.1
  · rintro rfl
    constructor
    · intro client node
      rcases eq_or_ne client c with rfl | hne
      · rw [Function.update_self]
        refine iff_of_false (fun hmem => ?_) nofun
        exact hc (List.mem_map.mpr ⟨_, hmem, rfl⟩)
      · rw [Function.update_of_ne hne, ← h.mem]
        simp [hne]
    · intro client other node hclient hother
      have hne : client ≠ c := by
        rintro rfl
        simp at hclient
      have hne' : other ≠ c := by
        rintro rfl
        simp at hother
      rw [Function.update_of_ne hne] at hclient
      rw [Function.update_of_ne hne'] at hother
      exact h.ids client other node hclient hother

end Registry

section Refinement

variable {s : ForwarderRun} {chain : ForwarderChain} {forwarder : Forwarder}
  {registry : Nat → Option WirelessNodeId}

structure Refines (s : ForwarderRun) (forwarder : Forwarder) : Prop where
  represents : ∃ chain, s.chain = some chain ∧ chain.Represents forwarder
  distinct : (forwarder.elements.map (·.client)).Nodup

theorem Refines.faithful_iff (h : Refines s forwarder) :
    Faithful s ↔ Registered forwarder.elements s.registry := by
  obtain ⟨⟨chain, hchain, hrep⟩, hdistinct⟩ := h
  constructor
  · rintro ⟨same, hsame, ⟨elements, helements, -, hmem⟩, hfound, -⟩
    obtain rfl := Option.some.inj (hchain.symm.trans hsame)
    obtain rfl := Option.some.inj (hrep.elements.symm.trans helements)
    refine ⟨hmem, ?_⟩
    intro client other id hclient hother
    have hsame := (hfound client id hclient).symm.trans (hfound other id hother)
    simpa using hsame
  · intro hreg
    refine ⟨chain, hchain, ⟨_, hrep.elements, hdistinct, hreg.mem⟩, ?_, ?_⟩
    · intro client id hid
      rw [hrep.client, hreg.found hid]
    · intro client
      rw [hrep.node, hreg.node]

theorem Refines.firstClient (h : Refines s forwarder) :
    s.firstClient = forwarder.elements.head?.map (·.client) := by
  obtain ⟨⟨chain, hchain, hrep⟩, -⟩ := h
  rw [ForwarderRun.firstClient, hchain, Option.bind_some, ← hrep.first, Option.map_map]
  rfl

theorem distinct_add (hdistinct : (forwarder.elements.map (·.client)).Nodup) (c : Nat)
    (id : WirelessNodeId) : ((forwarder.addClient c id).elements.map (·.client)).Nodup := by
  by_cases hlisted : ∃ element ∈ forwarder.elements, element.client = c
  · rwa [Forwarder.addClient_listed hlisted]
  · push Not at hlisted
    have hnew : c ∉ forwarder.elements.map (·.client) := by simpa using hlisted
    rw [Forwarder.addClient_new hlisted, List.map_append, List.nodup_append_comm]
    exact List.nodup_cons.mpr ⟨hnew, hdistinct⟩

theorem distinct_erase (hdistinct : (forwarder.elements.map (·.client)).Nodup) (c : Nat) :
    ((forwarder.eraseClient c).elements.map (·.client)).Nodup := by
  by_cases hlisted : ∃ element ∈ forwarder.elements, element.client = c
  · obtain ⟨xs, element, ys, hsplit, hc, hxs⟩ := Forwarder.split_at hlisted
    rw [Forwarder.eraseClient_split hsplit hxs hc]
    rw [hsplit, List.append_cons, List.map_append] at hdistinct
    exact (List.nodup_append.mp hdistinct).2.1
  · push Not at hlisted
    rwa [Forwarder.eraseClient_unlisted hlisted]

theorem Refines.addClient (h : Refines s forwarder) (c : Nat) (id : WirelessNodeId) :
    Refines (step s (.addClient c id)) (forwarder.addClient c id) := by
  obtain ⟨⟨chain, hchain, hrep⟩, hdistinct⟩ := h
  obtain ⟨added, hadd, hadded⟩ := hrep.addClient c id
  exact ⟨⟨added, by rw [step, hchain, Option.bind_some, hadd], hadded⟩, distinct_add hdistinct c id⟩

theorem Refines.eraseClient (h : Refines s forwarder) (c : Nat) :
    Refines (step s (.eraseClient c)) (forwarder.eraseClient c) := by
  obtain ⟨⟨chain, hchain, hrep⟩, hdistinct⟩ := h
  obtain ⟨erased, herase, herased⟩ := hrep.eraseClient c
  exact ⟨⟨erased, by rw [step, hchain, Option.bind_some, herase], herased⟩,
    distinct_erase hdistinct c⟩

theorem Refines.faithful_add (h : Refines s forwarder) (hfaithful : Faithful s) (c : Nat)
    (id : WirelessNodeId) :
    Faithful (step s (.addClient c id)) ↔ Keeps s (.addClient c id) := by
  have hreg := h.faithful_iff.mp hfaithful
  rw [(h.addClient c id).faithful_iff]
  cases hknown : s.registry c with
  | some known =>
    have hmem := (hreg.mem c known).mpr hknown
    rw [Forwarder.addClient_listed ⟨_, hmem, rfl⟩, step, hreg.add_listed hknown]
    constructor
    · rintro rfl
      refine ⟨fun other hother => Option.some.inj (hother.symm.trans hknown), ?_⟩
      intro other hother
      exact hreg.ids other c known hother hknown
    · intro hkeeps
      exact hkeeps.1 known hknown
  | none =>
    rw [Forwarder.addClient_new (hreg.unlisted hknown), step, hreg.add_new hknown]
    constructor
    · intro hfresh
      refine ⟨fun known hsome => absurd (hknown.symm.trans hsome) nofun, ?_⟩
      intro other hother
      exact absurd hother (hfresh other)
    · rintro ⟨-, hkeeps⟩ other hother
      obtain rfl := hkeeps other hother
      exact absurd (hknown.symm.trans hother) nofun

theorem Refines.faithful_erase (h : Refines s forwarder) (hfaithful : Faithful s) (c : Nat) :
    Faithful (step s (.eraseClient c)) ↔ Keeps s (.eraseClient c) := by
  have hreg := h.faithful_iff.mp hfaithful
  rw [(h.eraseClient c).faithful_iff, Keeps, h.firstClient]
  cases hknown : s.registry c with
  | none =>
    have hsame : Function.update s.registry c none = s.registry := by
      rw [← hknown, Function.update_eq_self]
    rw [Forwarder.eraseClient_unlisted (hreg.unlisted hknown), step, hsame]
    exact iff_of_true hreg (.inl rfl)
  | some id =>
    have hdistinct := h.distinct
    obtain ⟨xs, ⟨client, node⟩, ys, hsplit, rfl, hxs⟩ :=
      Forwarder.split_at ⟨_, (hreg.mem c id).mpr hknown, rfl⟩
    rw [hsplit] at hreg hdistinct
    rw [Forwarder.eraseClient_split hsplit hxs rfl, step, hreg.erase hdistinct, hsplit]
    cases xs with
    | nil => exact iff_of_true rfl (.inr rfl)
    | cons first xs =>
      have hfirst := hxs first List.mem_cons_self
      simp [hfirst]

theorem Refines.faithful_step (h : Refines s forwarder) (hfaithful : Faithful s)
    (call : ForwarderCall) : Faithful (step s call) ↔ Keeps s call := by
  cases call with
  | addClient c id => exact h.faithful_add hfaithful c id
  | eraseClient c => exact h.faithful_erase hfaithful c

theorem Refines.step (h : Refines s forwarder) (call : ForwarderCall) :
    ∃ after, Refines (ForwarderRun.step s call) after := by
  cases call with
  | addClient c id => exact ⟨_, h.addClient c id⟩
  | eraseClient c => exact ⟨_, h.eraseClient c⟩

theorem refines_initial : Refines initial ⟨.zero, []⟩ :=
  ⟨⟨.initial, rfl, .initial _⟩, List.nodup_nil⟩

end Refinement

theorem forwarder_clients_iff (calls : List ForwarderCall) :
    (∀ n, Faithful ((calls.take n).foldl step initial)) ↔ Steps step Keeps initial calls := by
  refine Steps.iff_prefixes_under (J := fun s => ∃ forwarder, Refines s forwarder) ?_ ?_
    ⟨_, refines_initial⟩ (refines_initial.faithful_iff.mpr .empty)
  · rintro s call ⟨forwarder, h⟩
    exact h.step call
  · rintro s call ⟨forwarder, h⟩ hfaithful
    exact h.faithful_step hfaithful call

def eraseSecond : List ForwarderCall := [.addClient 0 [1], .addClient 1 [2], .eraseClient 1]

theorem erase_second_loses_first : ∃ chain,
    (eraseSecond.foldl step initial).chain = some chain ∧
    (eraseSecond.foldl step initial).registry 0 = some [1] ∧ chain.elements = some [] ∧
    chain.getClient [1] = some none ∧ chain.getWirelessNodeId 0 = some none ∧
    ¬Faithful (eraseSecond.foldl step initial) := by
  refine ⟨_, rfl, by decide, by decide, by decide, by decide, ?_⟩
  rintro ⟨chain, hchain, hmatches⟩
  obtain rfl := Option.some.inj hchain
  exact absurd (hmatches.node 0) (by decide)

end ForwarderRun

end MbedMqtt.MQTTSNGW
