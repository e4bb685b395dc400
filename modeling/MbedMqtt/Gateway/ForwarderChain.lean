import MbedMqtt.Gateway.ClientRecvTask
import MbedMqtt.Library.LinkedList

namespace MbedMqtt.MQTTSNGW

structure ForwarderNode where
  element : ForwarderElement
  next : Option Nat
  deriving DecidableEq, Repr

def ForwarderNode.linked (_ : Option Nat) (element : ForwarderElement) (next : Option Nat) :
    ForwarderNode := ⟨element, next⟩

structure ForwarderChain where
  heap : LinkHeap ForwarderNode
  headClient : Option Nat

inductive ClientWalk where
  | listed
  | last (prev : Option Nat)
  deriving DecidableEq, Repr

namespace ForwarderChain

def initial : ForwarderChain := ⟨.empty, none⟩

def fuel (chain : ForwarderChain) : Nat := chain.heap.brk + 1

def elements (chain : ForwarderChain) : Option (List ForwarderElement) :=
  chain.heap.collect ForwarderNode.element ForwarderNode.next chain.fuel chain.headClient

def addClientLoop (heap : LinkHeap ForwarderNode) (client : Nat) :
    Nat → Option Nat → Option Nat → Option ClientWalk
  | 0, _, _ => none
  | _ + 1, prev, none => some (.last prev)
  | fuel + 1, _, some p =>
      match heap.read p with
      | none => none
      | some node =>
          if node.element.client = client then some .listed
          else addClientLoop heap client fuel (some p) node.next

def addClient (chain : ForwarderChain) (client : Nat) (id : WirelessNodeId) :
    Option ForwarderChain :=
  match addClientLoop chain.heap client chain.fuel none chain.headClient with
  | none => none
  | some .listed => some chain
  | some (.last prev) =>
      let fclient := chain.heap.brk
      let heap := chain.heap.alloc ⟨⟨client, id⟩, none⟩
      match prev with
      | some b =>
          (heap.read b).map fun node =>
            { chain with heap := heap.write b { node with next := some fclient } }
      | none => some ⟨heap, some fclient⟩

def find (chain : ForwarderChain) (p : ForwarderElement → Bool) :
    Option (Option ForwarderElement) :=
  match chain.heap.search ForwarderNode.element ForwarderNode.next p chain.fuel
      chain.headClient with
  | none => none
  | some none => some none
  | some (some a) => (chain.heap.read a).map fun node => some node.element

def getClient (chain : ForwarderChain) (id : WirelessNodeId) : Option (Option Nat) :=
  (chain.find (·.wirelessNodeId = id)).map fun found => found.map (·.client)

def getWirelessNodeId (chain : ForwarderChain) (client : Nat) : Option (Option WirelessNodeId) :=
  (chain.find (·.client = client)).map fun found => found.map (·.wirelessNodeId)

-- the loop never assigns `prev`
def eraseClientLoop (chain : ForwarderChain) (client : Nat) (prev : Option Nat) :
    Nat → Option Nat → Option ForwarderChain
  | 0, _ => none
  | _ + 1, none => some chain
  | fuel + 1, some p =>
      match chain.heap.read p with
      | none => none
      | some node =>
          if node.element.client = client then
            match prev with
            | some b =>
                (chain.heap.read b).map fun before =>
                  let heap := chain.heap.write b { before with next := node.next }
                  { chain with heap := heap.free p }
            | none => some ⟨chain.heap.free p, node.next⟩
          else eraseClientLoop chain client prev fuel node.next

def eraseClient (chain : ForwarderChain) (client : Nat) : Option ForwarderChain :=
  eraseClientLoop chain client none chain.fuel chain.headClient

end ForwarderChain

namespace Forwarder

def getWirelessNodeId (forwarder : Forwarder) (c : Nat) : Option WirelessNodeId :=
  (forwarder.elements.find? (·.client = c)).map (·.wirelessNodeId)

def dropThrough (c : Nat) : List ForwarderElement → List ForwarderElement
  | [] => []
  | element :: rest => if element.client = c then rest else dropThrough c rest

-- an erased client takes with it every element in front of its own
def eraseClient (forwarder : Forwarder) (c : Nat) : Forwarder :=
  if forwarder.elements.any (·.client = c) then
    { forwarder with elements := dropThrough c forwarder.elements }
  else forwarder

variable {forwarder : Forwarder} {c : Nat} {id : WirelessNodeId} {xs ys : List ForwarderElement}
  {element : ForwarderElement}

theorem addClient_listed (h : ∃ element ∈ forwarder.elements, element.client = c) :
    forwarder.addClient c id = forwarder := by
  rw [addClient, if_pos (by simpa using h)]

theorem addClient_new (h : ∀ element ∈ forwarder.elements, element.client ≠ c) :
    (forwarder.addClient c id).elements = forwarder.elements ++ [⟨c, id⟩] := by
  rw [addClient, if_neg (by simpa using h)]

theorem dropThrough_split (hxs : ∀ element ∈ xs, element.client ≠ c) (hc : element.client = c) :
    dropThrough c (xs ++ element :: ys) = ys := by
  induction xs with
  | nil => exact if_pos hc
  | cons first xs ih =>
    rw [List.cons_append, dropThrough, if_neg (hxs first List.mem_cons_self)]
    exact ih fun other hmem => hxs other (List.mem_cons_of_mem first hmem)

theorem eraseClient_split (h : forwarder.elements = xs ++ element :: ys)
    (hxs : ∀ element ∈ xs, element.client ≠ c) (hc : element.client = c) :
    (forwarder.eraseClient c).elements = ys := by
  have hlisted : forwarder.elements.any (·.client = c) = true := by simp [h, hc]
  rw [eraseClient, if_pos hlisted, h]
  exact dropThrough_split hxs hc

theorem eraseClient_unlisted (h : ∀ element ∈ forwarder.elements, element.client ≠ c) :
    forwarder.eraseClient c = forwarder := by
  rw [eraseClient, if_neg (by simpa using h)]

theorem split_at (h : ∃ element ∈ forwarder.elements, element.client = c) :
    ∃ xs element ys, forwarder.elements = xs ++ element :: ys ∧ element.client = c ∧
      ∀ other ∈ xs, other.client ≠ c := by
  obtain ⟨element, hfound⟩ := Option.isSome_iff_exists.mp
    (List.find?_isSome (p := (fun other : ForwarderElement => decide (other.client = c))) |>.mpr
      (by simpa using h))
  obtain ⟨hc, xs, ys, hsplit, hxs⟩ := List.find?_eq_some_iff_append.mp hfound
  exact ⟨xs, element, ys, hsplit, by simpa using hc, by simpa using hxs⟩

end Forwarder

namespace ForwarderChain

structure Represents (chain : ForwarderChain) (forwarder : Forwarder) : Prop where
  holds : ∃ tail cells, Holds ForwarderNode.linked chain.heap chain.headClient tail cells ∧
    cells.map (·.2) = forwarder.elements

variable {chain : ForwarderChain} {forwarder : Forwarder} {heap : LinkHeap ForwarderNode}
  {last prev p : Option Nat} {cells xs ys : List (Nat × ForwarderElement)} {a c : Nat}
  {element : ForwarderElement} {id : WirelessNodeId}

theorem Represents.initial (address : SensorNetAddress) : Represents initial ⟨address, []⟩ :=
  ⟨none, [], .empty, rfl⟩

theorem linked_prev (m k : Option Nat) (element : ForwarderElement) (n : Option Nat) :
    ForwarderNode.linked m element n = ForwarderNode.linked k element n := rfl

theorem Represents.elements (h : Represents chain forwarder) :
    chain.elements = some forwarder.elements := by
  obtain ⟨tail, cells, hholds, hcells⟩ := h.holds
  rw [← hcells]
  exact hholds.chain.collect (fun _ _ _ => rfl) (fun _ _ _ => rfl)
    (Nat.lt_succ_of_le hholds.length_le)

theorem Represents.find (h : Represents chain forwarder) (p : ForwarderElement → Bool) :
    chain.find p = some (forwarder.elements.find? p) := by
  obtain ⟨tail, cells, hholds, hcells⟩ := h.holds
  have hsearch : chain.heap.search ForwarderNode.element ForwarderNode.next p chain.fuel
      chain.headClient = some ((cells.find? fun entry => p entry.2).map (·.1)) :=
    hholds.chain.search (fun _ _ _ => rfl) (fun _ _ _ => rfl) p
      (Nat.lt_succ_of_le hholds.length_le)
  have hlist : forwarder.elements.find? p = (cells.find? fun entry => p entry.2).map (·.2) := by
    rw [← hcells, List.find?_map]
    rfl
  rw [ForwarderChain.find, hsearch, hlist]
  cases hfound : cells.find? fun entry => p entry.2 with
  | none => rfl
  | some entry =>
    obtain ⟨xs, ys, rfl⟩ := List.append_of_mem (List.mem_of_find?_eq_some hfound)
    obtain ⟨m, n, hread, -⟩ := hholds.cutThrough linked_prev
    simp only [Option.map_some, hread]
    rfl

theorem Represents.client (h : Represents chain forwarder) (id : WirelessNodeId) :
    chain.getClient id = some (forwarder.getClient id) := by
  rw [getClient, Represents.find h]
  rfl

theorem Represents.node (h : Represents chain forwarder) (c : Nat) :
    chain.getWirelessNodeId c = some (forwarder.getWirelessNodeId c) := by
  rw [getWirelessNodeId, Represents.find h]
  rfl

theorem addClientLoop_eq (h : Segment ForwarderNode.linked heap last none prev p cells) {fuel : Nat}
    (hfuel : cells.length < fuel) :
    addClientLoop heap c fuel prev p =
      some (if cells.any (·.2.client = c) then .listed else .last last) := by
  refine h.walk (motive := fun fuel prev p cells => addClientLoop heap c fuel prev p =
    some (if cells.any (·.2.client = c) then .listed else .last last)) ?_ ?_ hfuel
  · intro fuel
    rfl
  · intro fuel prev a element n cells hread hrest ih
    simp only [addClientLoop, hread, ForwarderNode.linked, ih]
    rcases eq_or_ne element.client c with hc | hc
    · rw [if_pos hc, if_pos (by simp [hc])]
    · rw [if_neg hc]
      exact congrArg some (if_congr (by simp [hc]) rfl rfl)

theorem Represents.addClient (h : Represents chain forwarder) (c : Nat) (id : WirelessNodeId) :
    ∃ added, chain.addClient c id = some added ∧ Represents added (forwarder.addClient c id) := by
  obtain ⟨tail, cells, hholds, hcells⟩ := h.holds
  have hloop : addClientLoop chain.heap c chain.fuel none chain.headClient = _ :=
    addClientLoop_eq hholds.chain (Nat.lt_succ_of_le hholds.length_le)
  have hany : cells.any (·.2.client = c) = forwarder.elements.any (·.client = c) := by
    rw [← hcells, List.any_map]
    rfl
  rw [hany] at hloop
  by_cases hlisted : forwarder.elements.any (·.client = c)
  · rw [if_pos hlisted] at hloop
    refine ⟨chain, ?_, ?_⟩
    · rw [ForwarderChain.addClient, hloop]
    · rwa [Forwarder.addClient, if_pos hlisted]
  · rw [if_neg hlisted] at hloop
    have hnew : (forwarder.addClient c id).elements = cells.map (·.2) ++ [⟨c, id⟩] := by
      rw [Forwarder.addClient, if_neg hlisted, hcells]
    rcases List.eq_nil_or_concat' cells with rfl | ⟨xs, ⟨b, before⟩, rfl⟩
    · obtain ⟨rfl, -⟩ := hholds.chain
      refine ⟨⟨chain.heap.alloc ⟨⟨c, id⟩, none⟩, some chain.heap.brk⟩, ?_, ?_⟩
      · rw [ForwarderChain.addClient, hloop]
      · have hsingle : Holds ForwarderNode.linked _ (some chain.heap.brk) _
            [(chain.heap.brk, ⟨c, id⟩)] := .single chain.heap _
        exact ⟨_, _, hsingle, hnew.symm⟩
    · obtain ⟨rfl, m, hread, hadded⟩ := hholds.snoc ⟨c, id⟩
      refine ⟨⟨_, chain.headClient⟩, ?_, _, _, hadded, ?_⟩
      · rw [ForwarderChain.addClient, hloop]
        exact congrArg (Option.map _) hread
      · rw [hnew, List.map_append]
        rfl

theorem eraseClientLoop_unlisted
    (h : Segment ForwarderNode.linked chain.heap last none prev p cells)
    (hunlisted : ∀ entry ∈ cells, entry.2.client ≠ c) {fuel : Nat} (hfuel : cells.length < fuel) :
    eraseClientLoop chain c none fuel p = some chain := by
  refine h.walk (motive := fun fuel _ p cells => (∀ entry ∈ cells, entry.2.client ≠ c) →
    eraseClientLoop chain c none fuel p = some chain) ?_ ?_ hfuel hunlisted
  · intro fuel _
    rfl
  · intro fuel prev a element n cells hread hrest ih hunlisted
    simp only [eraseClientLoop, hread, ForwarderNode.linked]
    rw [if_neg (hunlisted (a, element) List.mem_cons_self)]
    apply ih
    intro entry hmem
    exact hunlisted entry (List.mem_cons_of_mem _ hmem)

theorem eraseClientLoop_found
    (h : Segment ForwarderNode.linked chain.heap last none prev p (xs ++ (a, element) :: ys))
    (hxs : ∀ entry ∈ xs, entry.2.client ≠ c) (hc : element.client = c) {fuel : Nat}
    (hfuel : xs.length < fuel) :
    eraseClientLoop chain c none fuel p = some ⟨chain.heap.free a, ys.head?.map (·.1)⟩ := by
  induction xs generalizing prev p fuel with
  | nil =>
    obtain ⟨rfl, n, hread, hrest⟩ := h
    obtain ⟨fuel, rfl⟩ := Nat.exists_eq_add_of_lt hfuel
    simp only [eraseClientLoop, hread, ForwarderNode.linked, List.length_nil, Nat.zero_add]
    rw [if_pos hc, hrest.first_eq]
  | cons entry xs ih =>
    obtain ⟨b, other⟩ := entry
    obtain ⟨rfl, n, hread, hrest⟩ := h
    cases fuel with
    | zero => exact absurd hfuel (Nat.not_lt_zero _)
    | succ fuel =>
      simp only [eraseClientLoop, hread, ForwarderNode.linked]
      rw [if_neg (hxs (b, other) List.mem_cons_self)]
      apply ih hrest _ (Nat.lt_of_succ_lt_succ hfuel)
      intro entry hmem
      exact hxs entry (List.mem_cons_of_mem _ hmem)

theorem Represents.eraseClient (h : Represents chain forwarder) (c : Nat) :
    ∃ erased, chain.eraseClient c = some erased ∧ Represents erased (forwarder.eraseClient c) := by
  obtain ⟨tail, cells, hholds, hcells⟩ := h.holds
  have hfuel : cells.length < chain.fuel := Nat.lt_succ_of_le hholds.length_le
  by_cases hlisted : ∃ element ∈ forwarder.elements, element.client = c
  · obtain ⟨before, element, after, hsplit, hc, hbefore⟩ := Forwarder.split_at hlisted
    obtain ⟨xs, rest, rfl, rfl, hrest⟩ := List.map_eq_append_iff.mp (hcells.trans hsplit)
    obtain ⟨⟨a, found⟩, ys, rfl, rfl, rfl⟩ := List.map_eq_cons_iff.mp hrest
    obtain ⟨m, n, -, rfl, final, herased⟩ := hholds.cutThrough linked_prev
    refine ⟨⟨chain.heap.free a, ys.head?.map (·.1)⟩, ?_, final, ys, herased,
      (Forwarder.eraseClient_split hsplit hbefore hc).symm⟩
    have hxs : ∀ entry ∈ xs, entry.2.client ≠ c := fun entry hmem =>
      hbefore entry.2 (List.mem_map_of_mem hmem)
    apply eraseClientLoop_found hholds.chain hxs hc
    rw [List.length_append] at hfuel
    omega
  · push Not at hlisted
    have hunlisted : ∀ entry ∈ cells, entry.2.client ≠ c := by
      rwa [← hcells, List.forall_mem_map] at hlisted
    refine ⟨chain, eraseClientLoop_unlisted hholds.chain hunlisted hfuel, ?_⟩
    rwa [Forwarder.eraseClient_unlisted hlisted]

theorem Represents.first (h : Represents chain forwarder) :
    (chain.headClient.bind chain.heap.read).map (·.element) = forwarder.elements.head? := by
  obtain ⟨tail, cells, hholds, hcells⟩ := h.holds
  rw [← hcells]
  cases cells with
  | nil =>
    rw [hholds.chain.first_eq]
    rfl
  | cons entry cells =>
    obtain ⟨hhead, n, hread, -⟩ := hholds.unlinkFirst linked_prev
    rw [hhead, Option.bind_some, hread]
    rfl

end ForwarderChain

end MbedMqtt.MQTTSNGW
