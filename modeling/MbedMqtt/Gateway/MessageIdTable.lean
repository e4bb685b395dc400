import MbedMqtt.Gateway.TopicTable
import MbedMqtt.Library.LinkedList

namespace MbedMqtt.MQTTSNGW

abbrev MAX_MESSAGEID_TABLE_SIZE : Int := 500

structure MessageIdElement where
  msgId : UInt16
  client : Nat
  clientMsgId : UInt16
  deriving DecidableEq, Repr

def Client.getNextPacketId (packetId : UInt16) : UInt16 :=
  if packetId + 1 = 0xffff then 1 else packetId + 1

theorem getNextPacketId_eq (packetId : UInt16) :
    Client.getNextPacketId packetId = Topics.getNextTopicId packetId := by
  unfold Client.getNextPacketId Topics.getNextTopicId
  split
  · rename_i hlast
    rw [hlast]
    rfl
  · rfl

structure MessageIdTable where
  heap : LinkHeap (DLink MessageIdElement)
  head : Option Nat
  tail : Option Nat
  cnt : Int

namespace MessageIdTable

def initial : MessageIdTable := ⟨.empty, none, none, 0⟩

def findBy (table : MessageIdTable) (p : MessageIdElement → Bool) : Option (Option Nat) :=
  table.heap.search DLink.value DLink.next p (table.heap.brk + 1) table.head

def findMsgId (table : MessageIdTable) (msgId : UInt16) : Option (Option Nat) :=
  table.findBy (·.msgId = msgId)

def findClient (table : MessageIdTable) (client : Nat) (clientMsgId : UInt16) :
    Option (Option Nat) :=
  table.findBy fun p => p.clientMsgId = clientMsgId && p.client = client

def elements (table : MessageIdTable) : Option (List MessageIdElement) :=
  table.heap.collect DLink.value DLink.next (table.heap.brk + 1) table.head

def clear (table : MessageIdTable) : Option Nat → Option MessageIdTable
  | none => some table
  | some elm =>
      match table.heap.read elm with
      | none => none
      | some link =>
          match link.prev with
          | none =>
              match link.next with
              | none => some ⟨table.heap.free elm, none, none, table.cnt - 1⟩
              | some next =>
                  (table.heap.setPrev next none).map fun heap =>
                    ⟨heap.free elm, some next, table.tail, table.cnt - 1⟩
          | some prev =>
              match table.heap.setNext prev link.next with
              | none => none
              | some heap =>
                  match link.next with
                  | none => some ⟨heap.free elm, table.head, some prev, table.cnt - 1⟩
                  | some next =>
                      (heap.setPrev next (some prev)).map fun heap =>
                        ⟨heap.free elm, table.head, table.tail, table.cnt - 1⟩

def append (table : MessageIdTable) (elm : MessageIdElement) : Option MessageIdTable :=
  let address := table.heap.brk
  match table.head with
  | none =>
      some ⟨table.heap.alloc ⟨elm, none, none⟩, some address, some address, table.cnt + 1⟩
  | some _ =>
      match table.tail with
      | none => none
      | some p =>
          ((table.heap.alloc ⟨elm, some p, none⟩).setNext p (some address)).map fun heap =>
            ⟨heap, table.head, some address, table.cnt + 1⟩

def erase (table : MessageIdTable) (msgId : UInt16) : Option MessageIdTable :=
  (table.findMsgId msgId).bind table.clear

def getClientMsgId (table : MessageIdTable) (msgId : UInt16) :
    Option (MessageIdTable × Option (Nat × UInt16)) :=
  match table.findMsgId msgId with
  | none => none
  | some none => some (table, none)
  | some (some p) =>
      match table.heap.read p with
      | none => none
      | some link =>
          (table.clear (some p)).map fun cleared =>
            (cleared, some (link.value.client, link.value.clientMsgId))

end MessageIdTable

structure Aggregater where
  msgIdTable : MessageIdTable
  packetId : UInt16

namespace Aggregater

def initial : Aggregater := ⟨.initial, 0⟩

def msgId (aggregater : Aggregater) : UInt16 := Client.getNextPacketId aggregater.packetId

def append (aggregater : Aggregater) (client : Nat) (clientMsgId : UInt16) :
    Option (Aggregater × UInt16) :=
  let msgId := aggregater.msgId
  (aggregater.msgIdTable.append ⟨msgId, client, clientMsgId⟩).map fun table =>
    (⟨table, msgId⟩, msgId)

def addMessageIdTable (aggregater : Aggregater) (client : Nat) (msgId : UInt16) :
    Option (Aggregater × UInt16) :=
  if MAX_MESSAGEID_TABLE_SIZE < aggregater.msgIdTable.cnt then some (aggregater, 0)
  else
    match aggregater.msgIdTable.head with
    | none => aggregater.append client msgId
    | some _ =>
        match aggregater.msgIdTable.findClient client msgId with
        | none => none
        | some (some _) => some (aggregater, 0)
        | some none => aggregater.append client msgId

def convertClient (aggregater : Aggregater) (msgId : UInt16) :
    Option (Aggregater × Option (Nat × UInt16)) :=
  (aggregater.msgIdTable.getClientMsgId msgId).map fun answer =>
    ({ aggregater with msgIdTable := answer.1 }, answer.2)

def erase (aggregater : Aggregater) (msgId : UInt16) : Option Aggregater :=
  (aggregater.msgIdTable.erase msgId).map fun table => { aggregater with msgIdTable := table }

def getMsgId (aggregater : Aggregater) (client : Nat) (clientMsgId : UInt16) : Option UInt16 :=
  match aggregater.msgIdTable.findClient client clientMsgId with
  | none => none
  | some none => some 0
  | some (some p) => (aggregater.msgIdTable.heap.read p).map (·.value.msgId)

end Aggregater

structure IdTable where
  entries : List MessageIdElement
  packetId : UInt16
  cnt : Int
  deriving DecidableEq, Repr

namespace IdTable

def initial : IdTable := ⟨[], 0, 0⟩

def owns (client : Nat) (clientMsgId : UInt16) (elm : MessageIdElement) : Bool :=
  elm.clientMsgId = clientMsgId && elm.client = client

def refuses (table : IdTable) (client : Nat) (clientMsgId : UInt16) : Bool :=
  MAX_MESSAGEID_TABLE_SIZE < table.cnt || table.entries.any (owns client clientMsgId)

def addMessageIdTable (table : IdTable) (client : Nat) (clientMsgId : UInt16) : IdTable × UInt16 :=
  if table.refuses client clientMsgId then (table, 0)
  else
    let msgId := Client.getNextPacketId table.packetId
    (⟨table.entries ++ [⟨msgId, client, clientMsgId⟩], msgId, table.cnt + 1⟩, msgId)

def lookup (table : IdTable) (msgId : UInt16) : Option MessageIdElement :=
  table.entries.find? (·.msgId = msgId)

def erase (table : IdTable) (msgId : UInt16) : IdTable :=
  match table.lookup msgId with
  | none => table
  | some _ =>
      { table with
        entries := table.entries.eraseP (·.msgId = msgId)
        cnt := table.cnt - 1 }

def convertClient (table : IdTable) (msgId : UInt16) : IdTable × Option (Nat × UInt16) :=
  (table.erase msgId, (table.lookup msgId).map fun elm => (elm.client, elm.clientMsgId))

def getMsgId (table : IdTable) (client : Nat) (clientMsgId : UInt16) : UInt16 :=
  ((table.entries.find? (owns client clientMsgId)).map (·.msgId)).getD 0

end IdTable

structure MessageIdTable.Carries (table : MessageIdTable) (cells : List (Nat × MessageIdElement)) :
    Prop where
  holds : Holds DLink.cell table.heap table.head table.tail cells

namespace MessageIdTable

variable {table : MessageIdTable} {cells xs ys : List (Nat × MessageIdElement)} {a : Nat}
  {elm : MessageIdElement}

theorem Carries.findBy (h : table.Carries cells) (p : MessageIdElement → Bool) :
    table.findBy p = some ((cells.find? fun entry => p entry.2).map (·.1)) :=
  h.holds.chain.search (fun _ _ _ => rfl) (fun _ _ _ => rfl) p (Nat.lt_succ_of_le h.holds.length_le)

theorem Carries.elements (h : table.Carries cells) : table.elements = some (cells.map (·.2)) :=
  h.holds.chain.collect (fun _ _ _ => rfl) (fun _ _ _ => rfl) (Nat.lt_succ_of_le h.holds.length_le)

theorem clear_eq (table : MessageIdTable) (elm : Nat) :
    table.clear (some elm) = (table.heap.read elm).bind fun link =>
      (table.heap.unlink link.prev link.next).map fun heap =>
        ⟨heap.free elm, if link.prev = none then link.next else table.head,
          if link.next = none then link.prev else table.tail, table.cnt - 1⟩ := by
  simp only [clear]
  cases table.heap.read elm with
  | none => rfl
  | some link =>
    obtain ⟨value, prev, next⟩ := link
    cases prev with
    | none =>
      cases next with
      | none => rfl
      | some next => rfl
    | some prev =>
      cases hset : table.heap.setNext prev next with
      | none => simp [LinkHeap.unlink, LinkHeap.setNext?, hset]
      | some heap =>
        cases next with
        | none => simp [LinkHeap.unlink, LinkHeap.setNext?, LinkHeap.setPrev?, hset]
        | some next => simp [LinkHeap.unlink, LinkHeap.setNext?, LinkHeap.setPrev?, hset]

theorem Carries.clear (h : table.Carries (xs ++ (a, elm) :: ys)) :
    (∃ prev next, table.heap.read a = some ⟨elm, prev, next⟩) ∧
      ∃ cleared, table.clear (some a) = some cleared ∧ cleared.Carries (xs ++ ys) ∧
        cleared.cnt = table.cnt - 1 := by
  obtain ⟨m, n, hparts⟩ := h.holds.parts
  obtain ⟨heap, hunlink, hholds⟩ := hparts.unlink
  refine ⟨⟨m, n, hparts.read⟩, ⟨heap.free a, if m = none then n else table.head,
    if n = none then m else table.tail, table.cnt - 1⟩, ?_, ⟨hholds.free hparts.fresh⟩, rfl⟩
  rw [clear_eq, hparts.read]
  simp only [Option.bind_some, hunlink, Option.map_some]

theorem Carries.append (h : table.Carries cells) (elm : MessageIdElement) :
    ∃ added, table.append elm = some added ∧
      added.Carries (cells ++ [(table.heap.brk, elm)]) ∧ added.cnt = table.cnt + 1 := by
  obtain ⟨heap, head, tail, cnt⟩ := table
  cases head with
  | none =>
    obtain ⟨rfl, rfl⟩ := h.holds.head_none
    exact ⟨_, rfl, ⟨.single heap elm⟩, rfl⟩
  | some head =>
    obtain ⟨xs, ⟨b, last⟩, rfl⟩ := (List.eq_nil_or_concat' cells).resolve_left h.holds.head_some
    obtain ⟨rfl, m, hread, hholds⟩ := h.holds.snoc elm
    refine ⟨⟨_, some head, some heap.brk, cnt + 1⟩, ?_, ⟨hholds⟩, rfl⟩
    simp only [MessageIdTable.append, LinkHeap.setNext]
    rw [show (⟨elm, some b, none⟩ : DLink MessageIdElement) = DLink.cell (some b) elm none from rfl,
      hread]
    rfl

end MessageIdTable

theorem find?_eraseP_split {α : Type} {p : α → Bool} {cells : List (Nat × α)}
    {entry : Nat × α} (h : cells.find? (fun entry => p entry.2) = some entry) :
    ∃ xs ys, cells = xs ++ entry :: ys ∧ p entry.2 = true ∧
      (cells.map (·.2)).eraseP p = (xs ++ ys).map (·.2) ∧
      (cells.map (·.2)).find? p = some entry.2 := by
  obtain ⟨hentry, xs, ys, rfl, hxs⟩ := List.find?_eq_some_iff_append.mp h
  have hnone : ∀ x ∈ xs.map (·.2), p x = false := by
    intro x hx
    obtain ⟨other, hother, rfl⟩ := List.mem_map.mp hx
    simpa using hxs other hother
  refine ⟨xs, ys, rfl, hentry, ?_, ?_⟩
  · rw [List.map_append, List.map_cons, List.eraseP_append_right _ (by simpa using hnone),
      List.eraseP_cons_of_pos hentry, List.map_append]
  · rw [List.map_append, List.map_cons, List.find?_append, List.find?_cons_of_pos hentry,
      List.find?_eq_none.mpr (by simpa using hnone), Option.none_or]

structure Aggregater.Represents (aggregater : Aggregater) (table : IdTable) : Prop where
  carries : ∃ cells, aggregater.msgIdTable.Carries cells ∧ cells.map (·.2) = table.entries
  packetId : aggregater.packetId = table.packetId
  cnt : aggregater.msgIdTable.cnt = table.cnt

namespace Aggregater

variable {aggregater : Aggregater} {table : IdTable}

theorem represents_initial : initial.Represents .initial := ⟨⟨[], ⟨.empty⟩, rfl⟩, rfl, rfl⟩

theorem Represents.elements (h : aggregater.Represents table) :
    aggregater.msgIdTable.elements = some table.entries := by
  obtain ⟨cells, hcarries, hcells⟩ := h.carries
  rw [hcarries.elements, hcells]

theorem Represents.append (h : aggregater.Represents table) (client : Nat) (clientMsgId : UInt16)
    (hadds : table.refuses client clientMsgId = false) :
    ∃ added, aggregater.append client clientMsgId =
        some (added, (table.addMessageIdTable client clientMsgId).2) ∧
      added.Represents (table.addMessageIdTable client clientMsgId).1 := by
  obtain ⟨cells, hcarries, hcells⟩ := h.carries
  have hmsgId : aggregater.msgId = Client.getNextPacketId table.packetId := by
    rw [msgId, h.packetId]
  obtain ⟨added, happend, hadded, hcnt⟩ := hcarries.append
    ⟨Client.getNextPacketId table.packetId, client, clientMsgId⟩
  simp only [IdTable.addMessageIdTable, hadds, Bool.false_eq_true, if_false]
  refine ⟨⟨added, Client.getNextPacketId table.packetId⟩, ?_, ⟨_, hadded, ?_⟩, rfl, ?_⟩
  · simp only [Aggregater.append, hmsgId, happend, Option.map_some]
  · rw [List.map_append, hcells]
    rfl
  · rw [hcnt, h.cnt]

theorem Represents.addMessageIdTable (h : aggregater.Represents table) (client : Nat)
    (clientMsgId : UInt16) :
    ∃ added, aggregater.addMessageIdTable client clientMsgId =
        some (added, (table.addMessageIdTable client clientMsgId).2) ∧
      added.Represents (table.addMessageIdTable client clientMsgId).1 := by
  obtain ⟨cells, hcarries, hcells⟩ := h.carries
  cases hrefuses : table.refuses client clientMsgId with
  | false =>
    have hparts := hrefuses
    simp only [IdTable.refuses, Bool.or_eq_false_iff, decide_eq_false_iff_not] at hparts
    obtain ⟨added, happend, hadded⟩ := h.append client clientMsgId hrefuses
    refine ⟨added, ?_, hadded⟩
    rw [Aggregater.addMessageIdTable, h.cnt, if_neg hparts.1]
    have hnone : cells.find? (fun entry => IdTable.owns client clientMsgId entry.2) = none := by
      rw [List.find?_eq_none]
      intro entry hentry
      have hall := hparts.2
      rw [← hcells, List.any_eq_false] at hall
      exact hall entry.2 (List.mem_map_of_mem hentry)
    have hfind : aggregater.msgIdTable.findClient client clientMsgId = some none := by
      rw [MessageIdTable.findClient, hcarries.findBy]
      exact congrArg some (congrArg (Option.map _) hnone)
    cases aggregater.msgIdTable.head with
    | none => exact happend
    | some first =>
      simp only [hfind]
      exact happend
  | true =>
    refine ⟨aggregater, ?_, ?_⟩
    · simp only [IdTable.addMessageIdTable, hrefuses, if_true]
      rw [Aggregater.addMessageIdTable, h.cnt]
      by_cases hfull : MAX_MESSAGEID_TABLE_SIZE < table.cnt
      · rw [if_pos hfull]
      · rw [if_neg hfull]
        simp only [IdTable.refuses, hfull, decide_false, Bool.false_or] at hrefuses
        have hfound : (cells.find? fun entry => IdTable.owns client clientMsgId entry.2).isSome := by
          rw [List.isSome_find?]
          rw [← hcells, List.any_map] at hrefuses
          exact hrefuses
        obtain ⟨entry, hfound⟩ := Option.isSome_iff_exists.mp hfound
        have hfind : aggregater.msgIdTable.findClient client clientMsgId = some (some entry.1) := by
          rw [MessageIdTable.findClient, hcarries.findBy]
          exact congrArg some (congrArg (Option.map _) hfound)
        cases hhead : aggregater.msgIdTable.head with
        | none =>
          obtain ⟨rfl, -⟩ := (hhead ▸ hcarries.holds).head_none
          cases hfound
        | some first => simp only [hfind]
    · simp only [IdTable.addMessageIdTable, hrefuses, if_true]
      exact h

theorem Represents.erased (h : aggregater.Represents table) {cells : List (Nat × MessageIdElement)}
    {entry : Nat × MessageIdElement} {msgId : UInt16} (hcarries : aggregater.msgIdTable.Carries cells)
    (hcells : cells.map (·.2) = table.entries)
    (hfound : cells.find? (fun entry => decide (entry.2.msgId = msgId)) = some entry) :
    (∃ prev next, aggregater.msgIdTable.heap.read entry.1 = some ⟨entry.2, prev, next⟩) ∧
      table.lookup msgId = some entry.2 ∧
      ∃ cleared, aggregater.msgIdTable.clear (some entry.1) = some cleared ∧
        Represents { aggregater with msgIdTable := cleared } (table.erase msgId) := by
  obtain ⟨xs, ys, rfl, -, herase, hlookup⟩ :=
    find?_eraseP_split (p := fun elm : MessageIdElement => decide (elm.msgId = msgId)) hfound
  obtain ⟨hread, cleared, hclear, hcleared, hcnt⟩ := hcarries.clear
  rw [hcells] at herase hlookup
  have htable : table.lookup msgId = some entry.2 := hlookup
  refine ⟨hread, htable, cleared, hclear, ?_⟩
  simp only [IdTable.erase, htable]
  exact ⟨⟨xs ++ ys, hcleared, herase.symm⟩, h.packetId, hcnt.trans (congrArg (· - 1) h.cnt)⟩

theorem erase_absent {cells : List (Nat × MessageIdElement)} {msgId : UInt16}
    (hcells : cells.map (·.2) = table.entries)
    (hnone : cells.find? (fun entry => decide (entry.2.msgId = msgId)) = none) :
    table.lookup msgId = none ∧ table.erase msgId = table := by
  have hlookup : table.lookup msgId = none := by
    rw [IdTable.lookup, ← hcells, List.find?_map]
    exact congrArg (Option.map _) hnone
  exact ⟨hlookup, by rw [IdTable.erase, hlookup]⟩

theorem Represents.convertClient (h : aggregater.Represents table) (msgId : UInt16) :
    ∃ after, aggregater.convertClient msgId = some (after, (table.convertClient msgId).2) ∧
      after.Represents (table.convertClient msgId).1 := by
  obtain ⟨cells, hcarries, hcells⟩ := h.carries
  have hfind := hcarries.findBy (·.msgId = msgId)
  simp only [Aggregater.convertClient, IdTable.convertClient, MessageIdTable.getClientMsgId,
    MessageIdTable.findMsgId, hfind]
  cases hfound : cells.find? (fun entry => decide (entry.2.msgId = msgId)) with
  | none =>
    obtain ⟨hlookup, herase⟩ := erase_absent hcells hfound
    rw [hlookup, herase]
    exact ⟨aggregater, rfl, h⟩
  | some entry =>
    obtain ⟨⟨prev, next, hread⟩, hlookup, cleared, hclear, hafter⟩ := h.erased hcarries hcells hfound
    refine ⟨{ aggregater with msgIdTable := cleared }, ?_, hafter⟩
    simp only [Option.map_some, hread, hclear, hlookup]

theorem Represents.erase (h : aggregater.Represents table) (msgId : UInt16) :
    ∃ after, aggregater.erase msgId = some after ∧ after.Represents (table.erase msgId) := by
  obtain ⟨cells, hcarries, hcells⟩ := h.carries
  have hfind := hcarries.findBy (·.msgId = msgId)
  simp only [Aggregater.erase, MessageIdTable.erase, MessageIdTable.findMsgId, hfind,
    Option.bind_some]
  cases hfound : cells.find? (fun entry => decide (entry.2.msgId = msgId)) with
  | none =>
    rw [(erase_absent hcells hfound).2]
    exact ⟨aggregater, rfl, h⟩
  | some entry =>
    obtain ⟨-, -, cleared, hclear, hafter⟩ := h.erased hcarries hcells hfound
    refine ⟨{ aggregater with msgIdTable := cleared }, ?_, hafter⟩
    simp only [Option.map_some, hclear]

theorem Represents.getMsgId (h : aggregater.Represents table) (client : Nat) (clientMsgId : UInt16) :
    aggregater.getMsgId client clientMsgId = some (table.getMsgId client clientMsgId) := by
  obtain ⟨cells, hcarries, hcells⟩ := h.carries
  have hfind : aggregater.msgIdTable.findClient client clientMsgId =
      some ((cells.find? fun entry => IdTable.owns client clientMsgId entry.2).map (·.1)) :=
    hcarries.findBy (IdTable.owns client clientMsgId)
  simp only [Aggregater.getMsgId, hfind, IdTable.getMsgId, ← hcells, List.find?_map]
  cases hfound : cells.find? (fun entry => IdTable.owns client clientMsgId entry.2) with
  | none =>
    have hnone : cells.find? (IdTable.owns client clientMsgId ∘ Prod.snd) = none := hfound
    rw [hnone]
    rfl
  | some entry =>
    have hsome : cells.find? (IdTable.owns client clientMsgId ∘ Prod.snd) = some entry := hfound
    obtain ⟨xs, ys, rfl, -, -, -⟩ := find?_eraseP_split hfound
    obtain ⟨⟨prev, next, hread⟩, -⟩ := hcarries.clear
    rw [hsome]
    simp only [Option.map_some, hread]
    rfl

end Aggregater

end MbedMqtt.MQTTSNGW
