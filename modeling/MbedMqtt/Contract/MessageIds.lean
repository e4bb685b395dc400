import MbedMqtt.Gateway.MessageIdTable
import MbedMqtt.Library.Steps

namespace MbedMqtt.MQTTSNGW

inductive IdOp where
  | add (client : Nat) (clientMsgId : UInt16)
  | convertClient (msgId : UInt16)
  | erase (msgId : UInt16)
  deriving DecidableEq, Repr

def Aggregater.step (aggregater : Aggregater) : IdOp → Option Aggregater
  | .add client clientMsgId => (aggregater.addMessageIdTable client clientMsgId).map (·.1)
  | .convertClient msgId => (aggregater.convertClient msgId).map (·.1)
  | .erase msgId => aggregater.erase msgId

def Aggregater.advance (s : Option Aggregater) (op : IdOp) : Option Aggregater := s.bind (·.step op)

def IdTable.step (table : IdTable) : IdOp → IdTable
  | .add client clientMsgId => (table.addMessageIdTable client clientMsgId).1
  | .convertClient msgId => (table.convertClient msgId).1
  | .erase msgId => table.erase msgId

def owner (elm : MessageIdElement) : Nat × UInt16 := (elm.client, elm.clientMsgId)

structure RoutesBack (aggregater : Aggregater) (entries : List MessageIdElement) : Prop where
  live : aggregater.msgIdTable.elements = some entries
  ids : (entries.map (·.msgId)).Nodup
  owners : (entries.map owner).Nodup
  routed : ∀ elm ∈ entries, ∃ after,
    aggregater.convertClient elm.msgId = some (after, some (owner elm))

def Correct (s : Option Aggregater) : Prop := ∃ aggregater entries, s = some aggregater ∧
  RoutesBack aggregater entries

def allocates (cnt : Int) (entries : List MessageIdElement) : IdOp → Bool
  | .add client clientMsgId =>
      !(MAX_MESSAGEID_TABLE_SIZE < cnt || entries.any (IdTable.owns client clientMsgId))
  | _ => false

namespace Aggregater

def Live (pair : Nat × UInt16) (s : Option Aggregater) : Prop :=
  ∃ aggregater ∈ s, ∃ entries ∈ aggregater.msgIdTable.elements, pair ∈ entries.map owner

def assigns (s : Option Aggregater) (op : IdOp) : Bool :=
  s.any fun aggregater => aggregater.msgIdTable.elements.any fun entries =>
    allocates aggregater.msgIdTable.cnt entries op

-- the pair is in the table before every operation of `mid`
def LiveThrough (pair : Nat × UInt16) (s : Option Aggregater) (mid : List IdOp) : Prop :=
  Steps advance (fun s _ => Live pair s) s mid

end Aggregater

namespace IdTable

def Live (pair : Nat × UInt16) (table : IdTable) : Prop := pair ∈ table.entries.map owner

def assigns (table : IdTable) (op : IdOp) : Bool := allocates table.cnt table.entries op

abbrev run (ops : List IdOp) : IdTable := ops.foldl step initial

abbrev assigned (table : IdTable) (ops : List IdOp) : Nat := Steps.tally step assigns table ops

abbrev LiveThrough (pair : Nat × UInt16) (table : IdTable) (mid : List IdOp) : Prop :=
  Steps step (fun table _ => table.Live pair) table mid

structure Distinct (table : IdTable) : Prop where
  ids : (table.entries.map (·.msgId)).Nodup
  owners : (table.entries.map owner).Nodup

theorem Distinct.initial : initial.Distinct := ⟨List.nodup_nil, List.nodup_nil⟩

variable {table : IdTable} {op : IdOp} {elm : MessageIdElement}

inductive StepShape (table after : IdTable) : Bool → Prop where
  | assigned (elm : MessageIdElement) (hid : elm.msgId = Client.getNextPacketId table.packetId)
      (hnew : ¬table.Live (owner elm)) (hentries : after.entries = table.entries ++ [elm])
      (hpacketId : after.packetId = elm.msgId) : StepShape table after true
  | kept (hentries : after.entries.Sublist table.entries) (hpacketId : after.packetId = table.packetId) :
      StepShape table after false

theorem erase_shape (table : IdTable) (msgId : UInt16) :
    StepShape table (table.erase msgId) false := by
  rw [IdTable.erase]
  split
  · exact .kept (List.Sublist.refl _) rfl
  · exact .kept List.eraseP_sublist rfl

theorem step_shape (table : IdTable) (op : IdOp) :
    StepShape table (table.step op) (table.assigns op) := by
  cases op with
  | add client clientMsgId =>
    have hassigns : table.assigns (.add client clientMsgId) = !table.refuses client clientMsgId := rfl
    rw [hassigns, step, addMessageIdTable]
    cases hrefuses : table.refuses client clientMsgId with
    | true => exact .kept (List.Sublist.refl _) rfl
    | false =>
      refine .assigned ⟨_, client, clientMsgId⟩ rfl ?_ rfl rfl
      intro hlive
      obtain ⟨elm, helm, heq⟩ := List.mem_map.mp hlive
      simp only [refuses, Bool.or_eq_false_iff, List.any_eq_false] at hrefuses
      obtain ⟨hclient, hclientMsgId⟩ := Prod.mk.inj heq
      exact hrefuses.2 elm helm (by simp [owns, hclient, hclientMsgId])
  | convertClient msgId => exact erase_shape table msgId
  | erase msgId => exact erase_shape table msgId

theorem Distinct.lookup (h : table.Distinct) (helm : elm ∈ table.entries) :
    table.lookup elm.msgId = some elm := by
  rw [IdTable.lookup]
  cases hfound : table.entries.find? (·.msgId = elm.msgId) with
  | none =>
    rw [List.find?_eq_none] at hfound
    exact absurd (hfound elm helm) (by simp)
  | some other =>
    have hid : other.msgId = elm.msgId := by simpa using List.find?_some hfound
    rw [List.inj_on_of_nodup_map h.ids (List.mem_of_find?_eq_some hfound) helm hid]

theorem nodup_map_snoc {α β : Type} {f : α → β} {xs : List α} {x : α} (h : (xs.map f).Nodup) :
    ((xs ++ [x]).map f).Nodup ↔ f x ∉ xs.map f := by
  rw [List.map_append, List.nodup_append_comm, List.map_cons, List.map_nil, List.singleton_append,
    List.nodup_cons]
  exact and_iff_left h

theorem distinct_step (h : table.Distinct) (op : IdOp) : (table.step op).Distinct ↔
    (table.assigns op = true → Client.getNextPacketId table.packetId ∉ table.entries.map (·.msgId)) := by
  cases hassigns : table.assigns op with
  | true =>
    obtain ⟨elm, hid, hnew, hentries, -⟩ := hassigns ▸ table.step_shape op
    have howners : ((table.step op).entries.map owner).Nodup := by
      rw [hentries]
      exact (nodup_map_snoc h.owners).mpr hnew
    have hids : ((table.step op).entries.map (·.msgId)).Nodup ↔
        Client.getNextPacketId table.packetId ∉ table.entries.map (·.msgId) := by
      rw [hentries, nodup_map_snoc h.ids, hid]
    simp only [forall_const, ← hids]
    exact ⟨fun hdistinct => hdistinct.ids, fun hids => ⟨hids, howners⟩⟩
  | false =>
    obtain ⟨-⟩ | ⟨hentries, -⟩ := hassigns ▸ table.step_shape op
    refine iff_of_true ⟨?_, ?_⟩ (fun hfalse => absurd hfalse Bool.false_ne_true)
    · exact h.ids.sublist (hentries.map _)
    · exact h.owners.sublist (hentries.map _)

-- ids are handed out in the order of `idAt`, and a live entry keeps the one of its own allocation
structure Dated (ops : List IdOp) (table : IdTable) : Prop where
  next : Client.getNextPacketId table.packetId = idAt (initial.assigned ops)
  entries : ∀ elm ∈ table.entries, ∃ pre mid n, ops = pre ++ mid ∧ elm.msgId = idAt n ∧
    initial.assigned ops = n + 1 + (run pre).assigned mid ∧ (run pre).LiveThrough (owner elm) mid

theorem run_append (pre mid : List IdOp) : mid.foldl step (run pre) = run (pre ++ mid) :=
  (List.foldl_append ..).symm

theorem assigned_concat (pre mid : List IdOp) (op : IdOp) :
    (run pre).assigned (mid ++ [op]) =
      (run pre).assigned mid + ((run (pre ++ mid)).assigns op).toNat := by
  rw [assigned, Steps.tally_append, run_append]
  rfl

theorem liveThrough_concat {pre mid : List IdOp} (hlive : (run pre).LiveThrough (owner elm) mid)
    (helm : elm ∈ (run (pre ++ mid)).entries) (op : IdOp) :
    (run pre).LiveThrough (owner elm) (mid ++ [op]) := by
  rw [LiveThrough, Steps.append, run_append]
  exact ⟨hlive, List.mem_map_of_mem helm, trivial⟩

theorem Dated.extend {ops : List IdOp} (h : (run ops).Dated ops) (helm : elm ∈ (run ops).entries)
    (op : IdOp) : ∃ pre mid n, ops ++ [op] = pre ++ mid ∧ elm.msgId = idAt n ∧
      initial.assigned (ops ++ [op]) = n + 1 + (run pre).assigned mid ∧
      (run pre).LiveThrough (owner elm) mid := by
  obtain ⟨pre, mid, n, rfl, hid, hcount, hlive⟩ := h.entries elm helm
  refine ⟨pre, mid ++ [op], n, List.append_assoc .., hid, ?_, liveThrough_concat hlive helm op⟩
  have htotal := assigned_concat [] (pre ++ mid) op
  rw [assigned_concat, ← Nat.add_assoc, ← hcount]
  exact htotal

theorem dated (ops : List IdOp) : (run ops).Dated ops := by
  induction ops using List.reverseRecOn with
  | nil => exact ⟨by rw [getNextPacketId_eq]; exact getNextTopicId_zero, fun _ helm => nomatch helm⟩
  | append_singleton ops op ih =>
    have hrun : run (ops ++ [op]) = (run ops).step op := List.foldl_concat ..
    have hcount : initial.assigned (ops ++ [op]) =
        initial.assigned ops + ((run ops).assigns op).toNat := assigned_concat [] ops op
    rw [hrun]
    cases hassigns : (run ops).assigns op with
    | true =>
      obtain ⟨elm, hid, -, hentries, hpacketId⟩ := hassigns ▸ (run ops).step_shape op
      rw [hassigns] at hcount
      refine ⟨?_, ?_⟩
      · rw [hpacketId, hid, ih.next, getNextPacketId_eq, getNextTopicId_idAt, hcount]
        rfl
      · intro other hother
        rw [hentries, List.mem_append, List.mem_singleton] at hother
        obtain hother | rfl := hother
        · exact ih.extend hother op
        · exact ⟨ops ++ [op], [], _, (List.append_nil _).symm, hid.trans ih.next, hcount, trivial⟩
    | false =>
      obtain ⟨-⟩ | ⟨hentries, hpacketId⟩ := hassigns ▸ (run ops).step_shape op
      rw [hassigns] at hcount
      refine ⟨?_, fun other hother => ih.extend (hentries.mem hother) op⟩
      rw [hpacketId, ih.next, hcount]
      rfl

-- `k` ids were handed out since the one of `elm`; the 65534th is that one again
theorem assigned_lt {mid : List IdOp} {n k : Nat} (hk : k < 65534)
    (hdistinct : ∀ first, first <+: mid → (first.foldl step table).Distinct) (helm : elm ∈ table.entries)
    (hid : elm.msgId = idAt n) (hnext : Client.getNextPacketId table.packetId = idAt (n + 1 + k))
    (hlive : table.LiveThrough (owner elm) mid) : k + table.assigned mid < 65534 := by
  induction mid generalizing table k with
  | nil => exact hk
  | cons op mid ih =>
    have hnow : table.Distinct := hdistinct [] List.nil_prefix
    have hafter : (table.step op).Distinct := hdistinct [op] ⟨mid, rfl⟩
    have htail : ∀ first, first <+: mid → (first.foldl step (table.step op)).Distinct :=
      fun first hfirst => hdistinct (op :: first) (List.cons_prefix_cons.mpr ⟨rfl, hfirst⟩)
    cases hassigns : table.assigns op with
    | true =>
      obtain ⟨other, hother, -, hentries, hpacketId⟩ := hassigns ▸ table.step_shape op
      have hdiffer : idAt (n + 1 + k) ≠ idAt n := by
        rw [← hnext, ← hid]
        intro hsame
        exact (distinct_step hnow op).mp hafter hassigns
          (hsame ▸ List.mem_map_of_mem helm)
      have hturn : k + 1 < 65534 := by
        rw [ne_eq, idAt_eq_iff] at hdiffer
        omega
      have hrest := ih hturn htail (by rw [hentries]; exact List.mem_append_left _ helm)
        (by rw [hpacketId, hother, hnext, getNextPacketId_eq, getNextTopicId_idAt]; rfl) hlive.2
      rw [assigned, Steps.tally, hassigns, Bool.toNat_true, ← Nat.add_assoc]
      exact hrest
    | false =>
      obtain ⟨-⟩ | ⟨hentries, hpacketId⟩ := hassigns ▸ table.step_shape op
      have hcount : table.assigned (op :: mid) = (table.step op).assigned mid := by
        rw [assigned, Steps.tally, hassigns, Bool.toNat_false, Nat.zero_add]
      rw [hcount]
      cases mid with
      | nil => exact hk
      | cons next mid =>
        obtain ⟨other, hother, howner⟩ := List.mem_map.mp hlive.2.1
        have hsame : other = elm :=
          List.inj_on_of_nodup_map hnow.owners (hentries.mem hother) helm howner
        exact ih hk htail (hsame ▸ hother) (hpacketId ▸ hnext) hlive.2

theorem distinct_iff (ops : List IdOp) : (∀ n, (run (ops.take n)).Distinct) ↔
    ∀ pre mid post pair, ops = pre ++ mid ++ post → (run pre).LiveThrough pair mid →
      (run pre).assigned mid < 65534 := by
  constructor
  · rintro hdistinct pre mid post pair rfl hlive
    cases mid with
    | nil => exact Nat.zero_lt_succ _
    | cons op mid =>
      obtain ⟨elm, helm, rfl⟩ := List.mem_map.mp hlive.1
      obtain ⟨front, since, n, -, hid, hcount, -⟩ := (dated pre).entries elm helm
      have hnext := (dated pre).next
      rw [hcount, ← idAt_add_mod] at hnext
      refine Nat.lt_of_le_of_lt (Nat.le_add_left ..)
        (assigned_lt (Nat.mod_lt _ (Nat.zero_lt_succ _)) ?_ helm hid hnext hlive)
      intro first hfirst
      have hprefix : pre ++ first <+: pre ++ op :: mid ++ post := by
        rw [List.append_assoc, List.prefix_append_right_inj]
        exact hfirst.trans (List.prefix_append ..)
      rw [run_append, List.prefix_iff_eq_take.mp hprefix]
      exact hdistinct _
  · intro hcount
    refine (Steps.iff_prefixes (I := Distinct) (P := fun table op => table.assigns op = true →
      Client.getNextPacketId table.packetId ∉ table.entries.map (·.msgId))
      (fun h => distinct_step h _) .initial).mpr (Steps.iff_splits.mpr ?_)
    rintro pre op post rfl hassigns hmem
    obtain ⟨elm, helm, hid⟩ := List.mem_map.mp hmem
    obtain ⟨first, mid, n, rfl, hdate, hsum, hlive⟩ := (dated pre).entries elm helm
    have hbound := hcount first (mid ++ [op]) post (owner elm) (by simp)
      (liveThrough_concat hlive helm op)
    have hwrap : idAt n = idAt (n + 1 + (run first).assigned mid) := by
      rw [← hdate, ← hsum, hid]
      exact (dated _).next
    rw [assigned_concat, hassigns, Bool.toNat_true] at hbound
    rw [idAt_eq_iff] at hwrap
    omega

end IdTable

section Refinement

variable {aggregater : Aggregater} {table : IdTable}

theorem Aggregater.Represents.step (h : aggregater.Represents table) (op : IdOp) :
    ∃ after, aggregater.step op = some after ∧ after.Represents (table.step op) := by
  cases op with
  | add client clientMsgId =>
    obtain ⟨added, hadd, hafter⟩ := h.addMessageIdTable client clientMsgId
    exact ⟨added, by rw [Aggregater.step, hadd, Option.map_some], hafter⟩
  | convertClient msgId =>
    obtain ⟨after, hconvert, hafter⟩ := h.convertClient msgId
    exact ⟨after, by rw [Aggregater.step, hconvert, Option.map_some], hafter⟩
  | erase msgId => exact h.erase msgId

theorem correct_iff (h : aggregater.Represents table) : Correct (some aggregater) ↔ table.Distinct := by
  constructor
  · rintro ⟨same, entries, heq, hroutes⟩
    obtain rfl := Option.some.inj heq
    obtain rfl : entries = table.entries := Option.some.inj (hroutes.live.symm.trans h.elements)
    exact ⟨hroutes.ids, hroutes.owners⟩
  · intro hdistinct
    refine ⟨aggregater, table.entries, rfl, h.elements, hdistinct.ids, hdistinct.owners, ?_⟩
    intro elm helm
    obtain ⟨after, hconvert, -⟩ := h.convertClient elm.msgId
    refine ⟨after, ?_⟩
    rw [hconvert, IdTable.convertClient, hdistinct.lookup helm]
    rfl

def Refined (s : Option Aggregater) (table : IdTable) : Prop :=
  ∃ aggregater, s = some aggregater ∧ aggregater.Represents table

theorem Refined.initial : Refined (some .initial) .initial := ⟨_, rfl, Aggregater.represents_initial⟩

variable {s : Option Aggregater}

theorem Refined.advance (h : Refined s table) (op : IdOp) :
    Refined (Aggregater.advance s op) (table.step op) := by
  obtain ⟨aggregater, rfl, hrep⟩ := h
  exact hrep.step op

theorem Refined.run (h : Refined s table) (ops : List IdOp) :
    Refined (ops.foldl Aggregater.advance s) (ops.foldl IdTable.step table) :=
  List.foldl_rel h fun op _ _ _ hrun => hrun.advance op

theorem Refined.correct (h : Refined s table) : Correct s ↔ table.Distinct := by
  obtain ⟨aggregater, rfl, hrep⟩ := h
  exact correct_iff hrep

theorem Refined.live (h : Refined s table) (pair : Nat × UInt16) :
    Aggregater.Live pair s ↔ table.Live pair := by
  obtain ⟨aggregater, rfl, hrep⟩ := h
  simp [Aggregater.Live, hrep.elements, IdTable.Live]

theorem Refined.assigns (h : Refined s table) (op : IdOp) :
    Aggregater.assigns s op = table.assigns op := by
  obtain ⟨aggregater, rfl, hrep⟩ := h
  simp [Aggregater.assigns, hrep.elements, hrep.cnt, IdTable.assigns]

theorem Refined.liveThrough (h : Refined s table) (pair : Nat × UInt16) (mid : List IdOp) :
    Aggregater.LiveThrough pair s mid ↔ table.LiveThrough pair mid :=
  Steps.simulate (fun h => h.advance _) (fun h => h.live pair) h mid

theorem Refined.assigned (h : Refined s table) (mid : List IdOp) :
    Steps.tally Aggregater.advance Aggregater.assigns s mid = table.assigned mid :=
  Steps.tally_simulate (fun h => h.advance _) (fun h => h.assigns _) h mid

end Refinement

theorem message_ids_distinct (ops : List IdOp) :
    (∀ n, Correct ((ops.take n).foldl Aggregater.advance (some .initial))) ↔
      ∀ pre mid post pair, ops = pre ++ mid ++ post →
        Aggregater.LiveThrough pair (pre.foldl Aggregater.advance (some .initial)) mid →
        Steps.tally Aggregater.advance Aggregater.assigns
          (pre.foldl Aggregater.advance (some .initial)) mid < 65534 := by
  have hrun (ops : List IdOp) := Refined.initial.run ops
  simp only [(hrun _).correct, (hrun _).liveThrough, (hrun _).assigned]
  exact IdTable.distinct_iff ops

def turnovers (n : Nat) : List IdOp :=
  (List.range n).flatMap fun k => [.add 1 1, .convertClient (idAt (k + 1))]

def collision : List IdOp := [.add 0 1] ++ turnovers 65533 ++ [.add 2 1]

theorem turnovers_table (n : Nat) (h : n ≤ 65533) :
    (turnovers n).foldl IdTable.step ⟨[⟨1, 0, 1⟩], idAt 0, 1⟩ = ⟨[⟨1, 0, 1⟩], idAt n, 1⟩ := by
  induction n with
  | zero => rfl
  | succ n ih =>
    have hnext : Client.getNextPacketId (idAt n) = idAt (n + 1) := by
      rw [getNextPacketId_eq, getNextTopicId_idAt]
    have hne : (1 : UInt16) ≠ idAt (n + 1) := by
      intro heq
      have hnat := congrArg UInt16.toNat heq
      rw [idAt_toNat, UInt16.toNat_one] at hnat
      omega
    have hturn : turnovers (n + 1) = turnovers n ++ [.add 1 1, .convertClient (idAt (n + 1))] := by
      simp [turnovers, List.range_succ]
    rw [hturn, List.foldl_append, ih (by omega)]
    simp [IdTable.step, IdTable.addMessageIdTable, IdTable.refuses, IdTable.owns, hnext,
      IdTable.convertClient, IdTable.erase, IdTable.lookup, hne]

theorem message_id_collision : ¬Correct (collision.foldl Aggregater.advance (some .initial)) := by
  rw [(Refined.initial.run collision).correct]
  have hfirst : [IdOp.add 0 1].foldl IdTable.step .initial = ⟨[⟨1, 0, 1⟩], idAt 0, 1⟩ := by decide
  rw [collision, List.foldl_append, List.foldl_append, hfirst,
    turnovers_table 65533 (Nat.le_refl _), List.foldl_cons, List.foldl_nil]
  rintro ⟨hids, -⟩
  revert hids
  decide

end MbedMqtt.MQTTSNGW
