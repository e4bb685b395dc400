import MbedMqtt.Library.BoundedMap
import MbedMqtt.Client.State

namespace MbedMqtt

def filters (slots : List MessageHandlers) : List Bytes := slots.filterMap (·.topicFilter)

theorem filters_append (a b : List MessageHandlers) : filters (a ++ b) = filters a ++ filters b :=
  List.filterMap_append

theorem filters_cons_none {slot : MessageHandlers} (b : List MessageHandlers)
    (h : slot.topicFilter = none) : filters (slot :: b) = filters b :=
  List.filterMap_cons_none h

theorem filters_cons_some {slot : MessageHandlers} {f : Bytes} (b : List MessageHandlers)
    (h : slot.topicFilter = some f) : filters (slot :: b) = f :: filters b :=
  List.filterMap_cons_some h

theorem mem_filters {slots : List MessageHandlers} {f : Bytes} :
    f ∈ filters slots ↔ ∃ slot ∈ slots, slot.topicFilter = some f :=
  List.mem_filterMap

theorem not_mem_of_absent {slots : List MessageHandlers} {f : Bytes} (hf : f ∉ filters slots)
    (fp : Option Nat) : ⟨some f, fp⟩ ∉ slots :=
  fun hmem => hf (mem_filters.mpr ⟨_, hmem, rfl⟩)

structure Represents (slots : List MessageHandlers) (m : Finmap fun _ : Bytes => Nat) : Prop where
  nodup : (filters slots).Nodup
  attached : ∀ slot ∈ slots, slot.topicFilter.isSome = true → slot.fp.isSome = true
  lookup : ∀ f h, m.lookup f = some h ↔ ⟨some f, some h⟩ ∈ slots

namespace Represents

variable {slots a b : List MessageHandlers} {slot : MessageHandlers} {f : Bytes} {h : Nat}
  {m : Finmap fun _ : Bytes => Nat}

theorem mem_iff (hr : Represents slots m) : f ∈ m ↔ f ∈ filters slots := by
  rw [Finmap.mem_iff, mem_filters]
  constructor
  · rintro ⟨h, hl⟩
    exact ⟨_, (hr.lookup f h).mp hl, rfl⟩
  · rintro ⟨⟨filter, fp⟩, hmem, rfl⟩
    have hfp := hr.attached _ hmem rfl
    obtain ⟨h, rfl⟩ := Option.isSome_iff_exists.mp hfp
    exact ⟨h, (hr.lookup f h).mpr hmem⟩

theorem card_eq (hr : Represents slots m) : m.keys.card = (filters slots).length := by
  have hkeys : m.keys = (filters slots).toFinset := by
    ext f
    rw [Finmap.mem_keys, hr.mem_iff, List.mem_toFinset]
  rw [hkeys, List.toFinset_card_of_nodup hr.nodup]

theorem card_lt_iff (hr : Represents slots m) :
    m.keys.card < slots.length ↔ ∃ slot ∈ slots, slot.topicFilter = none := by
  rw [hr.card_eq, filters, List.length_filterMap_lt_length_iff_exists]
  simp only [exists_prop]

theorem empty (n : Nat) : Represents (List.replicate n ⟨none, none⟩) ∅ where
  nodup := by simp [filters]
  attached := by
    intro slot hs
    rw [List.eq_of_mem_replicate hs]
    simp
  lookup := by simp

theorem clear (slots : List MessageHandlers) :
    Represents (slots.map fun slot => { slot with topicFilter := none }) ∅ where
  nodup := by simp [filters]
  attached := by
    intro slot hs
    obtain ⟨old, -, rfl⟩ := List.mem_map.mp hs
    simp
  lookup := by simp

theorem absent (hr : Represents (a ++ slot :: b) m) (hslot : slot.topicFilter = some f) :
    f ∉ filters a ∧ f ∉ filters b := by
  have hnodup := hr.nodup
  rw [filters_append, filters_cons_some b hslot] at hnodup
  obtain ⟨-, hb, hab⟩ := List.nodup_append.mp hnodup
  refine ⟨?_, (List.nodup_cons.mp hb).1⟩
  intro ha
  exact hab f ha f List.mem_cons_self rfl

theorem attached_replace (hr : Represents (a ++ slot :: b) m) {new : MessageHandlers}
    (hnew : new.topicFilter.isSome = true → new.fp.isSome = true) :
    ∀ s ∈ a ++ new :: b, s.topicFilter.isSome = true → s.fp.isSome = true := by
  intro s hs
  rcases List.mem_append.mp hs with hs | hs
  · exact hr.attached s (List.mem_append_left _ hs)
  · rcases List.mem_cons.mp hs with rfl | hs
    · exact hnew
    · exact hr.attached s (List.mem_append_right _ (List.mem_cons_of_mem _ hs))

theorem put (hr : Represents (a ++ slot :: b) m)
    (hslot : slot.topicFilter = none ∨ slot.topicFilter = some f)
    (ha : f ∉ filters a) (hb : f ∉ filters b) (h : Nat) :
    Represents (a ++ ⟨some f, some h⟩ :: b) (m.insert f h) where
  nodup := by
    have hnodup := hr.nodup
    rw [filters_append] at hnodup ⊢
    obtain ⟨hna, hnb, hab⟩ := List.nodup_append.mp hnodup
    have hsub : filters b <:+ filters (slot :: b) := by
      rcases hslot with hs | hs
      · rw [filters_cons_none b hs]
      · rw [filters_cons_some b hs]
        exact List.suffix_cons f _
    refine List.nodup_append.mpr ⟨hna, List.nodup_cons.mpr ⟨hb, hnb.sublist hsub.sublist⟩, ?_⟩
    intro g hg g' hg'
    rcases List.mem_cons.mp hg' with rfl | hg'
    · rintro rfl
      exact ha hg
    · exact hab g hg g' (hsub.subset hg')
  attached := hr.attached_replace (by simp)
  lookup := by
    intro g h'
    by_cases hg : g = f
    · subst hg
      have hna := not_mem_of_absent ha (some h')
      have hnb := not_mem_of_absent hb (some h')
      simp [hna, hnb, eq_comm]
    · have hne : (⟨some g, some h'⟩ : MessageHandlers) ≠ slot := by
        rintro rfl
        rcases hslot with hs | hs
        · cases hs
        · exact hg (Option.some.inj hs)
      rw [Finmap.lookup_insert_of_ne m hg, hr.lookup]
      simp [hne, hg]

theorem drop (hr : Represents (a ++ slot :: b) m) (hslot : slot.topicFilter = some f) :
    Represents (a ++ ⟨none, none⟩ :: b) (m.erase f) where
  nodup := by
    refine hr.nodup.sublist ?_
    rw [filters_append, filters_append]
    refine List.Sublist.append_left ?_ _
    rw [filters_cons_none b rfl, filters_cons_some b hslot]
    exact List.sublist_cons_self f _
  attached := hr.attached_replace (by simp)
  lookup := by
    obtain ⟨ha, hb⟩ := hr.absent hslot
    intro g h'
    by_cases hg : g = f
    · subst hg
      have hna := not_mem_of_absent ha (some h')
      have hnb := not_mem_of_absent hb (some h')
      simp [hna, hnb]
    · have hne : (⟨some g, some h'⟩ : MessageHandlers) ≠ slot := by
        rintro rfl
        exact hg (Option.some.inj hslot)
      rw [Finmap.lookup_erase_ne hg, hr.lookup]
      simp [hne]

end Represents

theorem set_findIdx {α : Type} (p : α → Bool) {xs : List α} (h : xs.findIdx p < xs.length) :
    ∃ a x b, xs = a ++ x :: b ∧ p x = true ∧ ∀ y, xs.set (xs.findIdx p) y = a ++ y :: b := by
  refine ⟨xs.take (xs.findIdx p), xs.get ⟨_, h⟩, xs.drop (xs.findIdx p + 1), ?_, ?_, ?_⟩
  · rw [List.get_eq_getElem, List.getElem_cons_drop, List.take_append_drop]
  · exact List.findIdx_getElem
  · intro y
    exact List.set_eq_take_append_cons_drop.trans (if_pos h)

theorem findIdx_lt_iff {slots : List MessageHandlers} {t : Option Bytes} :
    slots.findIdx (fun slot => slot.topicFilter = t) < slots.length ↔
      ∃ slot ∈ slots, slot.topicFilter = t := by
  simp

section Refinement

variable {n : Nat} {slots : List MessageHandlers} {m : BoundedMap Bytes Nat n}

structure Refines (r : Int × List MessageHandlers) (a : Bool × BoundedMap Bytes Nat n) : Prop where
  rc : r.1 = if a.1 then SUCCESS else FAILURE
  represents : Represents r.2 a.2.map
  length : r.2.length = n

theorem setMessageHandler_set (hr : Represents slots m.map) (hn : slots.length = n) (f : Bytes)
    (h : Nat) : Refines (setMessageHandler slots f (some h)) (m.set f h) := by
  have hroom : f ∈ m.map ∨ m.map.keys.card < n ↔
      (∃ slot ∈ slots, slot.topicFilter = some f) ∨ ∃ slot ∈ slots, slot.topicFilter = none := by
    have hcard := hr.card_lt_iff
    rw [hn] at hcard
    rw [hr.mem_iff, mem_filters, hcard]
  by_cases hf : ∃ slot ∈ slots, slot.topicFilter = some f
  · have hi := findIdx_lt_iff.mpr hf
    obtain ⟨a, slot, b, rfl, hslot, hset⟩ := set_findIdx _ hi
    have hslot : slot.topicFilter = some f := by simpa using hslot
    obtain ⟨ha, hb⟩ := hr.absent hslot
    simp only [setMessageHandler, hi, if_true, hset, BoundedMap.set, hroom.mpr (.inl hf), dite_true]
    exact ⟨rfl, hr.put (.inr hslot) ha hb h, by simpa using hn⟩
  · have hi := mt findIdx_lt_iff.mp hf
    simp only [setMessageHandler, hi, if_false]
    by_cases hfree : ∃ slot ∈ slots, slot.topicFilter = none
    · have hj := findIdx_lt_iff.mpr hfree
      obtain ⟨a, slot, b, rfl, hslot, hset⟩ := set_findIdx _ hj
      have hslot : slot.topicFilter = none := by simpa using hslot
      rw [← mem_filters, filters_append, List.mem_append, filters_cons_none b hslot, not_or] at hf
      simp only [hj, if_true, hset, BoundedMap.set, hroom.mpr (.inr hfree), dite_true]
      exact ⟨rfl, hr.put (.inl hslot) hf.1 hf.2 h, by simpa using hn⟩
    · have hj := mt findIdx_lt_iff.mp hfree
      have hfull := mt hroom.mp (not_or.mpr ⟨hf, hfree⟩)
      simp only [hj, if_false, BoundedMap.set, hfull, dite_false]
      exact ⟨rfl, hr, hn⟩

theorem setMessageHandler_remove (hr : Represents slots m.map) (hn : slots.length = n) (f : Bytes) :
    Refines (setMessageHandler slots f none) (m.remove f) := by
  have hmem : f ∈ m.map ↔ ∃ slot ∈ slots, slot.topicFilter = some f := by
    rw [hr.mem_iff, mem_filters]
  by_cases hf : ∃ slot ∈ slots, slot.topicFilter = some f
  · have hi := findIdx_lt_iff.mpr hf
    obtain ⟨a, slot, b, rfl, hslot, hset⟩ := set_findIdx _ hi
    have hslot : slot.topicFilter = some f := by simpa using hslot
    simp only [setMessageHandler, hi, if_true, hset, BoundedMap.remove, hmem.mpr hf]
    exact ⟨rfl, hr.drop hslot, by simpa using hn⟩
  · have hi := mt findIdx_lt_iff.mp hf
    simp only [setMessageHandler, hi, if_false, BoundedMap.remove, mt hmem.mp hf]
    exact ⟨rfl, hr, hn⟩

end Refinement

theorem setMessageHandler_failure {slots : List MessageHandlers} {f : Bytes} {mh : Option Nat}
    (h : (setMessageHandler slots f mh).1 = FAILURE) : (setMessageHandler slots f mh).2 = slots := by
  simp only [setMessageHandler] at h ⊢
  split
  · rename_i hi
    rw [if_pos hi] at h
    cases mh with
    | none => cases h
    | some mh => cases h
  · rename_i hi
    rw [if_neg hi] at h
    cases mh with
    | none => rfl
    | some mh =>
      simp only at h ⊢
      split
      · rename_i hj
        rw [if_pos hj] at h
        cases h
      · rfl

inductive TableOp where
  | setMessageHandler (topicFilter : Bytes) (mh : Option Nat)
  | setDefaultMessageHandler (mh : Option Nat)
  | cleanSession
  deriving DecidableEq, Repr

structure HandlerMap (n : Nat) where
  handlers : BoundedMap Bytes Nat n
  fallback : Option Nat

def TableOp.run (cfg : Config) (s : Session) : TableOp → Int × Session
  | .setMessageHandler topicFilter mh =>
      let r := MbedMqtt.setMessageHandler s.messageHandlers topicFilter mh
      (r.1, { s with messageHandlers := r.2 })
  | .setDefaultMessageHandler mh => (SUCCESS, { s with defaultMessageHandler := mh })
  | .cleanSession => (SUCCESS, s.cleanSession cfg)

def TableOp.apply {n : Nat} (m : HandlerMap n) : TableOp → Bool × HandlerMap n
  | .setMessageHandler topicFilter mh =>
      let r := match mh with
        | some h => m.handlers.set topicFilter h
        | none => m.handlers.remove topicFilter
      (r.1, { m with handlers := r.2 })
  | .setDefaultMessageHandler mh => (true, { m with fallback := mh })
  | .cleanSession => (true, { m with handlers := .empty })

def TableOp.Refused {n : Nat} (m : HandlerMap n) : TableOp → Prop
  | .setMessageHandler topicFilter (some _) =>
      topicFilter ∉ m.handlers.map ∧ m.handlers.map.keys.card = n
  | .setMessageHandler topicFilter none => topicFilter ∉ m.handlers.map
  | .setDefaultMessageHandler _ => False
  | .cleanSession => False

def HandlerMap.empty {n : Nat} : HandlerMap n := ⟨.empty, none⟩

structure Session.Models {n : Nat} (s : Session) (m : HandlerMap n) : Prop where
  represents : Represents s.messageHandlers m.handlers.map
  length : s.messageHandlers.length = n
  fallback : s.defaultMessageHandler = m.fallback

theorem construct_models {τ : Type} (cfg : Config) (commandTimeoutMs : Nat) (idle : τ) :
    (Client.construct cfg commandTimeoutMs idle).Models
      (.empty : HandlerMap cfg.maxMessageHandlers) := by
  rw [Client.construct_toSession]
  exact ⟨.empty _, List.length_replicate, rfl⟩

namespace TableOp

variable {n : Nat} {s : Session} {m : HandlerMap n}

theorem apply_refused (m : HandlerMap n) (op : TableOp) : (op.apply m).1 = false ↔ op.Refused m := by
  cases op with
  | setMessageHandler f mh =>
    cases mh with
    | none =>
      simp only [apply, BoundedMap.remove, Refused]
      split
      · rename_i hmem
        simp [hmem]
      · rename_i hmem
        simp [hmem]
    | some h =>
      have hle := m.handlers.bounded
      have hfull : ¬m.handlers.map.keys.card < n ↔ m.handlers.map.keys.card = n := by omega
      simp only [apply, BoundedMap.set, Refused, ← hfull, ← not_or]
      split
      · rename_i hroom
        simp [hroom]
      · rename_i hroom
        simp [hroom]
  | setDefaultMessageHandler mh => simp [apply, Refused]
  | cleanSession => simp [apply, Refused]

theorem run_models (cfg : Config) (hs : s.Models m) (op : TableOp) :
    (op.run cfg s).1 = (if (op.apply m).1 then SUCCESS else FAILURE) ∧
      (op.run cfg s).2.Models (op.apply m).2 := by
  cases op with
  | setMessageHandler f mh =>
    cases mh with
    | none =>
      have h := setMessageHandler_remove hs.represents hs.length f
      exact ⟨h.rc, h.represents, h.length, hs.fallback⟩
    | some mh =>
      have h := setMessageHandler_set hs.represents hs.length f mh
      exact ⟨h.rc, h.represents, h.length, hs.fallback⟩
  | setDefaultMessageHandler mh => exact ⟨rfl, hs.represents, hs.length, rfl⟩
  | cleanSession =>
    refine ⟨rfl, .clear _, ?_, hs.fallback⟩
    exact (List.length_map _).trans hs.length

theorem run_failure {cfg : Config} {op : TableOp} (h : (op.run cfg s).1 = FAILURE) :
    (op.run cfg s).2 = s := by
  cases op with
  | setMessageHandler f mh => rw [run, setMessageHandler_failure h]
  | setDefaultMessageHandler mh => cases h
  | cleanSession => cases h

def session (cfg : Config) (s : Session) (ops : List TableOp) : Session :=
  ops.foldl (fun s op => (op.run cfg s).2) s

def meaning (m : HandlerMap n) (ops : List TableOp) : HandlerMap n :=
  ops.foldl (fun m op => (op.apply m).2) m

theorem session_models (cfg : Config) (ops : List TableOp) (hs : s.Models m) :
    (session cfg s ops).Models (meaning m ops) := by
  induction ops generalizing s m with
  | nil => exact hs
  | cons op ops ih => exact ih (run_models cfg hs op).2

end TableOp

def MessageHandlers.entry (slot : MessageHandlers) : Option (Bytes × Nat) :=
  slot.topicFilter.bind fun f => slot.fp.map (f, ·)

def entries (slots : List MessageHandlers) : List (Bytes × Nat) := slots.filterMap (·.entry)

theorem entry_eq_some {slot : MessageHandlers} {f : Bytes} {h : Nat} :
    slot.entry = some (f, h) ↔ slot = ⟨some f, some h⟩ := by
  rcases slot with ⟨filter, fp⟩
  cases filter <;> cases fp <;> simp [MessageHandlers.entry]

theorem mem_entries {slots : List MessageHandlers} {f : Bytes} {h : Nat} :
    (f, h) ∈ entries slots ↔ ⟨some f, some h⟩ ∈ slots := by
  simp [entries, List.mem_filterMap, entry_eq_some]

theorem entries_filters {slots : List MessageHandlers} {m : Finmap fun _ : Bytes => Nat}
    (hr : Represents slots m) : (entries slots).map Prod.fst = filters slots := by
  rw [entries, filters, List.map_filterMap]
  apply List.filterMap_congr
  rintro ⟨filter, fp⟩ hslot
  have hfp := hr.attached _ hslot
  cases filter <;> cases fp <;> simp_all [MessageHandlers.entry]

theorem matchedHandlers_entries (slots : List MessageHandlers) (topicName : MQTTString) :
    matchedHandlers slots topicName =
      ((entries slots).filter fun e =>
        packetEquals topicName e.1 || isTopicMatched e.1 topicName).map Prod.snd := by
  rw [matchedHandlers, entries, List.filter_filterMap, List.map_filterMap]
  apply List.filterMap_congr
  rintro ⟨filter, fp⟩ -
  cases filter with
  | none => rfl
  | some f =>
    cases fp with
    | none => simp [MessageHandlers.entry]
    | some h =>
      cases hm : packetEquals topicName f || isTopicMatched f topicName with
      | true => simp only [MessageHandlers.entry, Option.bind_some, Option.map_some, hm, if_true,
          Option.filter_some]
      | false => simp [MessageHandlers.entry, Bool.or_eq_false_iff.mp hm]

structure TableContract (σ κ : Type) {τ : Type} {n : Nat} (cfg : Config) (c : Client τ)
    (m : HandlerMap n) : Prop where
  lookup : ∀ f h, m.handlers.map.lookup f = some h ↔ (f, h) ∈ entries c.messageHandlers
  occupied : (entries c.messageHandlers).map Prod.fst = filters c.messageHandlers
  distinct : (filters c.messageHandlers).Nodup
  bounded : (filters c.messageHandlers).length ≤ n
  rc : ∀ op : TableOp, (op.run cfg c.toSession).1 = if (op.apply m).1 then SUCCESS else FAILURE
  failure : ∀ op : TableOp, (op.run cfg c.toSession).1 = FAILURE ↔ op.Refused m
  unchanged : ∀ op : TableOp, op.Refused m → (op.run cfg c.toSession).2 = c.toSession
  deliver : ∀ (w : World σ τ κ) topicName message,
    let matched := (entries c.messageHandlers).filter fun e =>
      packetEquals topicName e.1 || isTopicMatched e.1 topicName
    let handlers := if matched = [] then m.fallback.toList else matched.map Prod.snd
    deliverMessage c w topicName message =
      ⟨if handlers = [] then FAILURE else SUCCESS, c,
        w.record [.delivered topicName message handlers]⟩

theorem handler_table_contract {σ τ κ : Type} {n : Nat} {cfg : Config} {c : Client τ}
    {m : HandlerMap n} (hs : c.Models m) : TableContract σ κ cfg c m := by
  have hfailure (op : TableOp) : (op.run cfg c.toSession).1 = FAILURE ↔ op.Refused m := by
    rw [(TableOp.run_models cfg hs op).1, ← TableOp.apply_refused]
    cases (op.apply m).1 <;> simp
  refine ⟨?_, entries_filters hs.represents, hs.represents.nodup, ?_, ?_, hfailure, ?_, ?_⟩
  · intro f h
    rw [mem_entries, hs.represents.lookup]
  · rw [← hs.length]
    exact List.length_filterMap_le _ _
  · intro op
    exact (TableOp.run_models cfg hs op).1
  · intro op hop
    exact TableOp.run_failure ((hfailure op).mpr hop)
  · intro w topicName message matched handlers
    have hinvoked : c.invoked topicName = handlers := by
      simp only [Session.invoked, matchedHandlers_entries, hs.fallback, List.isEmpty_iff,
        List.map_eq_nil_iff]
      rfl
    simp only [deliverMessage, hinvoked, List.isEmpty_iff]

theorem handler_table_refines_map {σ τ κ : Type} (cfg : Config) (commandTimeoutMs : Nat) (idle : τ)
    (ops : List TableOp) :
    let c := Client.construct cfg commandTimeoutMs idle
    let m : HandlerMap cfg.maxMessageHandlers := TableOp.meaning .empty ops
    TableContract σ κ cfg { c with toSession := TableOp.session cfg c.toSession ops } m :=
  handler_table_contract (TableOp.session_models cfg ops (construct_models cfg commandTimeoutMs idle))

end MbedMqtt
