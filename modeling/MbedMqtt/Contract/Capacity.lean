import MbedMqtt.Packet.Slots

namespace MbedMqtt

-- the caller's arrays have `maxcount` slots, and the packet holds `held` entries
structure Capacity (maxcount held : Nat) (r : Slots) : Prop where
  topicFilters : ∀ slot ∈ r.topicFilters, slot < maxcount
  qoss : ∀ slot ∈ r.qoss, slot < maxcount
  refused : maxcount < held → r.rc ≠ 1

def codesHeld (buf : Bytes) : Nat :=
  if headerType (byteAt buf 0) = SUBACK then (decodeBuf buf 1).2 - 2 else 0

-- the entry at `curdata` is a text and `extra` bytes
def nextEntry (buf : Bytes) (extra curdata : Nat) : Nat := curdata + 2 + readInt buf curdata + extra

def filtersHeld (type extra : Nat) (buf : Bytes) : Nat :=
  if headerType (byteAt buf 0) = type then
    entriesFrom (nextEntry buf extra) (1 + (decodeBuf buf 1).1 + (decodeBuf buf 1).2)
      (decodeBuf buf 1).2 (1 + (decodeBuf buf 1).1 + 2)
  else 0

theorem range'_below {n maxcount : Nat} :
    (∀ slot ∈ List.range' 0 n, slot < maxcount) ↔ n ≤ maxcount := by
  simp only [List.mem_range'_1, Nat.zero_add, Nat.zero_le, true_and]
  constructor
  · intro hall
    rcases Nat.eq_zero_or_pos n with rfl | hpos
    · exact Nat.zero_le maxcount
    · have hlast := hall (n - 1) (by omega)
      omega
  · exact fun hle slot hslot => hslot.trans_le hle

theorem capacity_iff {maxcount held : Nat} {r : Slots} (hbelow : held ≤ maxcount →
      (∀ slot ∈ r.topicFilters, slot < maxcount) ∧ ∀ slot ∈ r.qoss, slot < maxcount)
    (hfull : (∀ slot ∈ r.topicFilters, slot < maxcount) → (∀ slot ∈ r.qoss, slot < maxcount) →
      held ≤ maxcount) : Capacity maxcount held r ↔ held ≤ maxcount :=
  ⟨fun h => hfull h.topicFilters h.qoss,
    fun h => ⟨(hbelow h).1, (hbelow h).2, fun hmore => absurd hmore (by omega)⟩⟩

theorem subackLoop_slots (maxcount enddata fuel curdata count : Nat)
    (hfuel : enddata - curdata ≤ fuel) :
    (Slots.subackLoop maxcount enddata fuel curdata count).2 =
      List.range' count (min (enddata - curdata) (maxcount + 1 - count)) := by
  induction fuel generalizing curdata count with
  | zero =>
    rw [show enddata - curdata = 0 by omega, Nat.zero_min]
    rfl
  | succ fuel ih =>
    rw [Slots.subackLoop]
    split_ifs with hless hfull
    · rw [show maxcount + 1 - count = 0 by omega, Nat.min_zero]
      rfl
    · have hmin : min (enddata - curdata) (maxcount + 1 - count) =
          min (enddata - (curdata + 1)) (maxcount + 1 - (count + 1)) + 1 := by omega
      rw [hmin, List.range'_succ]
      simp only [ih (curdata + 1) (count + 1) (by omega)]
    · rw [show enddata - curdata = 0 by omega, Nat.zero_min]
      rfl

theorem deserializeSuback_capacity (maxcount : Nat) (buf : Bytes) :
    Capacity maxcount (codesHeld buf) (Slots.deserializeSuback maxcount buf) ↔
      codesHeld buf ≤ maxcount := by
  by_cases htype : headerType (byteAt buf 0) = SUBACK
  · rw [codesHeld, if_pos htype, Slots.deserializeSuback, if_neg (not_not.mpr htype)]
    simp only
    by_cases hshort : (decodeBuf buf 1).2 < 2
    · rw [if_pos hshort]
      refine capacity_iff (fun _ => ⟨?_, ?_⟩) fun _ _ => by omega
      · exact List.forall_mem_nil _
      · exact List.forall_mem_nil _
    · rw [if_neg hshort]
      have hslots := subackLoop_slots maxcount (1 + (decodeBuf buf 1).1 + (decodeBuf buf 1).2)
        (decodeBuf buf 1).2 (1 + (decodeBuf buf 1).1 + 2) 0 (by omega)
      refine capacity_iff (fun hle => ⟨List.forall_mem_nil _, ?_⟩) fun _ hqoss => ?_
      · rw [hslots, range'_below]
        omega
      · rw [hslots, range'_below] at hqoss
        omega
  · rw [codesHeld, if_neg htype, Slots.deserializeSuback, if_pos htype]
    refine capacity_iff (fun _ => ⟨?_, ?_⟩) fun _ _ => Nat.zero_le maxcount
    · exact List.forall_mem_nil _
    · exact List.forall_mem_nil _

theorem readTopicFilter_next (buf : Bytes) (enddata curdata : Nat) :
    (readTopicFilter buf enddata curdata).map Prod.snd =
      if nextEntry buf 0 curdata ≤ enddata then some (nextEntry buf 0 curdata) else none := by
  by_cases hfits : nextEntry buf 0 curdata ≤ enddata
  · have hend : curdata + 2 + readInt buf curdata ≤ enddata := hfits
    rw [if_pos hfits, readTopicFilter, readMQTTLenString,
      if_pos (show 1 < enddata - curdata by omega)]
    simp only [if_pos hend]
    rfl
  · have hend : ¬curdata + 2 + readInt buf curdata ≤ enddata := hfits
    rw [if_neg hfits, readTopicFilter, readMQTTLenString]
    simp only [if_neg hend, ite_self]
    rfl

theorem readSubscription_next (charSigned : Bool) (buf : Bytes) (enddata curdata : Nat) :
    (readSubscription charSigned buf enddata curdata).map Prod.snd =
      if nextEntry buf 1 curdata ≤ enddata then some (nextEntry buf 1 curdata) else none := by
  have hfilter := readTopicFilter_next buf enddata curdata
  rw [readTopicFilter] at hfilter
  rw [readSubscription, show nextEntry buf 1 curdata = nextEntry buf 0 curdata + 1 from rfl]
  cases hread : readMQTTLenString buf curdata enddata with
  | none =>
    rw [hread, Option.map_none] at hfilter
    have hshort : ¬nextEntry buf 0 curdata ≤ enddata := fun hfits => by
      rw [if_pos hfits] at hfilter
      cases hfilter
    rw [if_neg fun hfits => hshort (Nat.le_of_succ_le hfits)]
    rfl
  | some entry =>
    obtain ⟨topicFilter, curdata'⟩ := entry
    rw [hread, Option.map_some] at hfilter
    obtain rfl : curdata' = nextEntry buf 0 curdata := by
      split_ifs at hfilter
      exact Option.some.inj hfilter
    simp only
    by_cases hfull : enddata ≤ nextEntry buf 0 curdata
    · rw [if_pos hfull, if_neg (Nat.not_le.mpr (Nat.lt_succ_of_le hfull))]
      rfl
    · rw [if_neg hfull, if_pos (Nat.succ_le_of_lt (Nat.lt_of_not_le hfull))]
      rfl

theorem slotsWhile_capacity {α : Type} {read : Nat → Option (α × Nat)} {next : Nat → Nat}
    {enddata : Nat} (hread : ∀ curdata,
      (read curdata).map Prod.snd = if next curdata ≤ enddata then some (next curdata) else none)
    (fuel curdata maxcount : Nat) :
    ((∀ slot ∈ (slotsWhile read enddata fuel curdata 0).2.1, slot < maxcount) ↔
        entriesFrom next enddata fuel curdata ≤ maxcount) ∧
      ((∀ slot ∈ (slotsWhile read enddata fuel curdata 0).2.1, slot < maxcount) →
        ∀ slot ∈ (slotsWhile read enddata fuel curdata 0).2.2, slot < maxcount) := by
  obtain ⟨hbegun, hended⟩ := slotsWhile_entries hread fuel curdata 0
  refine ⟨?_, fun hall slot hslot => hall slot (hended hslot)⟩
  rw [hbegun, range'_below]

theorem filters_capacity_iff {α : Type} {read : Nat → Option (α × Nat)} {next : Nat → Nat}
    {enddata : Nat} (hread : ∀ curdata,
      (read curdata).map Prod.snd = if next curdata ≤ enddata then some (next curdata) else none)
    (rc : Int) (fuel curdata maxcount : Nat) {qoss : List Nat}
    (hqoss : qoss ⊆ (slotsWhile read enddata fuel curdata 0).2.2) :
    Capacity maxcount (entriesFrom next enddata fuel curdata)
        ⟨rc, (slotsWhile read enddata fuel curdata 0).2.1, qoss⟩ ↔
      entriesFrom next enddata fuel curdata ≤ maxcount := by
  obtain ⟨hbelow, hended⟩ := slotsWhile_capacity hread fuel curdata maxcount
  refine capacity_iff (fun hle => ?_) fun hfilters _ => hbelow.mp hfilters
  exact ⟨hbelow.mpr hle, fun slot hslot => hended (hbelow.mpr hle) slot (hqoss hslot)⟩

theorem empty_capacity (maxcount : Nat) (rc : Int) : Capacity maxcount 0 ⟨rc, [], []⟩ :=
  ⟨List.forall_mem_nil _, List.forall_mem_nil _, fun h => absurd h (Nat.not_lt_zero maxcount)⟩

theorem deserializeSubscribe_capacity (charSigned : Bool) (maxcount : Nat) (buf : Bytes) :
    Capacity maxcount (filtersHeld SUBSCRIBE 1 buf)
        (Slots.deserializeSubscribe charSigned maxcount buf) ↔
      filtersHeld SUBSCRIBE 1 buf ≤ maxcount := by
  rw [filtersHeld, Slots.deserializeSubscribe]
  by_cases htype : headerType (byteAt buf 0) = SUBSCRIBE
  · rw [if_pos htype, if_neg (not_not.mpr htype)]
    exact filters_capacity_iff (readSubscription_next charSigned buf _) _ _ _ _
      (List.Subset.refl _)
  · rw [if_neg htype, if_pos htype]
    exact iff_of_true (empty_capacity maxcount _) (Nat.zero_le maxcount)

theorem deserializeUnsubscribe_capacity (maxcount : Nat) (buf : Bytes) :
    Capacity maxcount (filtersHeld UNSUBSCRIBE 0 buf)
        (Slots.deserializeUnsubscribe maxcount buf) ↔
      filtersHeld UNSUBSCRIBE 0 buf ≤ maxcount := by
  rw [filtersHeld, Slots.deserializeUnsubscribe]
  by_cases htype : headerType (byteAt buf 0) = UNSUBSCRIBE
  · rw [if_pos htype, if_neg (not_not.mpr htype)]
    exact filters_capacity_iff (readTopicFilter_next buf _) _ _ _ _ (List.nil_subset _)
  · rw [if_neg htype, if_pos htype]
    exact iff_of_true (empty_capacity maxcount _) (Nat.zero_le maxcount)

theorem capacity_respected_iff (charSigned : Bool) (maxcount : Nat) (buf : Bytes) :
    (Capacity maxcount (codesHeld buf) (Slots.deserializeSuback maxcount buf) ↔
      codesHeld buf ≤ maxcount) ∧
    (Capacity maxcount (filtersHeld SUBSCRIBE 1 buf)
        (Slots.deserializeSubscribe charSigned maxcount buf) ↔
      filtersHeld SUBSCRIBE 1 buf ≤ maxcount) ∧
    (Capacity maxcount (filtersHeld UNSUBSCRIBE 0 buf)
        (Slots.deserializeUnsubscribe maxcount buf) ↔
      filtersHeld UNSUBSCRIBE 0 buf ≤ maxcount) :=
  ⟨deserializeSuback_capacity maxcount buf, deserializeSubscribe_capacity charSigned maxcount buf,
    deserializeUnsubscribe_capacity maxcount buf⟩

theorem capacity_overrun :
    (Slots.deserializeSuback 1 [144, 4, 0, 7, 0, 1] = ⟨1, [], [0, 1]⟩ ∧
      ¬Capacity 1 (codesHeld [144, 4, 0, 7, 0, 1])
        (Slots.deserializeSuback 1 [144, 4, 0, 7, 0, 1])) ∧
    (Slots.deserializeSubscribe true 0 [130, 6, 0, 7, 0, 1, 97, 0] = ⟨1, [0], [0]⟩ ∧
      ¬Capacity 0 (filtersHeld SUBSCRIBE 1 [130, 6, 0, 7, 0, 1, 97, 0])
        (Slots.deserializeSubscribe true 0 [130, 6, 0, 7, 0, 1, 97, 0])) ∧
    Slots.deserializeUnsubscribe 0 [162, 5, 0, 7, 0, 1, 97] = ⟨1, [0], []⟩ ∧
      ¬Capacity 0 (filtersHeld UNSUBSCRIBE 0 [162, 5, 0, 7, 0, 1, 97])
        (Slots.deserializeUnsubscribe 0 [162, 5, 0, 7, 0, 1, 97]) :=
  ⟨⟨by decide, fun h => absurd (h.qoss 1 (by decide)) (by decide)⟩,
    ⟨by decide, fun h => absurd (h.qoss 0 (by decide)) (by decide)⟩,
    by decide, fun h => absurd (h.topicFilters 0 (by decide)) (by decide)⟩

end MbedMqtt
