import MbedMqtt.Contract.TopicMatch
import MbedMqtt.Gateway.Topic

namespace MbedMqtt.MQTTSNGW

theorem find_cases (s : Bytes) (pos : Nat) :
    find s slash pos = none ∧ levels (s.drop pos) = [s.drop pos] ∨
      ∃ loc, find s slash pos = some loc ∧ pos ≤ loc ∧ loc < s.length ∧
        levels (s.drop pos) = substr s pos (loc - pos) :: levels (s.drop (loc + 1)) := by
  cases hfind : (s.drop pos).findIdx? (· = slash) with
  | none =>
    have hnot : 47 ∉ s.drop pos := fun hmem =>
      absurd (List.findIdx?_eq_none_iff.mp hfind 47 hmem) (by decide)
    exact .inl ⟨by rw [find, hfind, Option.map_none], List.splitOn_eq_singleton hnot⟩
  | some k =>
    obtain ⟨hk, hslash, hbefore⟩ := List.findIdx?_eq_some_iff_getElem.mp hfind
    have hget : (s.drop pos)[k] = 47 := of_decide_eq_true hslash
    have hdrop : s.drop pos = (s.drop pos).take k ++ 47 :: s.drop (pos + k + 1) := by
      rw [← hget, Nat.add_assoc, ← List.drop_drop, List.getElem_cons_drop, List.take_append_drop]
    have hnot : 47 ∉ (s.drop pos).take k := by
      intro hmem
      obtain ⟨i, hi, hi47⟩ := List.mem_take_iff_getElem.mp hmem
      exact hbefore i (by omega) (decide_eq_true hi47)
    rw [List.length_drop] at hk
    refine .inr ⟨pos + k, by rw [find, hfind, Option.map_some], by omega, by omega, ?_⟩
    rw [substr, Nat.add_sub_cancel_left]
    conv_lhs => rw [hdrop]
    exact List.splitOn_append_cons_self_of_not_mem hnot _

section Round

variable {filter topicName : Bytes} {tpos pos loc tloc : Nat}

theorem isMatchRound_both (h : find topicName slash pos = some loc)
    (ht : find filter slash tpos = some tloc) (htloc : tloc < filter.length) :
    isMatchRound filter topicName tpos pos =
      if substr filter tpos (tloc - tpos) = wildcard then .inl true
      else if substr filter tpos (tloc - tpos) = wildcards ∨
          substr filter tpos (tloc - tpos) = substr topicName pos (loc - pos) then
        .inr (tloc + 1, loc + 1)
      else .inl false := by
  have hroom : ¬filter.length < tloc + 1 := by omega
  simp only [isMatchRound, h, ht, if_neg hroom]
  by_cases hmany : substr filter tpos (tloc - tpos) = wildcard
  · rw [if_pos hmany, if_pos hmany]
  rw [if_neg hmany, if_neg hmany]
  by_cases hone : substr filter tpos (tloc - tpos) = wildcards
  · rw [if_pos hone, if_pos (.inl hone)]
  · by_cases hsame : substr topicName pos (loc - pos) = substr filter tpos (tloc - tpos)
    · rw [if_neg hone, if_neg (not_not.mpr hsame), if_pos (.inr hsame.symm)]
    · rw [if_neg hone, if_pos hsame, if_neg (not_or.mpr ⟨hone, fun h => hsame h.symm⟩)]

theorem isMatchRound_last (h : find topicName slash pos = none)
    (ht : find filter slash tpos = none) :
    isMatchRound filter topicName tpos pos =
      .inl (filter.drop tpos = wildcard ∨ filter.drop tpos = wildcards ∨
        filter.drop tpos = topicName.drop pos) := by
  simp only [isMatchRound, h, ht, ← or_assoc]
  by_cases hwild : filter.drop tpos = wildcard ∨ filter.drop tpos = wildcards
  · rw [if_pos hwild]
    exact congrArg Sum.inl (decide_eq_true (.inl hwild)).symm
  · rw [if_neg hwild]
    refine congrArg Sum.inl (decide_eq_decide.mpr ⟨fun h => .inr h.symm, fun h => ?_⟩)
    exact (h.resolve_left hwild).symm

theorem isMatchRound_lastLevel (h : find topicName slash pos = none)
    (ht : find filter slash tpos = some tloc) :
    isMatchRound filter topicName tpos pos =
      .inl (substr filter tpos (tloc - tpos) = topicName.drop pos ∧
        filter.drop (tloc + 1) = wildcard) := by
  simp only [isMatchRound, h, ht]
  by_cases hsame : topicName.drop pos = substr filter tpos (tloc - tpos)
  · rw [if_neg (not_not.mpr hsame)]
    exact congrArg Sum.inl (decide_eq_decide.mpr (and_iff_right hsame.symm).symm)
  · rw [if_pos hsame]
    exact congrArg Sum.inl (decide_eq_false fun hboth => hsame hboth.1.symm).symm

theorem isMatchRound_moreLevels (h : find topicName slash pos = some loc)
    (ht : find filter slash tpos = none) :
    isMatchRound filter topicName tpos pos = .inl (filter.drop tpos = wildcard) := by
  simp only [isMatchRound, h, ht]

end Round

-- the loop comes to an end with this result, without a bound on its rounds
inductive Returns (filter topicName : Bytes) : Nat → Nat → Bool → Prop where
  | result {tpos pos : Nat} {b : Bool} (h : isMatchRound filter topicName tpos pos = .inl b) :
      Returns filter topicName tpos pos b
  | round {tpos pos tpos' pos' : Nat} {b : Bool}
      (h : isMatchRound filter topicName tpos pos = .inr (tpos', pos'))
      (hrest : Returns filter topicName tpos' pos' b) : Returns filter topicName tpos pos b

theorem isMatchRound_forward {filter topicName : Bytes} {tpos pos tpos' pos' : Nat}
    (h : isMatchRound filter topicName tpos pos = .inr (tpos', pos')) :
    pos < pos' ∧ pos' ≤ topicName.length := by
  rcases find_cases topicName pos with ⟨hfind, -⟩ | ⟨loc, hfind, hpos, hloc, -⟩
  · rcases find_cases filter tpos with ⟨htfind, -⟩ | ⟨tloc, htfind, -⟩
    · cases (isMatchRound_last hfind htfind).symm.trans h
    · cases (isMatchRound_lastLevel hfind htfind).symm.trans h
  · rcases find_cases filter tpos with ⟨htfind, -⟩ | ⟨tloc, htfind, -, htloc, -⟩
    · cases (isMatchRound_moreLevels hfind htfind).symm.trans h
    · rw [isMatchRound_both hfind htfind htloc] at h
      split_ifs at h
      cases h
      exact ⟨Nat.lt_succ_of_le hpos, hloc⟩

theorem Returns.loop {filter topicName : Bytes} {tpos pos : Nat} {b : Bool}
    (h : Returns filter topicName tpos pos b) {fuel : Nat} (hfuel : topicName.length - pos < fuel) :
    isMatchLoop filter topicName fuel tpos pos = b := by
  induction h generalizing fuel with
  | result h =>
    obtain ⟨fuel, rfl⟩ : ∃ k, fuel = k + 1 := ⟨fuel - 1, by omega⟩
    rw [isMatchLoop_round, h]
  | round h _ ih =>
    obtain ⟨fuel, rfl⟩ : ∃ k, fuel = k + 1 := ⟨fuel - 1, by omega⟩
    have hforward := isMatchRound_forward h
    rw [isMatchLoop_round, h]
    exact ih (by omega)

-- the filter ends with `+/#`, and the name with the level opposite that plus
def EndsAtPlus (fs ns : List Bytes) : Prop :=
  ∃ gs ms n, fs = gs ++ [[43], [35]] ∧ ns = ms ++ [n] ∧ n ≠ [43] ∧ levelsMatch gs ms = true

theorem not_endsAtPlus_single (f : Bytes) (ns : List Bytes) : ¬EndsAtPlus [f] ns := by
  rintro ⟨gs, ms, n, hgs, -⟩
  have hlength := congrArg List.length hgs
  rw [List.length_append] at hlength
  simp at hlength

theorem endsAtPlus_last {f : Bytes} (hf : f ≠ [35]) (fs : List Bytes) (n : Bytes) :
    EndsAtPlus (f :: fs) [n] ↔ f = [43] ∧ fs = [[35]] ∧ n ≠ [43] := by
  constructor
  · rintro ⟨gs, ms, n', hgs, hms, hn, hmatch⟩
    obtain ⟨rfl, rfl⟩ : ms = [] ∧ n' = n := by
      cases ms with
      | nil => exact ⟨rfl, (List.cons.inj hms).1.symm⟩
      | cons m ms => simp at hms
    cases gs with
    | nil =>
      cases hgs
      exact ⟨rfl, rfl, hn⟩
    | cons g gs =>
      rw [levelsMatch_end] at hmatch
      exact absurd ((List.cons.inj hgs).1.trans hmatch.1) hf
  · rintro ⟨rfl, rfl, hn⟩
    exact ⟨[], [], n, rfl, rfl, hn, by decide⟩

theorem endsAtPlus_cons {f : Bytes} (hf : f ≠ [35]) (n : Bytes) {fs ns : List Bytes}
    (hns : ns ≠ []) :
    EndsAtPlus (f :: fs) (n :: ns) ↔ (f = [43] ∨ f = n) ∧ EndsAtPlus fs ns := by
  constructor
  · rintro ⟨gs, ms, n', hgs, hms, hn, hmatch⟩
    obtain ⟨m, ms, rfl⟩ : ∃ m ms', ms = m :: ms' := by
      cases ms with
      | nil => exact absurd (List.cons.inj hms).2 hns
      | cons m ms => exact ⟨m, ms, rfl⟩
    obtain ⟨rfl, rfl⟩ := List.cons.inj hms
    cases gs with
    | nil => cases (levelsMatch_nil _).mp hmatch
    | cons g gs =>
      obtain ⟨rfl, rfl⟩ := List.cons.inj hgs
      rw [levelsMatch_cons hf] at hmatch
      exact ⟨hmatch.1, gs, ms, n', rfl, rfl, hn, hmatch.2⟩
  · rintro ⟨hfits, gs, ms, n', rfl, rfl, hn, hmatch⟩
    exact ⟨f :: gs, n :: ms, n', rfl, rfl, hn, (levelsMatch_cons hf n gs ms).mpr ⟨hfits, hmatch⟩⟩

section Levels

variable {f n : Bytes} {fs ns : List Bytes}

theorem last_iff :
    f = [35] ∨ f = [43] ∨ f = n ↔ levelsMatch [f] [n] = true ∧ ¬EndsAtPlus [f] [n] := by
  rw [and_iff_left (not_endsAtPlus_single f [n])]
  by_cases hmany : f = [35]
  · simp [hmany, levelsMatch, Levels.covers_many]
  · rw [levelsMatch_cons hmany, or_iff_right hmany, levelsMatch_nil]
    simp

theorem moreLevels_iff (hns : ns ≠ []) :
    f = [35] ↔ levelsMatch [f] (n :: ns) = true ∧ ¬EndsAtPlus [f] (n :: ns) := by
  rw [and_iff_left (not_endsAtPlus_single f (n :: ns))]
  by_cases hmany : f = [35]
  · simp [hmany, levelsMatch, Levels.covers_many]
  · rw [levelsMatch_cons hmany, levelsMatch_nil]
    simp [hmany, hns]

theorem lastLevel_iff (hf : f ≠ [35]) (hfs : fs ≠ []) :
    f = n ∧ fs = [[35]] ↔ levelsMatch (f :: fs) [n] = true ∧ ¬EndsAtPlus (f :: fs) [n] := by
  obtain ⟨g, gs, rfl⟩ := List.exists_cons_of_ne_nil hfs
  rw [levelsMatch_cons hf, levelsMatch_end, endsAtPlus_last hf, List.cons.injEq]
  by_cases hone : f = [43]
  · subst hone
    tauto
  · simp only [hone]
    tauto

end Levels

-- the round on the levels that are left from `tpos` and `pos` on
theorem returns_levels (filter topicName : Bytes) (tpos pos : Nat)
    (hlast : [35] ∉ (levels (filter.drop tpos)).dropLast) :
    ∃ b, Returns filter topicName tpos pos b ∧
      (b = true ↔ levelsMatch (levels (filter.drop tpos)) (levels (topicName.drop pos)) = true ∧
        ¬EndsAtPlus (levels (filter.drop tpos)) (levels (topicName.drop pos))) := by
  induction hn : topicName.length - pos using Nat.strongRecOn generalizing tpos pos with
  | ind n ih =>
    rcases find_cases topicName pos with ⟨hfind, hname⟩ | ⟨loc, hfind, hpos, hloc, hname⟩
    · rcases find_cases filter tpos with ⟨htfind, hfilter⟩ | ⟨tloc, htfind, -, -, hfilter⟩
      · refine ⟨_, .result (isMatchRound_last hfind htfind), ?_⟩
        rw [hname, hfilter, ← last_iff]
        exact decide_eq_true_iff
      · refine ⟨_, .result (isMatchRound_lastLevel hfind htfind), ?_⟩
        have hhash : levels (filter.drop (tloc + 1)) = [[35]] ↔ filter.drop (tloc + 1) = [35] :=
          Levels.splitOn_eq_singleton_iff (by decide)
        rw [hfilter, List.dropLast_cons_of_ne_nil (levels_ne_nil _), List.mem_cons, not_or]
          at hlast
        rw [hname, hfilter, ← lastLevel_iff (fun h => hlast.1 h.symm) (levels_ne_nil _), hhash]
        exact decide_eq_true_iff
    · rcases find_cases filter tpos with ⟨htfind, hfilter⟩ | ⟨tloc, htfind, -, htloc, hfilter⟩
      · refine ⟨_, .result (isMatchRound_moreLevels hfind htfind), ?_⟩
        rw [hname, hfilter, ← moreLevels_iff (levels_ne_nil _)]
        exact decide_eq_true_iff
      · rw [hfilter, List.dropLast_cons_of_ne_nil (levels_ne_nil _), List.mem_cons, not_or]
          at hlast
        have hmany : substr filter tpos (tloc - tpos) ≠ [35] := fun h => hlast.1 h.symm
        have hround := (isMatchRound_both hfind htfind htloc).trans (if_neg hmany)
        rw [hname, hfilter, levelsMatch_cons hmany, endsAtPlus_cons hmany _ (levels_ne_nil _)]
        by_cases hfits : substr filter tpos (tloc - tpos) = [43] ∨
            substr filter tpos (tloc - tpos) = substr topicName pos (loc - pos)
        · obtain ⟨b, hreturns, hb⟩ :=
            ih (topicName.length - (loc + 1)) (by omega) (tloc + 1) (loc + 1) hlast.2 rfl
          refine ⟨b, .round (hround.trans (if_pos hfits)) hreturns, ?_⟩
          rw [hb, and_iff_right hfits, and_iff_right hfits]
        · exact ⟨false, .result (hround.trans (if_neg hfits)), by simp [hfits]⟩

theorem Topic.isMatch_returns (topic : Topic) (hf : WholeLevels topic.topicName.bytes)
    (topicName : TopicName) :
    Returns topic.topicName.bytes topicName.bytes 0 0 (topic.isMatch topicName) ∧
      (topic.isMatch topicName = true ↔
        levelsMatch (levels topic.topicName.bytes) (levels topicName.bytes) = true ∧
          ¬EndsAtPlus (levels topic.topicName.bytes) (levels topicName.bytes)) := by
  obtain ⟨b, hreturns, hb⟩ := returns_levels _ topicName.bytes 0 0 hf.last
  have hloop : topic.isMatch topicName = b := hreturns.loop (by omega)
  exact hloop ▸ ⟨hreturns, hb⟩

theorem levelsMatch_of_endsAtPlus {fs ns : List Bytes} (h : EndsAtPlus fs ns)
    (hlast : [35] ∉ fs.dropLast) : levelsMatch fs ns = true := by
  induction fs generalizing ns with
  | nil =>
    obtain ⟨gs, ms, n, hgs, -⟩ := h
    simp at hgs
  | cons f fs ih =>
    have hfs : fs ≠ [] := by
      rintro rfl
      exact not_endsAtPlus_single f ns h
    rw [List.dropLast_cons_of_ne_nil hfs, List.mem_cons, not_or] at hlast
    have hf : f ≠ [35] := fun hf => hlast.1 hf.symm
    cases ns with
    | nil =>
      obtain ⟨gs, ms, n, -, hms, -⟩ := h
      simp at hms
    | cons n ns =>
      cases ns with
      | nil =>
        obtain ⟨rfl, rfl, -⟩ := (endsAtPlus_last hf fs n).mp h
        rfl
      | cons n' ns =>
        obtain ⟨hfits, hrest⟩ := (endsAtPlus_cons hf n (List.cons_ne_nil n' ns)).mp h
        exact (levelsMatch_cons hf n fs _).mpr ⟨hfits, ih hrest hlast.2⟩

theorem Topic.isMatch_eq_levels_iff (topic : Topic) (hf : WholeLevels topic.topicName.bytes)
    (topicName : TopicName) :
    Returns topic.topicName.bytes topicName.bytes 0 0 (topic.isMatch topicName) ∧
      ((topic.isMatch topicName = true ↔
        levelsMatch (levels topic.topicName.bytes) (levels topicName.bytes) = true) ↔
          ¬EndsAtPlus (levels topic.topicName.bytes) (levels topicName.bytes)) := by
  obtain ⟨hreturns, hmatch⟩ := topic.isMatch_returns hf topicName
  have hdiffer (h : EndsAtPlus (levels topic.topicName.bytes) (levels topicName.bytes)) :=
    levelsMatch_of_endsAtPlus h hf.last
  refine ⟨hreturns, ?_⟩
  rw [hmatch]
  tauto

def normalTopic (bytes : Bytes) (h : bytes.length < 65536) (hnul : cStr bytes = bytes) : Topic :=
  ⟨.normal, 1, ⟨bytes, h⟩, by rw [TopicName.cString, TopicName.mk.injEq, hnul]⟩

-- `a/+` and the name `a/`, whose last level is empty
theorem Topic.isMatch_empty_level :
    let topic := normalTopic [97, 47, 43] (by decide) (by decide)
    Returns topic.topicName.bytes [97, 47] 0 0 (topic.isMatch ⟨[97, 47], by decide⟩) ∧
      ((topic.isMatch ⟨[97, 47], by decide⟩ = true ↔
        levelsMatch (levels topic.topicName.bytes) (levels [97, 47]) = true) ↔
          ¬EndsAtPlus (levels topic.topicName.bytes) (levels [97, 47])) :=
  Topic.isMatch_eq_levels_iff (normalTopic [97, 47, 43] (by decide) (by decide))
    ⟨by decide, by decide, by decide⟩ ⟨[97, 47], by decide⟩

-- `a/+/#` and the name `a/b`
theorem Topic.isMatch_plus_hash :
    let topic := normalTopic [97, 47, 43, 47, 35] (by decide) (by decide)
    WholeLevels topic.topicName.bytes ∧
      topic.isMatch ⟨[97, 47, 98], by decide⟩ = false ∧
      levelsMatch (levels topic.topicName.bytes) (levels [97, 47, 98]) = true :=
  ⟨⟨by decide, by decide, by decide⟩, by decide, by decide⟩

end MbedMqtt.MQTTSNGW
