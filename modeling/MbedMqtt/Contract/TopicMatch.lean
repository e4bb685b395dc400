import MbedMqtt.Library.Levels
import MbedMqtt.Packet.Text
import MbedMqtt.Client.State

namespace MbedMqtt

def levels (topic : Bytes) : List Bytes := topic.splitOn 47

theorem levels_ne_nil (topic : Bytes) : levels topic ≠ [] := List.splitOn_ne_nil 47 topic

theorem levels_cases (topic : Bytes) :
    47 ∉ topic ∧ levels topic = [topic] ∨
      ∃ level rest, topic = level ++ 47 :: rest ∧ 47 ∉ level ∧
        levels topic = level :: levels rest :=
  Levels.split_cases 47 topic

def levelsMatch : List Bytes → List Bytes → Bool := Levels.covers [43] [35]

structure WellFormedFilter (topicFilter : Bytes) : Prop where
  nonempty : ∀ level ∈ levels topicFilter, level ≠ []
  single : ∀ level ∈ levels topicFilter, 43 ∈ level → level = [43]
  multi : ∀ level ∈ levels topicFilter, 35 ∈ level → level = [35]
  last : [35] ∉ (levels topicFilter).dropLast

structure WellFormedName (topicName : Bytes) : Prop where
  nonempty : ∀ level ∈ levels topicName, level ≠ []
  plain : 43 ∉ topicName ∧ 35 ∉ topicName

def skipWildcard : Bytes → Bytes
  | 47 :: 35 :: rest => rest
  | 47 :: rest => rest
  | rest => rest

def scanMatches (topicFilter name : Bytes) : Bool :=
  (topicScan topicFilter name).2 = [] && skipWildcard (topicScan topicFilter name).1 = []

theorem isTopicMatched_eq (topicFilter : Bytes) (topicName : MQTTString) :
    isTopicMatched topicFilter topicName =
      scanMatches topicFilter ((topicName.data.getD []).take topicName.len) := rfl

theorem skipWildcard_eq_nil (rest : Bytes) :
    skipWildcard rest = [] ↔ rest = [] ∨ rest = [47] ∨ rest = [47, 35] := by
  fun_cases skipWildcard rest <;> simp_all

-- the scan with a test of what it leaves of the filter
def scanEnds (accept : Bytes → Bool) (topicFilter name : Bytes) : Bool :=
  (topicScan topicFilter name).2 = [] && accept (topicScan topicFilter name).1

theorem scanMatches_eq (topicFilter name : Bytes) :
    scanMatches topicFilter name = scanEnds (skipWildcard · = []) topicFilter name := rfl

-- `+` passes over no empty level
def levelFits (f n : Bytes) : Bool := f = [43] && n ≠ [] || f = n

def scannedLevels (ends : List Bytes → Bool) : List Bytes → List Bytes → Bool
  | [], names => names.isEmpty
  | f :: fs, [] => ends (f :: fs)
  | f :: fs, n :: ns => if f = [35] then n ≠ [] else levelFits f n && scannedLevels ends fs ns

-- what may be left of the filter where the name ends: nothing, or a separator and `ends`
structure Leftover (accept : Bytes → Bool) (ends : List Bytes → Bool) : Prop where
  nothing : accept [] = true
  separator : ∀ c rest, accept (c :: rest) = true → c = 47
  rest : ∀ rest, accept (47 :: rest) = ends (levels rest)

theorem skipWildcard_leftover :
    Leftover (skipWildcard · = []) (fun fs => fs = [[]] || fs = [[35]]) where
  nothing := by decide
  separator c rest h := by
    rcases (skipWildcard_eq_nil _).mp (of_decide_eq_true h) with h | h | h
    · cases h
    · cases h
      rfl
    · cases h
      rfl
  rest rest := by
    have hempty : levels rest = [[]] ↔ rest = [] := Levels.splitOn_eq_singleton_iff (by decide)
    have hhash : levels rest = [[35]] ↔ rest = [35] := Levels.splitOn_eq_singleton_iff (by decide)
    simp only [skipWildcard_eq_nil, hempty, hhash]
    simp

def AtBoundary (rest : Bytes) : Prop := rest = [] ∨ ∃ tail, rest = 47 :: tail

theorem dropWhile_level {l name : Bytes} (hl : 47 ∉ l) (hname : AtBoundary name) :
    (l ++ name).dropWhile (· ≠ 47) = name := by
  rw [List.dropWhile_append_of_pos]
  · rcases hname with rfl | ⟨tail, rfl⟩
    · rfl
    · simp
  · intro b hb
    simpa using ne_of_mem_of_not_mem hb hl

section Scan

variable {accept : Bytes → Bool} {ends : List Bytes → Bool}

theorem scanEnds_nil (hends : Leftover accept ends) (name : Bytes) :
    scanEnds accept [] name = name.isEmpty := by
  cases name <;> simp [scanEnds, topicScan, hends.nothing]

theorem scanEnds_end (c : UInt8) (rest : Bytes) :
    scanEnds accept (c :: rest) [] = accept (c :: rest) := by
  simp [scanEnds, topicScan]

theorem scanEnds_same {c : UInt8} (h43 : c ≠ 43) (h35 : c ≠ 35) (rest name : Bytes) :
    scanEnds accept (c :: rest) (c :: name) = scanEnds accept rest name := by
  simp [scanEnds, topicScan, h43, h35]

theorem scanEnds_differ {c b : UInt8} (h43 : c ≠ 43) (h35 : c ≠ 35) (h : c ≠ b)
    (rest name : Bytes) : scanEnds accept (c :: rest) (b :: name) = false := by
  simp [scanEnds, topicScan, h43, h35, h]

theorem scanEnds_separator {c : UInt8} (h : c ≠ 47) (rest name : Bytes) :
    scanEnds accept (c :: rest) (47 :: name) = false := by
  simp [scanEnds, topicScan, h]

theorem scanEnds_plus {b : UInt8} (hb : b ≠ 47) (rest name : Bytes) :
    scanEnds accept (43 :: rest) (b :: name) =
      scanEnds accept rest (name.dropWhile (· ≠ 47)) := by
  simp [scanEnds, topicScan, hb]

theorem scanEnds_hash (hends : Leftover accept ends) {b : UInt8} (hb : b ≠ 47) (name : Bytes) :
    scanEnds accept [35] (b :: name) = true := by
  simp [scanEnds, topicScan, hb, hends.nothing]

theorem scanEnds_early (hends : Leftover accept ends) {c : UInt8} (hc : c ≠ 47) (rest : Bytes)
    {name : Bytes} (hname : AtBoundary name) : scanEnds accept (c :: rest) name = false := by
  rcases hname with rfl | ⟨tail, rfl⟩
  · rw [scanEnds_end]
    exact eq_false_of_ne_true (mt (hends.separator c rest) hc)
  · exact scanEnds_separator hc rest tail

theorem scanEnds_literal (hends : Leftover accept ends) {a l rest name : Bytes} (h47 : 47 ∉ a)
    (h43 : 43 ∉ a) (h35 : 35 ∉ a) (hl : 47 ∉ l) (hrest : AtBoundary rest)
    (hname : AtBoundary name) :
    scanEnds accept (a ++ rest) (l ++ name) = (decide (a = l) && scanEnds accept rest name) := by
  induction a generalizing l with
  | nil =>
    cases l with
    | nil => simp
    | cons b l =>
      have hb := List.ne_of_not_mem_cons hl
      rcases hrest with rfl | ⟨tail, rfl⟩
      · simp [scanEnds_nil hends]
      · simp [scanEnds_differ (by decide : (47 : UInt8) ≠ 43) (by decide) hb]
  | cons c a ih =>
    obtain ⟨hc47, h47⟩ := List.ne_and_not_mem_of_not_mem_cons h47
    obtain ⟨hc43, h43⟩ := List.ne_and_not_mem_of_not_mem_cons h43
    obtain ⟨hc35, h35⟩ := List.ne_and_not_mem_of_not_mem_cons h35
    cases l with
    | nil => simp [scanEnds_early hends hc47.symm (a ++ rest) hname]
    | cons b l =>
      by_cases hcb : c = b
      · subst hcb
        rw [List.cons_append, List.cons_append, scanEnds_same hc43.symm hc35.symm,
          ih h47 h43 h35 (List.not_mem_of_not_mem_cons hl)]
        simp
      · simp [scanEnds_differ hc43.symm hc35.symm hcb, hcb]

theorem scanEnds_level (hends : Leftover accept ends) {a l rest name : Bytes} (h47 : 47 ∉ a)
    (h43 : 43 ∈ a → a = [43]) (h35 : 35 ∉ a) (hl : 47 ∉ l) (hrest : AtBoundary rest)
    (hname : AtBoundary name) :
    scanEnds accept (a ++ rest) (l ++ name) = (levelFits a l && scanEnds accept rest name) := by
  by_cases ha : 43 ∈ a
  · rw [h43 ha, List.singleton_append]
    cases l with
    | nil => simp [levelFits, scanEnds_early hends (by decide : (43 : UInt8) ≠ 47) rest hname]
    | cons b l =>
      obtain ⟨hb, hl⟩ := List.ne_and_not_mem_of_not_mem_cons hl
      rw [List.cons_append, scanEnds_plus hb.symm, dropWhile_level hl hname]
      simp [levelFits]
  · have hplus : a ≠ [43] := by
      rintro rfl
      exact ha List.mem_cons_self
    rw [scanEnds_literal hends h47 ha h35 hl hrest hname]
    simp [levelFits, hplus]

end Scan

-- wildcards are whole levels, and `#` is the last
structure WholeLevels (topicFilter : Bytes) : Prop where
  single : ∀ level ∈ levels topicFilter, 43 ∈ level → level = [43]
  multi : ∀ level ∈ levels topicFilter, 35 ∈ level → level = [35]
  last : [35] ∉ (levels topicFilter).dropLast

theorem WholeLevels.rest {a b : Bytes} (h : WholeLevels (a ++ 47 :: b))
    (hsplit : levels (a ++ 47 :: b) = a :: levels b) :
    (43 ∈ a → a = [43]) ∧ 35 ∉ a ∧ WholeLevels b := by
  obtain ⟨hsingle, hmulti, hlast⟩ := h
  rw [hsplit] at hsingle hmulti hlast
  rw [List.dropLast_cons_of_ne_nil (levels_ne_nil b), List.mem_cons, not_or] at hlast
  have htail {p : Bytes → Prop} (hp : ∀ level ∈ a :: levels b, p level) :
      ∀ level ∈ levels b, p level := fun level hl => hp level (List.mem_cons_of_mem a hl)
  refine ⟨hsingle a List.mem_cons_self, ?_, htail hsingle, htail hmulti, hlast.2⟩
  intro ha
  exact hlast.1 (hmulti a List.mem_cons_self ha).symm

theorem scanEnds_many {accept : Bytes → Bool} {ends : List Bytes → Bool}
    (hends : Leftover accept ends) (n : Bytes) :
    scanEnds accept [35] n = scannedLevels ends [[35]] (levels n) := by
  rcases levels_cases n with ⟨hn, hsplit⟩ | ⟨l, r, rfl, hl, hsplit⟩
  · rw [hsplit, scannedLevels, if_pos rfl]
    cases n with
    | nil => simpa using scanEnds_early hends (by decide : (35 : UInt8) ≠ 47) [] (.inl rfl)
    | cons b n => simpa using scanEnds_hash hends (List.ne_of_not_mem_cons hn).symm n
  · rw [hsplit, scannedLevels, if_pos rfl]
    cases l with
    | nil => simpa using scanEnds_separator (by decide : (35 : UInt8) ≠ 47) [] r
    | cons b l => simpa using scanEnds_hash hends (List.ne_of_not_mem_cons hl).symm (l ++ 47 :: r)

theorem scanEnds_levels {accept : Bytes → Bool} {ends : List Bytes → Bool}
    (hends : Leftover accept ends) {f : Bytes} (hf : WholeLevels f) (n : Bytes) :
    scanEnds accept f n = scannedLevels ends (levels f) (levels n) := by
  have hnil (names : List Bytes) (h : names ≠ []) : scannedLevels ends [] names = false := by
    rw [scannedLevels, List.isEmpty_eq_false_iff.mpr h]
  induction f using Levels.split_induction (47 : UInt8) generalizing n with
  | last a h47 ha =>
    have hmem : a ∈ levels a := by rw [levels, ha]; exact List.mem_cons_self
    by_cases h35 : 35 ∈ a
    · obtain rfl := hf.multi a hmem h35
      exact scanEnds_many hends n
    · have hmany : a ≠ [35] := fun h => h35 (h ▸ List.mem_cons_self)
      rw [levels, ha]
      rcases levels_cases n with ⟨hn47, hsplit⟩ | ⟨l, r, rfl, hl, hsplit⟩
      · have hlevel := scanEnds_level hends h47 (hf.single a hmem) h35 hn47 (.inl rfl) (.inl rfl)
        rw [List.append_nil, List.append_nil, scanEnds_nil hends] at hlevel
        rw [hsplit, scannedLevels, if_neg hmany, hlevel]
        rfl
      · have hlevel := scanEnds_level hends h47 (hf.single a hmem) h35 hl (.inl rfl)
          (.inr ⟨r, rfl⟩)
        rw [List.append_nil, scanEnds_nil hends] at hlevel
        rw [hsplit, scannedLevels, if_neg hmany, hnil _ (levels_ne_nil r), hlevel]
        rfl
  | more a b h47 ha ih =>
    obtain ⟨hsingle, h35, hb⟩ := hf.rest ha
    have hmany : a ≠ [35] := fun h => h35 (h ▸ List.mem_cons_self)
    rw [show levels (a ++ 47 :: b) = a :: levels b from ha]
    rcases levels_cases n with ⟨hn47, hsplit⟩ | ⟨l, r, rfl, hl, hsplit⟩
    · obtain ⟨g, gs, hlevels⟩ := List.exists_cons_of_ne_nil (levels_ne_nil b)
      have hlevel := scanEnds_level hends h47 hsingle h35 hn47 (.inr ⟨b, rfl⟩) (.inl rfl)
      rw [List.append_nil, scanEnds_end, hends.rest] at hlevel
      rw [hsplit, scannedLevels, if_neg hmany, hlevel, hlevels, scannedLevels]
    · have hlevel := scanEnds_level hends h47 hsingle h35 hl (.inr ⟨b, rfl⟩) (.inr ⟨r, rfl⟩)
      rw [scanEnds_same (by decide) (by decide), ih hb r] at hlevel
      rw [hsplit, scannedLevels, if_neg hmany, hlevel]

-- a wildcard level opposite an empty level of the name
def FacesEmpty (filters names : List Bytes) : Prop :=
  ∃ p ∈ filters.zip names, (p.1 = [43] ∨ p.1 = [35]) ∧ p.2 = []

instance (filters names : List Bytes) : Decidable (FacesEmpty filters names) :=
  inferInstanceAs (Decidable (∃ p ∈ filters.zip names, _))

theorem facesEmpty_nil (filters : List Bytes) : ¬FacesEmpty filters [] := by
  simp [FacesEmpty]

theorem facesEmpty_cons (f n : Bytes) (fs ns : List Bytes) :
    FacesEmpty (f :: fs) (n :: ns) ↔ (f = [43] ∨ f = [35]) ∧ n = [] ∨ FacesEmpty fs ns := by
  simp [FacesEmpty]

theorem levelFits_iff {f n : Bytes} (h : f ≠ [35]) :
    levelFits f n = true ↔ (f = [43] ∨ f = n) ∧ ¬((f = [43] ∨ f = [35]) ∧ n = []) := by
  by_cases hf : f = [43]
  · subst hf
    simp only [levelFits, decide_true, Bool.true_and, Bool.or_eq_true, decide_eq_true_eq, true_or,
      true_and]
    constructor
    · rintro (hn | rfl)
      · exact hn
      · decide
    · exact fun hn => .inl hn
  · simp [levelFits, hf, h]

theorem levelsMatch_nil (names : List Bytes) : levelsMatch [] names = true ↔ names = [] := by
  cases names <;> simp [levelsMatch, Levels.covers]

theorem levelsMatch_end (f : Bytes) (fs : List Bytes) :
    levelsMatch (f :: fs) [] = true ↔ f = [35] ∧ fs = [] := Levels.covers_cons_nil [43] [35]

theorem levelsMatch_cons {f : Bytes} (h : f ≠ [35]) (n : Bytes) (fs ns : List Bytes) :
    levelsMatch (f :: fs) (n :: ns) = true ↔ (f = [43] ∨ f = n) ∧ levelsMatch fs ns = true := by
  rw [levelsMatch, Levels.covers_cons_cons [43] [35] n fun hmany => h hmany.1]
  simp

theorem scannedLevels_cons {ends : List Bytes → Bool} {f : Bytes} (h : f ≠ [35]) (n : Bytes)
    (fs ns : List Bytes) :
    scannedLevels ends (f :: fs) (n :: ns) = true ↔
      levelFits f n = true ∧ scannedLevels ends fs ns = true := by
  rw [scannedLevels, if_neg h, Bool.and_eq_true]

theorem scannedLevels_strict {fs : List Bytes} (h : [35] ∉ fs) (ns : List Bytes) :
    scannedLevels (fun _ => false) fs ns = true ↔
      levelsMatch fs ns = true ∧ ¬FacesEmpty fs ns := by
  induction fs generalizing ns with
  | nil => simp [scannedLevels, levelsMatch_nil, FacesEmpty]
  | cons f fs ih =>
    obtain ⟨hf, hfs⟩ := List.ne_and_not_mem_of_not_mem_cons h
    cases ns with
    | nil => simp [scannedLevels, levelsMatch_end, hf.symm]
    | cons n ns =>
      rw [scannedLevels_cons hf.symm, levelFits_iff hf.symm, ih hfs, levelsMatch_cons hf.symm,
        facesEmpty_cons, not_or]
      tauto

-- the filter is one that matches and a separator behind it
def SlashBehind (fs ns : List Bytes) : Prop :=
  fs.getLast? = some [] ∧ levelsMatch fs.dropLast ns = true

instance (fs ns : List Bytes) : Decidable (SlashBehind fs ns) :=
  inferInstanceAs (Decidable (_ ∧ _))

theorem slashBehind_cons {f : Bytes} (h : f ≠ [35]) (n : Bytes) (fs ns : List Bytes) :
    SlashBehind (f :: fs) (n :: ns) ↔ (f = [43] ∨ f = n) ∧ SlashBehind fs ns := by
  cases fs with
  | nil => simp [SlashBehind, levelsMatch_nil]
  | cons g fs =>
    rw [SlashBehind, SlashBehind, List.getLast?_cons_cons, List.dropLast_cons_cons,
      levelsMatch_cons h]
    tauto

theorem slashBehind_end {f : Bytes} {fs : List Bytes} (h : [35] ∉ (f :: fs).dropLast) :
    SlashBehind (f :: fs) [] ↔ f = [] ∧ fs = [] := by
  cases fs with
  | nil => simp [SlashBehind, levelsMatch_nil]
  | cons g fs =>
    rw [List.dropLast_cons_cons, List.mem_cons, not_or] at h
    simp [SlashBehind, levelsMatch_end, show f ≠ [35] from fun hf => h.1 hf.symm]

theorem SlashBehind.not_levelsMatch {fs ns : List Bytes} (h : SlashBehind fs ns)
    (hlast : [35] ∉ fs.dropLast) : ¬levelsMatch fs ns = true := by
  induction fs generalizing ns with
  | nil => cases h.1
  | cons f fs ih =>
    cases ns with
    | nil =>
      obtain ⟨rfl, rfl⟩ := (slashBehind_end hlast).mp h
      decide
    | cons n ns =>
      cases fs with
      | nil =>
        have hempty : n :: ns = [] := (levelsMatch_nil _).mp h.2
        cases hempty
      | cons g fs =>
        rw [List.dropLast_cons_cons, List.mem_cons, not_or] at hlast
        have hf : f ≠ [35] := fun hf => hlast.1 hf.symm
        rw [levelsMatch_cons hf]
        exact fun hmatch => ih ((slashBehind_cons hf n _ _).mp h).2 hlast.2 hmatch.2

theorem scannedLevels_skipWildcard {fs : List Bytes} (h : [35] ∉ fs.dropLast) (ns : List Bytes) :
    scannedLevels (fun fs => fs = [[]] || fs = [[35]]) fs ns = true ↔
      (levelsMatch fs ns = true ∨ SlashBehind fs ns) ∧ ¬FacesEmpty fs ns := by
  induction fs generalizing ns with
  | nil => simp [scannedLevels, levelsMatch_nil, SlashBehind, FacesEmpty]
  | cons f fs ih =>
    cases ns with
    | nil =>
      rw [levelsMatch_end, slashBehind_end h]
      simp [scannedLevels, facesEmpty_nil, or_comm]
    | cons n ns =>
      by_cases hf : f = [35]
      · subst hf
        obtain rfl : fs = [] := by
          cases fs with
          | nil => rfl
          | cons g fs => exact absurd List.mem_cons_self h
        simp [scannedLevels, levelsMatch, Levels.covers_many, FacesEmpty]
      · have hfs : [35] ∉ fs.dropLast := by
          cases fs with
          | nil => exact List.not_mem_nil
          | cons g fs => exact List.not_mem_of_not_mem_cons h
        rw [scannedLevels_cons hf, levelFits_iff hf, ih hfs, levelsMatch_cons hf,
          slashBehind_cons hf, facesEmpty_cons, not_or]
        tauto

theorem scanMatches_iff {topicFilter : Bytes} (hf : WholeLevels topicFilter) (name : Bytes) :
    scanMatches topicFilter name = true ↔
      (levelsMatch (levels topicFilter) (levels name) = true ∨
        SlashBehind (levels topicFilter) (levels name)) ∧
      ¬FacesEmpty (levels topicFilter) (levels name) := by
  rw [scanMatches_eq, scanEnds_levels skipWildcard_leftover hf, scannedLevels_skipWildcard hf.last]

theorem WellFormedFilter.wholeLevels {f : Bytes} (h : WellFormedFilter f) : WholeLevels f :=
  ⟨h.single, h.multi, h.last⟩

theorem WellFormedFilter.not_slashBehind {f : Bytes} (h : WellFormedFilter f) (ns : List Bytes) :
    ¬SlashBehind (levels f) ns :=
  fun hslash => h.nonempty [] (List.mem_of_getLast? hslash.1) rfl

theorem WellFormedName.not_facesEmpty {n : Bytes} (h : WellFormedName n) (fs : List Bytes) :
    ¬FacesEmpty fs (levels n) := by
  rintro ⟨p, hp, -, hempty⟩
  exact h.nonempty p.2 (List.of_mem_zip hp).2 hempty

theorem isTopicMatched_iff_levels {topicFilter : Bytes} {topicName : MQTTString}
    (hf : WellFormedFilter topicFilter)
    (hn : WellFormedName ((topicName.data.getD []).take topicName.len)) :
    isTopicMatched topicFilter topicName = true ↔
      levelsMatch (levels topicFilter) (levels ((topicName.data.getD []).take topicName.len)) =
        true := by
  rw [isTopicMatched_eq, scanMatches_iff hf.wholeLevels]
  constructor
  · rintro ⟨hmatch | hslash, -⟩
    · exact hmatch
    · exact absurd hslash (hf.not_slashBehind _)
  · exact fun hmatch => ⟨.inl hmatch, hn.not_facesEmpty _⟩

theorem isTopicMatched_plus_hash :
    isTopicMatched [97, 47, 43, 47, 35] (.ofLenString [97, 47, 98]) = true :=
  (isTopicMatched_iff_levels ⟨by decide, by decide, by decide, by decide⟩
    ⟨by decide, by decide⟩).mpr (by decide)

theorem isTopicMatched_eq_levels_iff {topicFilter : Bytes} (hf : WholeLevels topicFilter)
    (topicName : MQTTString) :
    isTopicMatched topicFilter topicName =
        levelsMatch (levels topicFilter)
          (levels ((topicName.data.getD []).take topicName.len)) ↔
      (levelsMatch (levels topicFilter)
          (levels ((topicName.data.getD []).take topicName.len)) = true →
        ¬FacesEmpty (levels topicFilter)
          (levels ((topicName.data.getD []).take topicName.len))) ∧
      (SlashBehind (levels topicFilter) (levels ((topicName.data.getD []).take topicName.len)) →
        FacesEmpty (levels topicFilter)
          (levels ((topicName.data.getD []).take topicName.len))) := by
  generalize hname : (topicName.data.getD []).take topicName.len = name
  have hnot (hslash : SlashBehind (levels topicFilter) (levels name)) :=
    hslash.not_levelsMatch hf.last
  rw [isTopicMatched_eq, hname, Bool.eq_iff_iff, scanMatches_iff hf]
  tauto

theorem isTopicMatched_doubled_separator :
    isTopicMatched [97, 47, 47, 43] (.ofLenString [97, 47, 47, 98]) =
      levelsMatch (levels [97, 47, 47, 43])
        (levels (((MQTTString.ofLenString [97, 47, 47, 98]).data.getD []).take 4)) :=
  (isTopicMatched_eq_levels_iff ⟨by decide, by decide, by decide⟩ _).mpr ⟨by decide, by decide⟩

-- the plus stands opposite the empty level, and the last separator is skipped
theorem isTopicMatched_empty_level :
    (WholeLevels [97, 47, 43, 47, 98] ∧
      isTopicMatched [97, 47, 43, 47, 98] (.ofLenString [97, 47, 47, 98]) = false ∧
      levelsMatch (levels [97, 47, 43, 47, 98]) (levels [97, 47, 47, 98]) = true) ∧
    WholeLevels [97, 47] ∧
      isTopicMatched [97, 47] (.ofLenString [97]) = true ∧
      levelsMatch (levels [97, 47]) (levels [97]) = false :=
  ⟨⟨⟨by decide, by decide, by decide⟩, by decide, by decide⟩, ⟨by decide, by decide, by decide⟩,
    by decide, by decide⟩

end MbedMqtt
