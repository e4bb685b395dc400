import MbedMqtt.ClientC.State
import MbedMqtt.Contract.TopicMatch
import MbedMqtt.SNClient.State

namespace MbedMqtt

theorem empty_leftover : Leftover List.isEmpty (fun _ => false) where
  nothing := rfl
  separator _ _ h := by cases h
  rest _ := rfl

theorem topicScan_eq_nil_iff (topicFilter name : Bytes) :
    topicScan topicFilter name = ([], []) ↔ scanEnds List.isEmpty topicFilter name = true := by
  simp [scanEnds, Prod.ext_iff, and_comm]

-- the scan stops where a first part of the filter has passed over a first part of the name
theorem topicScan_stop {topicFilter name rest left : Bytes}
    (h : topicScan topicFilter name = (rest, left)) :
    ∃ g, topicFilter = g ++ rest ∧ topicScan g name = ([], left) := by
  fun_induction topicScan topicFilter name with
  | case1 name =>
    cases h
    exact ⟨[], rfl, by rw [topicScan]⟩
  | case2 curf filter =>
    cases h
    exact ⟨[], rfl, rfl⟩
  | case3 curf filter curn name hsep =>
    cases h
    exact ⟨[], rfl, by rw [topicScan]⟩
  | case4 curf filter curn name hsep hdiffer =>
    cases h
    exact ⟨[], rfl, by rw [topicScan]⟩
  | case5 filter curn name hsep hdiffer ih =>
    obtain ⟨g, rfl, hg⟩ := ih h
    exact ⟨43 :: g, rfl, by rw [topicScan, if_neg hsep, if_neg hdiffer, if_pos rfl, hg]⟩
  | case6 filter curn name hsep hdiffer hplus ih =>
    obtain ⟨g, rfl, hg⟩ := ih h
    refine ⟨35 :: g, rfl, ?_⟩
    rw [topicScan, if_neg hsep, if_neg hdiffer, if_neg hplus, if_pos rfl, hg]
  | case7 curf filter curn name hsep hdiffer hplus hhash ih =>
    obtain ⟨g, rfl, hg⟩ := ih h
    refine ⟨curf :: g, rfl, ?_⟩
    rw [topicScan, if_neg hsep, if_neg hdiffer, if_neg hplus, if_neg hhash, hg]

theorem topicScan_append {g name left : Bytes} (h : topicScan g name = ([], left)) (rest : Bytes) :
    topicScan (g ++ rest) name = topicScan rest left := by
  fun_induction topicScan g name with
  | case1 name =>
    cases h
    rfl
  | case2 curf filter => cases h
  | case3 curf filter curn name hsep => cases h
  | case4 curf filter curn name hsep hdiffer => cases h
  | case5 filter curn name hsep hdiffer ih =>
    rw [List.cons_append, topicScan, if_neg hsep, if_neg hdiffer, if_pos rfl, ih h]
  | case6 filter curn name hsep hdiffer hplus ih =>
    rw [List.cons_append, topicScan, if_neg hsep, if_neg hdiffer, if_neg hplus, if_pos rfl, ih h]
  | case7 curf filter curn name hsep hdiffer hplus hhash ih =>
    rw [List.cons_append, topicScan, if_neg hsep, if_neg hdiffer, if_neg hplus, if_neg hhash, ih h]

-- the two scans differ where a separator, or a separator and `#`, is left of the filter
theorem scans_agree_iff (topicFilter name : Bytes) :
    scanEnds List.isEmpty topicFilter name = scanMatches topicFilter name ↔
      ∀ g, topicFilter = g ++ [47] ∨ topicFilter = g ++ [47, 35] →
        ¬scanEnds List.isEmpty g name = true := by
  rcases hscan : topicScan topicFilter name with ⟨rest, left⟩
  have hends (rest' : Bytes) (hne : rest' ≠ []) (g : Bytes) (hg : topicFilter = g ++ rest')
      (hscan' : scanEnds List.isEmpty g name = true) : rest = rest' ∧ left = [] := by
    obtain ⟨c, tail, rfl⟩ := List.exists_cons_of_ne_nil hne
    rw [hg, topicScan_append ((topicScan_eq_nil_iff g name).mpr hscan'), topicScan] at hscan
    cases hscan
    exact ⟨rfl, rfl⟩
  rw [Bool.eq_iff_iff]
  simp only [scanEnds, scanMatches, hscan, Bool.and_eq_true, decide_eq_true_eq, List.isEmpty_iff,
    skipWildcard_eq_nil]
  constructor
  · rintro hiff g (hg | hg) hscan'
    · obtain ⟨rfl, rfl⟩ := hends [47] (by decide) g hg (by simpa [scanEnds] using hscan')
      simp at hiff
    · obtain ⟨rfl, rfl⟩ := hends [47, 35] (by decide) g hg (by simpa [scanEnds] using hscan')
      simp at hiff
  · intro hnone
    constructor
    · rintro ⟨hleft, hrest⟩
      exact ⟨hleft, .inl hrest⟩
    · rintro ⟨rfl, hrest⟩
      obtain ⟨g, hfilter, hg⟩ := topicScan_stop hscan
      refine ⟨rfl, ?_⟩
      rcases hrest with rfl | rfl | rfl
      · rfl
      · exact absurd (by rw [hg]; exact ⟨rfl, rfl⟩) (hnone g (.inl hfilter))
      · exact absurd (by rw [hg]; exact ⟨rfl, rfl⟩) (hnone g (.inr hfilter))

theorem WholeLevels.front {a b : Bytes} (h : WholeLevels (a ++ 47 :: b)) :
    WholeLevels a ∧ [35] ∉ levels a := by
  obtain ⟨hsingle, hmulti, hlast⟩ := h
  have hsplit : levels (a ++ 47 :: b) = levels a ++ levels b := List.splitOn_append_cons_self a b
  rw [hsplit, List.dropLast_append_of_ne_nil (levels_ne_nil b), List.mem_append, not_or] at hlast
  rw [hsplit] at hsingle hmulti
  refine ⟨⟨?_, ?_, ?_⟩, hlast.1⟩
  · exact fun level hlevel => hsingle level (List.mem_append_left _ hlevel)
  · exact fun level hlevel => hmulti level (List.mem_append_left _ hlevel)
  · exact fun hmem => hlast.1 (List.dropLast_subset _ hmem)

theorem scanEnds_strict {a b : Bytes} (h : WholeLevels (a ++ 47 :: b)) (name : Bytes) :
    scanEnds List.isEmpty a name = true ↔
      levelsMatch (levels a) (levels name) = true ∧ ¬FacesEmpty (levels a) (levels name) := by
  rw [scanEnds_levels empty_leftover h.front.1, scannedLevels_strict h.front.2]

theorem c_isTopicMatched_eq (topicFilter : Bytes) (topicName : MQTTString) :
    MQTTClientC.isTopicMatched topicFilter topicName =
      scanEnds List.isEmpty topicFilter ((topicName.data.getD []).take topicName.len) := by
  rw [Bool.eq_iff_iff, ← topicScan_eq_nil_iff, MQTTClientC.isTopicMatched, decide_eq_true_eq]

theorem sn_isTopicMatched_eq {topicFilter : Bytes} (h : 0 ∉ topicFilter) (name : Bytes) :
    MQTTSN.isTopicMatched topicFilter name = scanEnds List.isEmpty topicFilter name := by
  have hwhole : MQTTSNGW.cStr topicFilter = topicFilter := by
    refine List.takeWhile_eq_self_iff.mpr fun c hc => ?_
    exact decide_eq_true (ne_of_mem_of_not_mem hc h)
  rw [Bool.eq_iff_iff, ← topicScan_eq_nil_iff, MQTTSN.isTopicMatched, decide_eq_true_eq, hwhole]

theorem isTopicMatched_agree_iff {topicFilter : Bytes} (hf : WholeLevels topicFilter)
    (hnul : 0 ∉ topicFilter) (topicName : MQTTString) :
    MQTTClientC.isTopicMatched topicFilter topicName = isTopicMatched topicFilter topicName ∧
        MQTTSN.isTopicMatched topicFilter ((topicName.data.getD []).take topicName.len) =
          isTopicMatched topicFilter topicName ↔
      ∀ g, topicFilter = g ++ [47] ∨ topicFilter = g ++ [47, 35] →
        levelsMatch (levels g) (levels ((topicName.data.getD []).take topicName.len)) = true →
        FacesEmpty (levels g) (levels ((topicName.data.getD []).take topicName.len)) := by
  rw [c_isTopicMatched_eq, sn_isTopicMatched_eq hnul, isTopicMatched_eq, and_self, scans_agree_iff]
  refine forall_congr' fun g => ⟨fun hnot hg hmatch => ?_, fun hfaces hg hscan => ?_⟩
  · have hstrict := hnot hg
    rcases hg with rfl | rfl
    · rw [scanEnds_strict hf] at hstrict
      exact not_not.mp fun hfaces => hstrict ⟨hmatch, hfaces⟩
    · rw [scanEnds_strict hf] at hstrict
      exact not_not.mp fun hfaces => hstrict ⟨hmatch, hfaces⟩
  · rcases hg with rfl | rfl
    · obtain ⟨hmatch, hnone⟩ := (scanEnds_strict hf _).mp hscan
      exact hnone (hfaces (.inl rfl) hmatch)
    · obtain ⟨hmatch, hnone⟩ := (scanEnds_strict hf _).mp hscan
      exact hnone (hfaces (.inr rfl) hmatch)

theorem isTopicMatched_agree_plus :
    MQTTClientC.isTopicMatched [97, 47, 43] (.ofLenString [97, 47, 98]) =
        isTopicMatched [97, 47, 43] (.ofLenString [97, 47, 98]) ∧
      MQTTSN.isTopicMatched [97, 47, 43] (((MQTTString.ofLenString [97, 47, 98]).data.getD []).take
        (MQTTString.ofLenString [97, 47, 98]).len) =
          isTopicMatched [97, 47, 43] (.ofLenString [97, 47, 98]) := by
  refine (isTopicMatched_agree_iff ⟨by decide, by decide, by decide⟩ (by decide) _).mpr ?_
  rintro g (hg | hg)
  · exact absurd (congrArg List.getLast? hg) (by simp)
  · exact absurd (congrArg List.getLast? hg) (by simp)

-- `a/#` and the name `a`
theorem isTopicMatched_disagree :
    WholeLevels [97, 47, 35] ∧
      isTopicMatched [97, 47, 35] (.ofLenString [97]) = true ∧
      MQTTClientC.isTopicMatched [97, 47, 35] (.ofLenString [97]) = false ∧
      MQTTSN.isTopicMatched [97, 47, 35] [97] = false :=
  ⟨⟨by decide, by decide, by decide⟩, by decide, by decide, by decide⟩

end MbedMqtt
