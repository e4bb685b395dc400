import Mathlib.Data.List.Dedup
import Mathlib.Data.List.Perm.Subperm
import MbedMqtt.Contract.PredefinedFile

namespace MbedMqtt.MQTTSNGW

namespace TopicTable

def names (table : TopicTable) : List Bytes := table.entries.map TopicEntry.topicName

def pairs (table : TopicTable) : List (Bytes × UInt16) :=
  table.entries.map fun entry => (entry.topicName, entry.topicId)

structure Listing (table : TopicTable) : Prop where
  distinct : table.names.Nodup
  counted : table.cnt = UInt8.ofNat table.entries.length
  few : table.entries.length ≤ MAX_TOPIC_PAR_CLIENT.toNat
  next : table.nextTopicId ≠ 0xffff
  ids : ∀ entry ∈ table.entries, entry.topicId ≠ 0

variable {table : TopicTable} {name : Bytes} {id : UInt16} {pair : Bytes × UInt16}

theorem listing_initial : initial.Listing where
  distinct := List.nodup_nil
  counted := rfl
  few := Nat.zero_le _
  next := by decide
  ids := nofun

theorem known_iff : table.known name = true ↔ name ∈ table.names := by
  simp only [known, names, List.any_eq_true, decide_eq_true_eq, List.mem_map]

theorem Listing.full_iff (h : table.Listing) :
    MAX_TOPIC_PAR_CLIENT ≤ table.cnt ↔ MAX_TOPIC_PAR_CLIENT.toNat ≤ table.entries.length := by
  have hsmall : table.entries.length < 2 ^ 8 := Nat.lt_of_le_of_lt h.few (by decide)
  rw [h.counted, UInt8.le_iff_toNat_le, UInt8.toNat_ofNat_of_lt' hsmall]

theorem getNextTopicId_kept {next : UInt16} (h : next ≠ 0xffff) :
    Topics.getNextTopicId next ≠ 0 ∧ Topics.getNextTopicId next ≠ 0xffff := by
  have hsucc : next + 1 ≠ 0 := by
    rintro hzero
    exact h (by rw [← UInt16.add_sub_cancel (a := next) (b := 1), hzero]; rfl)
  rw [Topics.getNextTopicId]
  split_ifs with hlast
  · rw [hlast]
    decide
  · exact ⟨hsucc, hlast⟩

theorem names_push (name : Bytes) (id : UInt16) : (table.push name id).names = table.names ++ [name] := by
  rw [names, push, List.map_append, TopicChain.newEntry]
  split_ifs
  · rfl
  · rfl

theorem pairs_push (hid : id ≠ 0) (name : Bytes) :
    (table.push name id).pairs = table.pairs ++ [(name, id)] := by
  rw [pairs, push, List.map_append, TopicChain.newEntry, if_neg hid]
  rfl

theorem Listing.push (h : table.Listing) (hnew : name ∉ table.names)
    (hroom : table.entries.length < MAX_TOPIC_PAR_CLIENT.toNat) (id : UInt16) :
    (table.push name id).Listing where
  distinct := by
    rw [names_push, List.nodup_append_comm]
    exact List.nodup_cons.mpr ⟨hnew, h.distinct⟩
  counted := by
    simp only [TopicTable.push, h.counted, List.length_append, List.length_singleton,
      UInt8.ofNat_add]
    rfl
  few := by
    simp only [TopicTable.push, List.length_append, List.length_singleton]
    exact hroom
  next := by
    rw [TopicTable.push, TopicChain.newEntry]
    split_ifs
    · exact (getNextTopicId_kept h.next).2
    · exact h.next
  ids := by
    intro entry hentry
    rcases List.mem_append.mp hentry with hold | hfresh
    · exact h.ids entry hold
    · obtain rfl := List.mem_singleton.mp hfresh
      rw [TopicChain.newEntry]
      split_ifs with hid
      · exact (getNextTopicId_kept h.next).1
      · exact hid

theorem addName_eq (h : table.Listing) (name : Bytes) (id : UInt16) :
    table.addName name id =
      if MAX_TOPIC_PAR_CLIENT.toNat ≤ table.entries.length ∨ cStr name ∈ table.names then table
      else table.push (cStr name) id := by
  exact if_congr (or_congr h.full_iff known_iff) rfl rfl

theorem Listing.addName (h : table.Listing) (name : Bytes) (id : UInt16) :
    (table.addName name id).Listing := by
  rw [addName_eq h]
  split_ifs with hsame
  · exact h
  · rw [not_or, not_le] at hsame
    exact h.push hsame.2 hsame.1 id

theorem names_addName {other : Bytes} (h : other ∈ (table.addName name id).names) :
    other ∈ table.names ∨ other = cStr name := by
  rw [addName] at h
  split_ifs at h
  · exact .inl h
  · rw [names_push, List.mem_append, List.mem_singleton] at h
    exact h

theorem Listing.mem_pairs_addName (h : table.Listing) (hid : id ≠ 0) (hname : 0 ∉ name)
    (hroom : name ∈ table.names ∨ table.entries.length < MAX_TOPIC_PAR_CLIENT.toNat) :
    pair ∈ (table.addName name id).pairs ↔
      pair ∈ table.pairs ∨ name ∉ table.names ∧ pair = (name, id) := by
  rw [addName_eq h, cStr_eq hname]
  rcases Decidable.em (name ∈ table.names) with hknown | hnew
  · rw [if_pos (.inr hknown)]
    simp [hknown]
  · have hfew := hroom.resolve_left hnew
    rw [if_neg (not_or.mpr ⟨Nat.not_le.mpr hfew, hnew⟩), pairs_push hid, List.mem_append,
      List.mem_singleton]
    simp [hnew]

theorem mem_names_of_pairs (h : pair ∈ table.pairs) : pair.1 ∈ table.names := by
  obtain ⟨entry, hentry, rfl⟩ := List.mem_map.mp h
  exact List.mem_map_of_mem hentry

theorem Listing.unique (h : table.Listing) {other : Bytes × UInt16} (ha : pair ∈ table.pairs)
    (hb : other ∈ table.pairs) (hsame : pair.1 = other.1) : pair = other := by
  obtain ⟨a, hmem, rfl⟩ := List.mem_map.mp ha
  obtain ⟨b, hother, rfl⟩ := List.mem_map.mp hb
  rw [List.inj_on_of_nodup_map h.distinct hmem hother hsame]

end TopicTable

-- the id of the topics common to all clients
def everyone : Bytes := CharPointer.commonTopic.text

def pairsOf (id : Bytes) (entries : List PredefinedLine) : List (Bytes × UInt16) :=
  (entries.filter (·.id = id)).map fun line => (line.topicName, line.topicID)

def topicsOf (id : Bytes) (entries : List PredefinedLine) : List Bytes :=
  (entries.filter (·.id = id)).map (·.topicName)

structure Loaded (list : PredefinedList) (entries : List PredefinedLine) : Prop where
  exact : ∀ client ∈ list.clients, ∀ pair,
    pair ∈ client.topics.pairs ↔ pair ∈ pairsOf client.clientId entries
  present : ∀ line ∈ entries, line.id ≠ everyone →
    ∃ client ∈ list.clients, client.clientId = line.id
  common : ∀ pair, pair ∈ list.gatewayTopics.pairs ↔ pair ∈ pairsOf everyone entries

structure Within (entries : List PredefinedLine) : Prop where
  clients : ((entries.map (·.id)).filter (· ≠ everyone)).dedup.length ≤ MAX_CLIENTS
  topics : ∀ id, (topicsOf id entries).dedup.length ≤ MAX_TOPIC_PAR_CLIENT.toNat

structure Plain (entries : List PredefinedLine) : Prop where
  addressed : ∀ line ∈ entries, line.id ≠ everyone
  unshadowed : ∀ pre line post, entries = pre ++ line :: post →
    ∀ earlier ∈ pre, line.id <+: earlier.id → line.id ∈ pre.map (·.id)
  single : ∀ a ∈ entries, ∀ b ∈ entries, a.id = b.id → a.topicName = b.topicName →
    a.topicID = b.topicID
  numbered : ∀ line ∈ entries, line.topicID ≠ 0
  unstripped : ∀ line ∈ entries, line.stripped = line

structure Terminated (entries : List PredefinedLine) : Prop where
  ids : ∀ line ∈ entries, 0 ∉ line.id
  topics : ∀ line ∈ entries, 0 ∉ line.topicName

section Covers

variable {stored given : Bytes}

theorem covers_self (id : Bytes) : covers id id = true :=
  (strncmpEqual_iff id id).mpr (.inl List.prefix_rfl)

theorem covers_iff (h : 0 ∉ given) : covers stored given = true ↔ given <+: stored := by
  rw [covers, strncmpEqual_iff, Extends]
  simp [h]

end Covers

namespace PredefinedList

variable {list : PredefinedList} {aggregate : Bool} {line : PredefinedLine}
  {entries pre : List PredefinedLine}

abbrev ids (list : PredefinedList) : List Bytes := list.clients.map PredefinedClient.clientId

theorem loaded_append (pre post : List PredefinedLine) :
    list.loaded aggregate (pre ++ post) = (list.loaded aggregate pre).loaded aggregate post :=
  List.foldl_append ..

theorem stored_gatewayTopics : (list.stored aggregate line).gatewayTopics = list.gatewayTopics := by
  rw [stored]
  split_ifs
  · rfl
  · rfl

theorem loaded_gatewayTopics : (list.loaded aggregate entries).gatewayTopics = list.gatewayTopics := by
  induction entries generalizing list with
  | nil => rfl
  | cons line entries ih => exact ih.trans stored_gatewayTopics

-- what holds whatever the lines are
structure Kept (list : PredefinedList) (entries : List PredefinedLine) : Prop where
  separate : Separate PredefinedClient.clientId covers list.clients
  listing : ∀ client ∈ list.clients, client.topics.Listing
  subset : ∀ id ∈ list.ids, id ∈ entries.map (·.id)
  covered : ∀ line ∈ entries, ∃ id ∈ list.ids, covers id line.id = true

theorem Kept.length_le (h : list.Kept pre) (hwithin : Within entries)
    (haddressed : ∀ line ∈ entries, line.id ≠ everyone) (hpre : pre <+: entries) :
    list.clients.length ≤ MAX_CLIENTS := by
  have hsub : list.ids ⊆ ((entries.map (·.id)).filter (· ≠ everyone)).dedup := by
    intro id hid
    obtain ⟨line, hline, rfl⟩ := List.mem_map.mp ((hpre.map _).subset (h.subset id hid))
    rw [List.mem_dedup, List.mem_filter, decide_eq_true_eq]
    exact ⟨List.mem_map_of_mem hline, haddressed line hline⟩
  have hlength := ((h.separate.nodup covers_self).subperm hsub).length_le
  rw [List.length_map] at hlength
  exact Nat.le_trans hlength hwithin.clients

theorem stored_eq (h : list.clients.length ≤ MAX_CLIENTS) :
    list.stored aggregate line = { list with
      clients := place PredefinedClient.clientId covers (newClient aggregate)
        (addTopic line.topicName line.topicID) line.id list.clients } :=
  if_neg (Nat.not_lt.mpr h)

theorem addTopic_clientId (topicName : Bytes) (topicId : UInt16) (client : PredefinedClient) :
    (addTopic topicName topicId client).clientId = client.clientId := rfl

theorem newClient_clientId (aggregate : Bool) (id : Bytes) : (newClient aggregate id).clientId = id :=
  rfl

theorem ids_stored (h : list.clients.length ≤ MAX_CLIENTS) {id : Bytes}
    (hid : id ∈ (list.stored aggregate line).ids) : id ∈ list.ids ∨ id = line.id := by
  rw [stored_eq h] at hid
  exact keys_place_subset (addTopic_clientId _ _) (newClient_clientId _) hid

theorem ids_kept (h : list.clients.length ≤ MAX_CLIENTS) {id : Bytes} (hid : id ∈ list.ids) :
    id ∈ (list.stored aggregate line).ids := by
  rw [stored_eq h]
  exact keys_subset_place (addTopic_clientId _ _) hid

theorem Kept.stored (h : list.Kept pre) (hlength : list.clients.length ≤ MAX_CLIENTS) :
    (list.stored aggregate line).Kept (pre ++ [line]) := by
  constructor
  · rw [stored_eq hlength]
    exact separate_place (addTopic_clientId _ _) (newClient_clientId _) h.separate
  · rw [stored_eq hlength]
    intro client hclient
    rcases mem_place_origin hclient with hold | ⟨before, hbefore, rfl⟩ | rfl
    · exact h.listing client hold
    · exact (h.listing before hbefore).addName _ _
    · exact TopicTable.listing_initial.addName _ _
  · intro id hid
    rw [List.map_append, List.mem_append]
    rcases ids_stored hlength hid with hold | rfl
    · exact .inl (h.subset id hold)
    · exact .inr List.mem_cons_self
  · intro other hother
    rcases List.mem_append.mp hother with hold | hnew
    · obtain ⟨id, hid, hcovers⟩ := h.covered other hold
      exact ⟨id, ids_kept hlength hid, hcovers⟩
    · obtain rfl := List.mem_singleton.mp hnew
      rw [stored_eq hlength]
      exact place_covers (addTopic_clientId _ _) (newClient_clientId _) (covers_self _)

theorem kept_loaded (hwithin : Within entries) (haddressed : ∀ line ∈ entries, line.id ≠ everyone)
    (hpre : pre <+: entries) :
    (initial.loaded aggregate pre).Kept pre := by
  induction pre using List.reverseRecOn with
  | nil => exact ⟨List.Pairwise.nil, nofun, nofun, nofun⟩
  | append_singleton pre line ih =>
    have hbefore : pre <+: entries := (List.prefix_append pre [line]).trans hpre
    rw [loaded_append]
    exact (ih hbefore).stored ((ih hbefore).length_le hwithin haddressed hbefore)

-- what holds of the lines that are loaded as they are meant
structure Progress (list : PredefinedList) (entries : List PredefinedLine) : Prop
    extends list.Kept entries where
  present : ∀ line ∈ entries, line.id ∈ list.ids
  exact : ∀ client ∈ list.clients, ∀ pair,
    pair ∈ client.topics.pairs ↔ pair ∈ pairsOf client.clientId entries

theorem pairsOf_append_other {id : Bytes} (h : id ≠ line.id) :
    pairsOf id (pre ++ [line]) = pairsOf id pre := by
  rw [pairsOf, List.filter_append, List.filter_cons_of_neg (by simpa using h.symm),
    List.filter_nil, List.append_nil]
  rfl

theorem pairsOf_append_same :
    pairsOf line.id (pre ++ [line]) = pairsOf line.id pre ++ [(line.topicName, line.topicID)] := by
  rw [pairsOf, List.filter_append, List.filter_cons_of_pos (by simp), List.map_append]
  rfl

theorem mem_pairsOf {id : Bytes} {pair : Bytes × UInt16} : pair ∈ pairsOf id entries ↔
    ∃ line ∈ entries, line.id = id ∧ (line.topicName, line.topicID) = pair := by
  simp only [pairsOf, List.mem_map, List.mem_filter, decide_eq_true_eq, and_assoc]

theorem mem_topicsOf {id : Bytes} {pair : Bytes × UInt16} (h : pair ∈ pairsOf id entries) :
    pair.1 ∈ topicsOf id entries := by
  obtain ⟨line, hline, rfl⟩ := List.mem_map.mp h
  exact List.mem_map_of_mem hline

section Split

variable {post : List PredefinedLine} (h : entries = pre ++ line :: post)

include h

theorem mem_of_split : line ∈ entries := by
  rw [h]
  exact List.mem_append_right _ List.mem_cons_self

theorem mem_of_before {earlier : PredefinedLine} (hearlier : earlier ∈ pre) : earlier ∈ entries := by
  rw [h]
  exact List.mem_append_left _ hearlier

end Split

theorem Progress.reached (h : list.Progress pre) (hplain : Plain entries)
    (hterminated : Terminated entries) {post : List PredefinedLine}
    (hentries : entries = pre ++ line :: post) :
    line.id ∈ list.ids ∨ ∀ client ∈ list.clients, ¬covers client.clientId line.id := by
  have hline := mem_of_split hentries
  rcases Decidable.em (line.id ∈ pre.map (·.id)) with hmem | hnew
  · obtain ⟨earlier, hearlier, heq⟩ := List.mem_map.mp hmem
    exact .inl (heq ▸ h.present earlier hearlier)
  · refine .inr ?_
    intro client hclient hcovers
    obtain ⟨earlier, hearlier, heq⟩ := List.mem_map.mp (h.subset _ (List.mem_map_of_mem hclient))
    have hprefix := (covers_iff (hterminated.ids line hline)).mp hcovers
    rw [← heq] at hprefix
    exact hnew (hplain.unshadowed pre line post hentries earlier hearlier hprefix)

theorem Progress.room (h : list.Progress pre) (hwithin : Within entries)
    {post : List PredefinedLine} (hentries : entries = pre ++ line :: post)
    {client : PredefinedClient} (hclient : client ∈ list.clients) (hid : client.clientId = line.id) :
    line.topicName ∈ client.topics.names ∨
      client.topics.entries.length < MAX_TOPIC_PAR_CLIENT.toNat := by
  rcases Decidable.em (line.topicName ∈ client.topics.names) with hknown | hnew
  · exact .inl hknown
  · have hnodup : (line.topicName :: client.topics.names).Nodup :=
      List.nodup_cons.mpr ⟨hnew, (h.listing client hclient).distinct⟩
    have hsub : line.topicName :: client.topics.names ⊆ (topicsOf line.id entries).dedup := by
      rw [List.cons_subset, hentries]
      constructor
      · have hpair : (line.topicName, line.topicID) ∈ pairsOf line.id (pre ++ line :: post) :=
          mem_pairsOf.mpr ⟨line, by simp, rfl, rfl⟩
        exact List.mem_dedup.mpr (mem_topicsOf hpair)
      · intro name hname
        obtain ⟨entry, hentry, rfl⟩ := List.mem_map.mp hname
        have hpair := (h.exact client hclient _).mp (List.mem_map_of_mem hentry)
        obtain ⟨earlier, hearlier, heq, hsame⟩ := mem_pairsOf.mp hpair
        have hwhole := mem_pairsOf.mpr
          ⟨earlier, List.mem_append_left (line :: post) hearlier, heq.trans hid, hsame⟩
        exact List.mem_dedup.mpr (mem_topicsOf hwhole)
    have hlength := (hnodup.subperm hsub).length_le
    rw [List.length_cons, TopicTable.names, List.length_map] at hlength
    exact .inr (Nat.lt_of_succ_le (hlength.trans (hwithin.topics line.id)))

theorem Progress.exact_found (h : list.Progress pre) (hplain : Plain entries)
    (hwithin : Within entries) (hterminated : Terminated entries) {post : List PredefinedLine}
    (hentries : entries = pre ++ line :: post) {client : PredefinedClient}
    (hclient : client ∈ list.clients) (hid : client.clientId = line.id) (pair : Bytes × UInt16) :
    pair ∈ (client.topics.addName line.topicName line.topicID).pairs ↔
      pair ∈ pairsOf line.id (pre ++ [line]) := by
  have hline := mem_of_split hentries
  have hpairs := fun other => h.exact client hclient other
  rw [hid] at hpairs
  rw [(h.listing client hclient).mem_pairs_addName (hplain.numbered line hline)
    (hterminated.topics line hline) (h.room hwithin hentries hclient hid), pairsOf_append_same,
    List.mem_append, List.mem_singleton, hpairs]
  rcases Decidable.em (line.topicName ∈ client.topics.names) with hknown | hnew
  · -- the topic is there already, and `single` makes it the same pair
    obtain ⟨entry, hentry, hname⟩ := List.mem_map.mp hknown
    have hpair := (hpairs _).mp (List.mem_map_of_mem hentry)
    obtain ⟨earlier, hearlier, heq, hsame⟩ := mem_pairsOf.mp hpair
    have hmem := mem_of_before hentries hearlier
    have htopic : earlier.topicName = line.topicName := (congrArg Prod.fst hsame).trans hname
    have hnumber := hplain.single earlier hmem line hline heq htopic
    rw [← hsame, htopic, hnumber] at hpair
    constructor
    · exact fun hold => .inl (hold.resolve_right fun hnew => hnew.1 hknown)
    · rintro (hold | rfl)
      · exact .inl hold
      · exact .inl hpair
  · simp only [hnew, not_false_eq_true, true_and]

theorem Progress.stored (h : list.Progress pre) (hplain : Plain entries) (hwithin : Within entries)
    (hterminated : Terminated entries) {post : List PredefinedLine}
    (hentries : entries = pre ++ line :: post) :
    (list.stored aggregate line).Progress (pre ++ [line]) := by
  have hpre : pre <+: entries := ⟨line :: post, hentries.symm⟩
  have hlength := h.toKept.length_le hwithin hplain.addressed hpre
  have hreached := h.reached hplain hterminated hentries
  have hkept : (list.stored aggregate line).Kept (pre ++ [line]) := h.toKept.stored hlength
  refine ⟨hkept, ?_, ?_⟩
  · intro other hother
    rcases List.mem_append.mp hother with hold | hnew
    · exact ids_kept hlength (h.present other hold)
    · obtain rfl := List.mem_singleton.mp hnew
      obtain ⟨id, hid, hcovers⟩ := hkept.covered other hother
      rcases ids_stored hlength hid with hold | rfl
      · rcases hreached with hmem | hnone
        · exact ids_kept hlength hmem
        · obtain ⟨client, hclient, rfl⟩ := List.mem_map.mp hold
          exact absurd hcovers (hnone client hclient)
      · exact hid
  · rw [stored_eq hlength]
    intro client hclient pair
    have hline := mem_of_split hentries
    rcases mem_place covers_self h.separate hreached hclient with
      ⟨hold, hother⟩ | ⟨before, hbefore, hid, rfl⟩ | ⟨hnone, rfl⟩
    · rw [pairsOf_append_other hother]
      exact h.exact client hold pair
    · rw [addTopic_clientId, hid]
      exact h.exact_found hplain hwithin hterminated hentries hbefore hid pair
    · have hroom : line.topicName ∈ TopicTable.initial.names ∨
          TopicTable.initial.entries.length < MAX_TOPIC_PAR_CLIENT.toNat := .inr (by decide)
      have hempty : pair ∉ pairsOf line.id pre := by
        intro hpair
        obtain ⟨earlier, hearlier, heq, -⟩ := mem_pairsOf.mp hpair
        obtain ⟨before, hbefore, hid⟩ := List.mem_map.mp (h.present earlier hearlier)
        exact hnone before hbefore (hid.trans heq)
      have hadded : pair ∈ (TopicTable.initial.addName line.topicName line.topicID).pairs ↔ _ :=
        TopicTable.listing_initial.mem_pairs_addName (hplain.numbered line hline)
          (hterminated.topics line hline) hroom
      rw [addTopic_clientId, newClient_clientId, pairsOf_append_same, List.mem_append,
        List.mem_singleton]
      refine hadded.trans ?_
      simp [hempty, TopicTable.names, TopicTable.pairs, TopicTable.initial]

theorem progress_loaded (hplain : Plain entries) (hwithin : Within entries)
    (hterminated : Terminated entries) (hpre : pre <+: entries) :
    (initial.loaded aggregate pre).Progress pre := by
  induction pre using List.reverseRecOn with
  | nil => exact ⟨kept_loaded hwithin hplain.addressed hpre, nofun, nofun⟩
  | append_singleton pre line ih =>
    have hbefore : pre <+: entries := (List.prefix_append pre [line]).trans hpre
    obtain ⟨post, hpost⟩ := hpre
    have hentries : entries = pre ++ line :: post := by
      rw [← hpost, List.append_assoc]
      rfl
    rw [loaded_append]
    exact (ih hbefore).stored hplain hwithin hterminated hentries

theorem loaded_of_plain (hplain : Plain entries) (hwithin : Within entries)
    (hterminated : Terminated entries) : Loaded (initial.loaded aggregate entries) entries := by
  have hprogress : (initial.loaded aggregate entries).Progress entries :=
    progress_loaded hplain hwithin hterminated List.prefix_rfl
  constructor
  · exact hprogress.exact
  · intro line hline _
    exact List.mem_map.mp (hprogress.present line hline)
  · intro pair
    rw [loaded_gatewayTopics, mem_pairsOf]
    constructor
    · nofun
    · rintro ⟨line, hline, hid, -⟩
      exact absurd hid (hplain.addressed line hline)

theorem strip_fixed {bytes : Bytes} : strip bytes = bytes ↔ ∀ byte ∈ bytes, byte ∉ blanks := by
  simp only [strip, List.filter_eq_self, Bool.not_eq_true', List.contains_eq_mem,
    decide_eq_false_iff_not]

theorem strip_strip (bytes : Bytes) : strip (strip bytes) = strip bytes := by
  rw [strip_fixed]
  intro byte hbyte
  simpa using (List.mem_filter.mp hbyte).2

theorem strip_cStr {bytes : Bytes} (h : strip bytes = bytes) : strip (cStr bytes) = cStr bytes := by
  rw [strip_fixed] at h ⊢
  intro byte hbyte
  exact h byte ((List.takeWhile_prefix _).subset hbyte)

-- what is read of a file has no blanks
structure Fixed (list : PredefinedList) : Prop where
  ids : ∀ client ∈ list.clients, strip client.clientId = client.clientId
  names : ∀ client ∈ list.clients, ∀ name ∈ client.topics.names, strip name = name

theorem Fixed.stored (h : list.Fixed) (line : PredefinedLine) :
    (list.stored aggregate line.stripped).Fixed := by
  have hadded (client : PredefinedClient) (hclient : ∀ name ∈ client.topics.names, strip name = name)
      (name : Bytes)
      (hname : name ∈ (client.topics.addName line.stripped.topicName line.topicID).names) :
      strip name = name := by
    rcases TopicTable.names_addName hname with hold | rfl
    · exact hclient name hold
    · exact strip_cStr (strip_strip _)
  rw [PredefinedList.stored]
  split_ifs
  · exact h
  · constructor
    · intro client hclient
      rcases mem_place_origin hclient with hold | ⟨before, hbefore, rfl⟩ | rfl
      · exact h.ids client hold
      · exact h.ids before hbefore
      · exact strip_strip _
    · intro client hclient
      rcases mem_place_origin hclient with hold | ⟨before, hbefore, rfl⟩ | rfl
      · exact h.names client hold
      · exact hadded before (h.names before hbefore)
      · exact hadded _ (List.forall_mem_nil _)

theorem Fixed.loaded (h : list.Fixed) (entries : List PredefinedLine) :
    (list.loaded aggregate (entries.map PredefinedLine.stripped)).Fixed := by
  induction entries generalizing list with
  | nil => exact h
  | cons line entries ih => exact ih (h.stored line)

theorem addressed_of_loaded {read : List PredefinedLine}
    (h : Loaded (initial.loaded aggregate read) entries) :
    ∀ line ∈ entries, line.id ≠ everyone := by
  intro line hline hid
  have hpair := (h.common _).mpr (mem_pairsOf.mpr ⟨line, hline, hid, rfl⟩)
  rw [loaded_gatewayTopics] at hpair
  cases hpair

theorem exists_client (h : Loaded list entries) (haddressed : ∀ line ∈ entries, line.id ≠ everyone)
    (hline : line ∈ entries) :
    ∃ client ∈ list.clients, client.clientId = line.id ∧
      (line.topicName, line.topicID) ∈ client.topics.pairs := by
  obtain ⟨client, hclient, hid⟩ := h.present line hline (haddressed line hline)
  refine ⟨client, hclient, hid, (h.exact client hclient _).mpr ?_⟩
  exact mem_pairsOf.mpr ⟨line, hline, hid.symm, rfl⟩

theorem unstripped_of_loaded
    (h : Loaded (initial.loaded aggregate (entries.map PredefinedLine.stripped)) entries) :
    ∀ line ∈ entries, line.stripped = line := by
  intro line hline
  have hempty : initial.Fixed := ⟨nofun, nofun⟩
  have hfixed : (initial.loaded aggregate (entries.map PredefinedLine.stripped)).Fixed :=
    hempty.loaded entries
  obtain ⟨client, hclient, hid, hpair⟩ := exists_client h (addressed_of_loaded h) hline
  have hname := hfixed.names client hclient _ (TopicTable.mem_names_of_pairs hpair)
  have hident := hfixed.ids client hclient
  rw [hid] at hident
  rw [PredefinedLine.stripped, hident, hname]

theorem shadowed_stored {x : Bytes} (hnew : x ∉ list.ids)
    (hcovered : ∃ id ∈ list.ids, covers id x = true) :
    x ∉ (list.stored aggregate line).ids ∧
      ∃ id ∈ (list.stored aggregate line).ids, covers id x = true := by
  obtain ⟨id, hid, hcovers⟩ := hcovered
  rcases Nat.lt_or_ge MAX_CLIENTS list.clients.length with hfull | hlength
  · rw [PredefinedList.stored, if_pos hfull]
    exact ⟨hnew, id, hid, hcovers⟩
  · refine ⟨?_, id, ids_kept hlength hid, hcovers⟩
    rw [stored_eq hlength]
    obtain ⟨client, hclient, rfl⟩ := List.mem_map.mp hid
    exact place_shadowed (addTopic_clientId _ _) (newClient_clientId _) hnew
      ⟨client, hclient, hcovers⟩

theorem shadowed_loaded {x : Bytes} (hnew : x ∉ list.ids)
    (hcovered : ∃ id ∈ list.ids, covers id x = true) (entries : List PredefinedLine) :
    x ∉ (list.loaded aggregate entries).ids := by
  induction entries generalizing list with
  | nil => exact hnew
  | cons line entries ih =>
    obtain ⟨hnew, hcovered⟩ := shadowed_stored hnew hcovered
    exact ih hnew hcovered

theorem unshadowed_of_loaded (h : Loaded (initial.loaded aggregate entries) entries)
    (hwithin : Within entries) (hterminated : Terminated entries) (pre : List PredefinedLine)
    (line : PredefinedLine) (post : List PredefinedLine) (hentries : entries = pre ++ line :: post) :
    ∀ earlier ∈ pre, line.id <+: earlier.id → line.id ∈ pre.map (·.id) := by
  intro earlier hearlier hprefix
  by_contra hnew
  have hline := mem_of_split hentries
  have hmem := mem_of_before hentries hearlier
  have hkept : (initial.loaded aggregate pre).Kept pre :=
    kept_loaded hwithin (addressed_of_loaded h) ⟨line :: post, hentries.symm⟩
  obtain ⟨id, hid, hcovers⟩ := hkept.covered earlier hearlier
  have hlonger := hprefix.trans ((covers_iff (hterminated.ids earlier hmem)).mp hcovers)
  have hcovered := (covers_iff (hterminated.ids line hline)).mpr hlonger
  have hmissing : line.id ∉ (initial.loaded aggregate entries).ids := by
    rw [hentries, loaded_append]
    exact shadowed_loaded (fun hin => hnew (hkept.subset _ hin)) ⟨id, hid, hcovered⟩ _
  obtain ⟨client, hclient, hsame, -⟩ := exists_client h (addressed_of_loaded h) hline
  exact hmissing (hsame ▸ List.mem_map_of_mem hclient)

theorem map_stripped (h : ∀ line ∈ entries, line.stripped = line) :
    entries.map PredefinedLine.stripped = entries := by
  rw [List.map_congr_left h, List.map_id']

theorem plain_of_loaded
    (h : Loaded (initial.loaded aggregate (entries.map PredefinedLine.stripped)) entries)
    (hwithin : Within entries) (hterminated : Terminated entries) : Plain entries := by
  have hunstripped := unstripped_of_loaded h
  rw [map_stripped hunstripped] at h
  have haddressed := addressed_of_loaded h
  have hkept : (initial.loaded aggregate entries).Kept entries :=
    kept_loaded hwithin haddressed List.prefix_rfl
  refine ⟨haddressed, unshadowed_of_loaded h hwithin hterminated, ?_, ?_, hunstripped⟩
  · intro a ha b hb hid hname
    obtain ⟨client, hclient, hsame, hpair⟩ := exists_client h haddressed ha
    have hother := (h.exact client hclient _).mpr (mem_pairsOf.mpr ⟨b, hb, by rw [hsame, hid], rfl⟩)
    exact congrArg Prod.snd ((hkept.listing client hclient).unique hpair hother hname)
  · intro line hline hzero
    obtain ⟨client, hclient, -, hpair⟩ := exists_client h haddressed hline
    obtain ⟨entry, hentry, hsame⟩ := List.mem_map.mp hpair
    exact (hkept.listing client hclient).ids entry hentry ((congrArg Prod.snd hsame).trans hzero)

end PredefinedList

theorem PredefinedFile.mem_entries {file : PredefinedFile} {line : PredefinedLine}
    (h : line ∈ file.entries) : ∃ r : FileRecord, r.line = line := by
  have hline (text : FileLine) (hsome : text.line? = some line) : ∃ r : FileRecord, r.line = line := by
    cases text with
    | comment text honeLine => cases hsome
    | blank pad => cases hsome
    | record r => exact ⟨r, Option.some.inj hsome⟩
  rcases List.mem_append.mp h with hlines | hlast
  · obtain ⟨text, -, hsome⟩ := List.mem_filterMap.mp hlines
    exact hline text hsome
  · exact hline file.last (Option.mem_toList.mp hlast)

theorem PredefinedFile.terminated (file : PredefinedFile) : Terminated file.entries := by
  constructor
  · intro line hline
    obtain ⟨r, rfl⟩ := file.mem_entries hline
    exact r.id.clean.zero
  · intro line hline
    obtain ⟨r, rfl⟩ := file.mem_entries hline
    exact r.topic.clean.zero

theorem predefinedFile_loaded_iff (file : PredefinedFile) (aggregate : Bool) (hfits : file.Fits)
    (hwithin : Within file.entries) :
    (∃ list, PredefinedList.initial.readPredefinedList (some file.text) aggregate =
        some (list, true) ∧ Loaded list file.entries) ↔ Plain file.entries := by
  rw [PredefinedList.readPredefinedList_file hfits]
  constructor
  · rintro ⟨list, hread, hloaded⟩
    obtain rfl : _ = list := (Prod.mk.inj (Option.some.inj hread)).1
    exact PredefinedList.plain_of_loaded hloaded hwithin file.terminated
  · intro hplain
    refine ⟨_, rfl, ?_⟩
    rw [PredefinedList.map_stripped hplain.unstripped]
    exact PredefinedList.loaded_of_plain hplain hwithin file.terminated

theorem within_short {entries : List PredefinedLine} (h : entries.length ≤ 50) : Within entries := by
  constructor
  · have hlength := (List.dedup_sublist ((entries.map (·.id)).filter (· ≠ everyone))).length_le
    have hfilter := List.length_filter_le (· ≠ everyone) (entries.map (·.id))
    rw [List.length_map] at hfilter
    exact (hlength.trans hfilter).trans (h.trans (by decide))
  · intro id
    have hlength := (List.dedup_sublist (topicsOf id entries)).length_le
    have hfilter := List.length_filter_le (·.id = id) entries
    rw [topicsOf, List.length_map] at hlength
    exact (hlength.trans hfilter).trans (h.trans (by decide))

def plainField (bytes : Bytes) (hnonempty : bytes ≠ [])
    (hplain : bytes.all (· ∉ [0x20, 0x09, newline, comma, 0])) : FileField :=
  ⟨bytes, hnonempty, by simpa using hplain⟩

def plainNumber (digits : Bytes) (hnonempty : digits ≠ []) (hall : digits.all isDigit)
    (hsmall : decimal digits < 65536) : FileNumber :=
  ⟨digits, hnonempty, List.all_eq_true.mp hall, hsmall⟩

-- "one,t,1", a comment, "two,t,1" and "one,u,2"
def twoClients : PredefinedFile where
  lines := [
    .record ⟨plainField [0x6f, 0x6e, 0x65] (by decide) rfl, plainField [0x74] (by decide) rfl,
      plainNumber [0x31] (by decide) rfl (by decide), ([], []), ([], []), ([], []), by decide⟩,
    .comment [0x20, 0x78] (by decide),
    .record ⟨plainField [0x74, 0x77, 0x6f] (by decide) rfl, plainField [0x74] (by decide) rfl,
      plainNumber [0x31] (by decide) rfl (by decide), ([.space], []), ([], [.tab]), ([], []),
      by decide⟩]
  last := .record ⟨plainField [0x6f, 0x6e, 0x65] (by decide) rfl,
    plainField [0x75] (by decide) rfl, plainNumber [0x32] (by decide) rfl (by decide),
    ([], []), ([], []), ([], []), by decide⟩

theorem predefinedFile_loaded_twoClients : ∃ list,
    PredefinedList.initial.readPredefinedList (some twoClients.text) false = some (list, true) ∧
      Loaded list twoClients.entries := by
  have hfits : twoClients.Fits := PredefinedFile.fits_short (by decide) (by decide)
  have hplain : Plain twoClients.entries := by
    have hapart : ∀ a ∈ twoClients.entries, ∀ b ∈ twoClients.entries, a.id <+: b.id → a.id = b.id := by
      decide
    refine ⟨by decide, ?_, by decide, by decide, by decide⟩
    intro pre line post hentries earlier hearlier hprefix
    rw [hapart line (PredefinedList.mem_of_split hentries) earlier
      (PredefinedList.mem_of_before hentries hearlier) hprefix]
    exact List.mem_map_of_mem hearlier
  exact (predefinedFile_loaded_iff twoClients false hfits (within_short (by decide))).mpr hplain

-- "*,t,1"
def wildcardFile : PredefinedFile where
  lines := []
  last := .record ⟨plainField [0x2a] (by decide) rfl, plainField [0x74] (by decide) rfl,
    plainNumber [0x31] (by decide) rfl (by decide), ([], []), ([], []), ([], []), by decide⟩

def wildcardList : PredefinedList :=
  ⟨[⟨[0x2a], TopicTable.initial.addName [0x74] 1, false, true⟩], false, false, .initial⟩

theorem wildcardFile_not_common :
    wildcardFile.Fits ∧ Within wildcardFile.entries ∧
      PredefinedList.initial.readPredefinedList (some wildcardFile.text) false =
        some (wildcardList, true) ∧
      ¬Loaded wildcardList wildcardFile.entries := by
  refine ⟨PredefinedFile.fits_short nofun (by decide), within_short (by decide), by decide, ?_⟩
  intro h
  have hpair : ([0x74], 1) ∈ wildcardList.gatewayTopics.pairs := (h.common _).mpr (by decide)
  exact absurd hpair (by decide)

end MbedMqtt.MQTTSNGW
