import MbedMqtt.Contract.ClientLookup
import MbedMqtt.Gateway.PredefinedList

namespace MbedMqtt.MQTTSNGW

inductive Blank where
  | space
  | tab
  | ideographic
  deriving DecidableEq, Repr

def Blank.bytes : Blank → Bytes
  | .space => [0x20]
  | .tab => [0x09]
  | .ideographic => [0xe3, 0x80, 0x80]

structure FileField where
  bytes : Bytes
  nonempty : bytes ≠ []
  plain : ∀ byte ∈ bytes, byte ∉ [0x20, 0x09, newline, comma, 0]
  deriving DecidableEq, Repr

structure FileNumber where
  digits : Bytes
  nonempty : digits ≠ []
  all : ∀ digit ∈ digits, isDigit digit = true
  small : decimal digits < 65536
  deriving DecidableEq, Repr

abbrev Padding : Type := List Blank × List Blank

def Padding.around (pad : Padding) (bytes : Bytes) : Bytes :=
  pad.1.flatMap Blank.bytes ++ bytes ++ pad.2.flatMap Blank.bytes

-- `clientId,topic,id`, with blanks around each field
structure FileRecord where
  id : FileField
  topic : FileField
  number : FileNumber
  idPad : Padding
  topicPad : Padding
  numberPad : Padding
  unhashed : id.bytes.head? ≠ some hash
  deriving DecidableEq, Repr

def FileRecord.text (r : FileRecord) : Bytes :=
  r.idPad.around r.id.bytes ++ comma ::
    (r.topicPad.around r.topic.bytes ++ comma :: r.numberPad.around r.number.digits)

def FileRecord.line (r : FileRecord) : PredefinedLine :=
  ⟨r.id.bytes, r.topic.bytes, UInt16.ofNat (decimal r.number.digits)⟩

inductive FileLine where
  | comment (text : Bytes) (oneLine : newline ∉ text)
  | blank (pad : List Blank)
  | record (r : FileRecord)
  deriving DecidableEq, Repr

def FileLine.text : FileLine → Bytes
  | .comment text _ => hash :: text
  | .blank pad => pad.flatMap Blank.bytes
  | .record r => r.text

def FileLine.line? : FileLine → Option PredefinedLine
  | .record r => some r.line
  | _ => none

-- a line as it is without the bytes that are stripped
def PredefinedLine.stripped (line : PredefinedLine) : PredefinedLine :=
  { line with id := strip line.id, topicName := strip line.topicName }

section Text

variable {bytes a b : Bytes}

theorem strip_append : strip (a ++ b) = strip a ++ strip b := List.filter_append ..

theorem strip_pad (pad : List Blank) : strip (pad.flatMap Blank.bytes) = [] := by
  induction pad with
  | nil => rfl
  | cons blank pad ih =>
    rw [List.flatMap_cons, strip_append, ih, List.append_nil]
    cases blank with
    | space => rfl
    | tab => rfl
    | ideographic => rfl

theorem strip_around (pad : Padding) (bytes : Bytes) : strip (pad.around bytes) = strip bytes := by
  rw [Padding.around, strip_append, strip_append, strip_pad, strip_pad, List.nil_append,
    List.append_nil]

theorem strip_comma (bytes : Bytes) : strip (comma :: bytes) = comma :: strip bytes := by
  rw [strip, List.filter_cons_of_pos (by decide)]
  rfl

theorem mem_strip {byte : UInt8} (h : byte ∈ strip bytes) : byte ∈ bytes := List.mem_of_mem_filter h

theorem digit_plain {digit : UInt8} (h : isDigit digit = true) :
    digit ∉ blanks ++ [0, newline, comma, hash, 0x2b, 0x2d] ∧ isSpace digit = false := by
  constructor
  · intro hmem
    simp only [blanks, List.cons_append, List.nil_append, List.mem_cons, List.not_mem_nil,
      or_false] at hmem
    rcases hmem with rfl | rfl | rfl | rfl | rfl | rfl | rfl | rfl | rfl | rfl | rfl | rfl
    all_goals exact absurd h (by decide)
  · have hdigit : 0x30 ≤ digit.toNat := by
      rw [isDigit, Bool.and_eq_true, decide_eq_true_eq, UInt8.le_iff_toNat_le] at h
      exact h.1
    rw [isSpace, Bool.or_eq_false_iff, Bool.and_eq_false_iff, decide_eq_false_iff_not,
      decide_eq_false_iff_not, decide_eq_false_iff_not, UInt8.le_iff_toNat_le]
    refine ⟨?_, .inr (Nat.not_le.mpr (Nat.lt_of_lt_of_le (by decide) hdigit))⟩
    rintro rfl
    exact absurd hdigit (by decide)

theorem strip_digits (n : FileNumber) : strip n.digits = n.digits := by
  rw [strip, List.filter_eq_self]
  intro digit hdigit
  rw [Bool.not_eq_true', List.contains_eq_mem, decide_eq_false_iff_not]
  exact fun hmem => (digit_plain (n.all digit hdigit)).1 (List.mem_append_left _ hmem)

theorem stoul_digits (n : FileNumber) : stoul n.digits = some (decimal n.digits) := by
  obtain ⟨digit, rest, heq⟩ := List.exists_cons_of_ne_nil n.nonempty
  have hall : ∀ d ∈ digit :: rest, isDigit d = true := by
    rw [← heq]
    exact n.all
  have hfirst := digit_plain (hall digit List.mem_cons_self)
  have hskip : (digit :: rest).dropWhile isSpace = digit :: rest := by
    rw [List.dropWhile_cons, hfirst.2]
    rfl
  have htake : (digit :: rest).takeWhile isDigit = digit :: rest :=
    List.takeWhile_eq_self_iff.mpr hall
  have hminus : ¬some digit = some 0x2d := by
    intro hdigit
    obtain rfl := Option.some.inj hdigit
    exact hfirst.1 (by decide)
  have hplus : ¬some digit = some 0x2b := by
    intro hdigit
    obtain rfl := Option.some.inj hdigit
    exact hfirst.1 (by decide)
  have hsmall : ¬2 ^ 64 ≤ decimal (digit :: rest) := by
    have h := n.small
    rw [heq] at h
    omega
  simp only [stoul, heq, hskip, List.head?_cons, hminus, hplus, or_self, if_false, htake,
    List.cons_ne_nil, hsmall]

theorem FileRecord.strip_text (r : FileRecord) :
    strip r.text = strip r.id.bytes ++ comma :: (strip r.topic.bytes ++ comma :: r.number.digits) := by
  rw [FileRecord.text, strip_append, strip_around, strip_comma, strip_append, strip_around,
    strip_comma, strip_around, strip_digits]

theorem findIdx?_comma (h : comma ∉ a) (rest : Bytes) :
    (a ++ comma :: rest).findIdx? (fun byte => byte = comma) = some a.length := by
  induction a with
  | nil => rfl
  | cons byte a ih =>
    have hbyte : byte ≠ comma := fun heq => h (heq ▸ List.mem_cons_self)
    rw [List.cons_append, List.findIdx?_cons, ih fun hmem => h (List.mem_cons_of_mem _ hmem)]
    simp [hbyte]

theorem find_comma (front : Bytes) (h : comma ∉ a) (rest : Bytes) :
    find (front ++ (a ++ comma :: rest)) comma front.length = some (front.length + a.length) := by
  rw [find, List.drop_left, findIdx?_comma h]
  rfl

theorem parseLine_fields {a b : Bytes} (n : FileNumber) (ha : comma ∉ a) (hb : comma ∉ b) :
    parseLine (a ++ comma :: (b ++ comma :: n.digits)) =
      some ⟨a, b, UInt16.ofNat (decimal n.digits)⟩ := by
  have hfirst := find_comma [] ha (b ++ comma :: n.digits)
  have hsecond := find_comma (a ++ [comma]) hb n.digits
  rw [List.append_assoc, List.singleton_append, List.length_append, List.length_singleton]
    at hsecond
  rw [List.nil_append, List.length_nil, Nat.zero_add] at hfirst
  have hrest : (a ++ comma :: (b ++ comma :: n.digits)).drop (a.length + 1) =
      b ++ comma :: n.digits := by
    rw [← List.drop_drop, List.drop_left]
    rfl
  have hnumber : (a ++ comma :: (b ++ comma :: n.digits)).drop (a.length + 1 + b.length + 1) =
      n.digits := by
    rw [Nat.add_assoc (a.length + 1), ← List.drop_drop, hrest, ← List.drop_drop, List.drop_left]
    rfl
  simp only [parseLine, hfirst, hsecond, substr, hrest, hnumber, List.take_left, stoul_digits,
    Option.map_some, Nat.add_sub_cancel_left]

theorem mem_pad {pad : List Blank} {byte : UInt8} (h : byte ∈ pad.flatMap Blank.bytes) :
    byte ∈ [0x20, 0x09, 0xe3, 0x80] := by
  obtain ⟨blank, -, hbyte⟩ := List.mem_flatMap.mp h
  cases blank with
  | space =>
    obtain rfl := List.mem_singleton.mp hbyte
    decide
  | tab =>
    obtain rfl := List.mem_singleton.mp hbyte
    decide
  | ideographic =>
    simp only [Blank.bytes, List.mem_cons, List.not_mem_nil, or_false] at hbyte
    rcases hbyte with rfl | rfl | rfl
    all_goals decide

structure Clean (bytes : Bytes) : Prop where
  zero : 0 ∉ bytes
  oneLine : newline ∉ bytes

theorem Clean.append (ha : Clean a) (hb : Clean b) : Clean (a ++ b) := by
  constructor
  · rw [List.mem_append, not_or]
    exact ⟨ha.zero, hb.zero⟩
  · rw [List.mem_append, not_or]
    exact ⟨ha.oneLine, hb.oneLine⟩

theorem clean_pad (pad : List Blank) : Clean (pad.flatMap Blank.bytes) := by
  constructor
  · exact fun h => absurd (mem_pad h) (by decide)
  · exact fun h => absurd (mem_pad h) (by decide)

theorem clean_around (pad : Padding) (h : Clean bytes) : Clean (pad.around bytes) :=
  ((clean_pad pad.1).append h).append (clean_pad pad.2)

theorem Clean.comma (h : Clean bytes) : Clean (comma :: bytes) := by
  constructor
  · exact fun hmem => (List.mem_cons.mp hmem).elim (by decide) h.zero
  · exact fun hmem => (List.mem_cons.mp hmem).elim (by decide) h.oneLine

theorem FileField.clean (field : FileField) : Clean field.bytes :=
  ⟨fun h => field.plain 0 h (by decide), fun h => field.plain newline h (by decide)⟩

theorem FileField.comma_not_mem (field : FileField) : comma ∉ strip field.bytes :=
  fun h => field.plain comma (mem_strip h) (by decide)

theorem FileNumber.clean (n : FileNumber) : Clean n.digits :=
  ⟨fun h => (digit_plain (n.all 0 h)).1 (by decide),
    fun h => (digit_plain (n.all newline h)).1 (by decide)⟩

theorem FileRecord.clean (r : FileRecord) : Clean r.text :=
  (clean_around _ r.id.clean).append (Clean.comma ((clean_around _ r.topic.clean).append
    (Clean.comma (clean_around _ r.number.clean))))

theorem FileRecord.head_text (r : FileRecord) (rest : Bytes) :
    (r.text ++ rest).head? ≠ some hash := by
  rw [FileRecord.text, Padding.around]
  cases r.idPad.1 with
  | nil =>
    have hid := r.unhashed
    obtain ⟨byte, bytes, heq⟩ := List.exists_cons_of_ne_nil r.id.nonempty
    rw [heq] at hid ⊢
    exact hid
  | cons blank pad =>
    cases blank with
    | space => exact fun h => absurd (Option.some.inj h) (by decide)
    | tab => exact fun h => absurd (Option.some.inj h) (by decide)
    | ideographic => exact fun h => absurd (Option.some.inj h) (by decide)

theorem FileLine.line?_empty {line : FileLine} (h : line.text = []) : line.line? = none := by
  cases line with
  | comment text honeLine => rfl
  | blank pad => rfl
  | record r => simp [FileLine.text, FileRecord.text] at h

theorem FileLine.oneLine (line : FileLine) : newline ∉ line.text := by
  cases line with
  | comment text h => exact fun hmem => (List.mem_cons.mp hmem).elim (by decide) h
  | blank pad => exact (clean_pad pad).oneLine
  | record r => exact r.clean.oneLine

end Text

section Lines

variable {n : Nat} {text tail : Bytes}

-- what follows a line: the end of the file, or a newline and the next lines
def Ends (tail : Bytes) : Prop := tail = [] ∨ ∃ rest, tail = newline :: rest

theorem Ends.newline_only (h : Ends tail) : tail.take 1 = [] ∨ tail.take 1 = [newline] := by
  rcases h with rfl | ⟨rest, rfl⟩
  · exact .inl rfl
  · exact .inr rfl

theorem fgets_text (h : newline ∉ text) (htail : Ends tail) :
    fgets n (text ++ tail) = if text.length < n then (text ++ tail.take 1, tail.drop 1)
      else (text.take n, text.drop n ++ tail) := by
  induction text generalizing n with
  | nil =>
    cases n with
    | zero => rfl
    | succ n =>
      rcases htail with rfl | ⟨rest, rfl⟩
      · rfl
      · rfl
  | cons byte text ih =>
    cases n with
    | zero => rfl
    | succ n =>
      have hbyte : byte ≠ newline := fun heq => h (heq ▸ List.mem_cons_self)
      rw [List.cons_append, fgets, if_neg hbyte, ih fun hmem => h (List.mem_cons_of_mem _ hmem)]
      simp only [List.length_cons, Nat.add_lt_add_iff_right]
      split_ifs
      · rfl
      · rfl

theorem fgets_shorter {file : Bytes} (h : file ≠ []) :
    (fgets (n + 1) file).2.length < file.length := by
  induction file generalizing n with
  | nil => exact absurd rfl h
  | cons c file ih =>
    rw [fgets]
    split_ifs
    · exact Nat.lt_succ_self _
    · cases n with
      | zero => exact Nat.lt_succ_self _
      | succ n =>
        cases file with
        | nil => exact Nat.zero_lt_one
        | cons d file => exact Nat.lt_succ_of_lt (ih (List.cons_ne_nil d file))

end Lines

structure PredefinedFile where
  lines : List FileLine
  last : FileLine
  deriving DecidableEq, Repr

namespace PredefinedFile

def text (file : PredefinedFile) : Bytes :=
  file.lines.flatMap (fun line => line.text ++ [newline]) ++ file.last.text

def entries (file : PredefinedFile) : List PredefinedLine :=
  file.lines.filterMap FileLine.line? ++ file.last.line?.toList

-- `fgets` cuts no line in front of anything but blanks
structure Fits (file : PredefinedFile) : Prop where
  lines : ∀ line ∈ file.lines, ∀ byte ∈ line.text.drop lineLimit, byte ∈ blanks
  last : ∀ byte ∈ file.last.text.drop lineLimit, byte ∈ blanks

theorem fits_short {file : PredefinedFile} (hlines : ∀ line ∈ file.lines, line.text.length ≤ lineLimit)
    (hlast : file.last.text.length ≤ lineLimit) : file.Fits where
  lines line hline := by
    rw [List.drop_of_length_le (hlines line hline)]
    exact nofun
  last := by
    rw [List.drop_of_length_le hlast]
    exact nofun

end PredefinedFile

section Reading

abbrev bufs (file : Bytes) : List Bytes := readLines file.length file

theorem readLines_fuel {fuel : Nat} {file : Bytes} (h : file.length ≤ fuel) :
    readLines fuel file = bufs file := by
  induction fuel using Nat.strong_induction_on generalizing file with
  | _ fuel ih =>
    cases file with
    | nil =>
      cases fuel with
      | zero => rfl
      | succ fuel => rfl
    | cons c file =>
      obtain ⟨fuel, rfl⟩ := Nat.exists_eq_add_of_le' (Nat.succ_le_of_lt (Nat.lt_of_lt_of_le (Nat.succ_pos _) h))
      have hshorter : (fgets lineLimit (c :: file)).2.length ≤ file.length :=
        Nat.le_of_lt_succ (fgets_shorter (List.cons_ne_nil c file))
      have hfile : file.length ≤ fuel := Nat.le_of_succ_le_succ h
      rw [bufs, List.length_cons, readLines, readLines, ih fuel (Nat.lt_succ_self _)
        (hshorter.trans hfile)]
      rcases Nat.eq_or_lt_of_le hfile with heq | hlt
      · rw [heq, ih fuel (Nat.lt_succ_self _) (hshorter.trans hfile)]
      · rw [ih file.length (Nat.lt_succ_of_lt hlt) hshorter]

theorem bufs_next {file : Bytes} (h : file ≠ []) :
    bufs file = (fgets lineLimit file).1 :: bufs (fgets lineLimit file).2 := by
  have hshorter : (fgets lineLimit file).2.length < file.length := fgets_shorter h
  cases file with
  | nil => exact absurd rfl h
  | cons c file => rw [bufs, List.length_cons, readLines, readLines_fuel (Nat.le_of_lt_succ hshorter)]

def covers (stored given : Bytes) : Bool := strncmpEqual given.length stored given

namespace PredefinedList

def stored (aggregate : Bool) (list : PredefinedList) (line : PredefinedLine) : PredefinedList :=
  if MAX_CLIENTS < list.clients.length then list
  else
    { list with
      clients := place PredefinedClient.clientId covers (newClient aggregate)
        (addTopic line.topicName line.topicID) line.id list.clients }

variable {list : PredefinedList} {aggregate : Bool}

theorem createPredefinedTopic_heap (h : list.authorize = false) (id topic : Bytes) (n : UInt16) :
    list.createPredefinedTopic (.heap id) topic n aggregate =
      some (list.stored aggregate ⟨id, topic, n⟩) := by
  have hplace : place PredefinedClient.clientId covers (newClient aggregate) (addTopic topic n) id
      list.clients = _ := place_findIdx?
  have hfind : list.clients.findIdx? (fun client => covers client.clientId id) =
      list.getClient id := rfl
  rw [hfind] at hplace
  simp only [createPredefinedTopic, reduceCtorEq, if_false, h, Bool.false_and, Bool.false_eq_true,
    CharPointer.text, stored, hplace]
  split_ifs
  · rfl
  · cases list.getClient id with
    | none => rfl
    | some i => rfl

theorem stored_authorize (line : PredefinedLine) :
    (list.stored aggregate line).authorize = list.authorize := by
  rw [stored]
  split_ifs
  · rfl
  · rfl

theorem strip_blank {bytes : Bytes} (h : ∀ byte ∈ bytes, byte ∈ blanks) : strip bytes = [] := by
  rw [strip, List.filter_eq_nil_iff]
  intro byte hbyte
  simpa using h byte hbyte

theorem readLine_blank {buf : Bytes} (h : ∀ byte ∈ buf, byte ∈ blanks) :
    list.readLine aggregate buf = some list := by
  have hhead : ¬buf.head? = some hash := fun hhead =>
    absurd (h hash (List.mem_of_mem_head? hhead)) (by decide)
  have hclean : cStr buf = buf := cStr_eq fun hzero => absurd (h 0 hzero) (by decide)
  rw [readLine, if_neg hhead, hclean, strip_blank h]
  rfl

theorem readLine_line (h : list.authorize = false) (line : FileLine) {buf : Bytes}
    (hhead : buf.head? = some hash ↔ line.text.head? = some hash)
    (hstrip : Clean line.text → strip (cStr buf) = strip line.text) :
    list.readLine aggregate buf =
      some (line.line?.elim list fun entry => list.stored aggregate entry.stripped) := by
  cases line with
  | comment text honeLine => exact if_pos (hhead.mpr rfl)
  | blank pad =>
    have hplain : ¬(pad.flatMap Blank.bytes).head? = some hash := fun hmem =>
      absurd (mem_pad (List.mem_of_mem_head? hmem)) (by decide)
    rw [readLine, if_neg (mt hhead.mp hplain), hstrip (clean_pad pad), FileLine.text, strip_pad]
    rfl
  | record r =>
    have hid : cStr (strip r.id.bytes) = strip r.id.bytes :=
      cStr_eq fun hmem => r.id.clean.zero (mem_strip hmem)
    have hparse := parseLine_fields r.number r.id.comma_not_mem r.topic.comma_not_mem
    have hplain := r.head_text []
    rw [List.append_nil] at hplain
    rw [readLine, if_neg (mt hhead.mp hplain), hstrip r.clean, FileLine.text, r.strip_text]
    simp only [List.append_eq_nil_iff, List.cons_ne_nil, and_false, if_false, hparse, strdup, hid,
      createPredefinedTopic_heap h]
    rfl

theorem readLine_whole (h : list.authorize = false) (line : FileLine) {tail : Bytes}
    (htail : tail = [] ∨ tail = [newline]) : list.readLine aggregate (line.text ++ tail) =
      some (line.line?.elim list fun entry => list.stored aggregate entry.stripped) := by
  have hblank : ∀ byte ∈ tail, byte ∈ blanks := by
    rcases htail with rfl | rfl
    · exact nofun
    · exact List.forall_mem_singleton.mpr (by decide)
  refine readLine_line h line ?_ fun hclean => ?_
  · cases line.text with
    | nil =>
      refine iff_of_false (fun hhead => ?_) nofun
      exact absurd (hblank hash (List.mem_of_mem_head? hhead)) (by decide)
    | cons byte text => rfl
  · have hzero : 0 ∉ line.text ++ tail := by
      rw [List.mem_append, not_or]
      exact ⟨hclean.zero, fun hmem => absurd (hblank 0 hmem) (by decide)⟩
    rw [cStr_eq hzero, strip_append, strip_blank hblank, List.append_nil]

theorem readLine_cut (h : list.authorize = false) (line : FileLine)
    (hrest : ∀ byte ∈ line.text.drop lineLimit, byte ∈ blanks) :
    list.readLine aggregate (line.text.take lineLimit) =
      some (line.line?.elim list fun entry => list.stored aggregate entry.stripped) := by
  refine readLine_line h line ?_ fun hclean => ?_
  · rw [List.head?_take, if_neg (by decide)]
  · rw [cStr_eq fun hmem => hclean.zero (List.mem_of_mem_take hmem)]
    conv_rhs => rw [← List.take_append_drop lineLimit line.text, strip_append, strip_blank hrest,
      List.append_nil]

-- nothing is read from the blanks behind a cut line
theorem readAll_blank {pad tail : Bytes} (hpad : ∀ byte ∈ pad, byte ∈ blanks) (hline : newline ∉ pad)
    (htail : Ends tail) :
    readAll aggregate list (bufs (pad ++ tail)) = readAll aggregate list (bufs (tail.drop 1)) := by
  induction hn : pad.length using Nat.strong_induction_on generalizing pad with
  | _ n ih =>
    subst hn
    by_cases hempty : pad ++ tail = []
    · obtain ⟨rfl, rfl⟩ := List.append_eq_nil_iff.mp hempty
      rfl
    rw [bufs_next hempty, fgets_text hline htail]
    split_ifs with hshort
    · have hblank : ∀ byte ∈ pad ++ tail.take 1, byte ∈ blanks := by
        intro byte hbyte
        rcases List.mem_append.mp hbyte with hbyte | hbyte
        · exact hpad byte hbyte
        · rcases htail.newline_only with hnone | hone
          · simp [hnone] at hbyte
          · rw [hone, List.mem_singleton] at hbyte
            rw [hbyte]
            decide
      simp only [readAll, readLine_blank hblank]
    · have hdrop : (pad.drop lineLimit).length < pad.length := by
        have hpos : 0 < lineLimit := by decide
        rw [List.length_drop]
        omega
      simp only [readAll, readLine_blank fun byte hbyte => hpad byte (List.mem_of_mem_take hbyte)]
      exact ih _ hdrop (fun byte hbyte => hpad byte (List.mem_of_mem_drop hbyte))
        (fun hmem => hline (List.mem_of_mem_drop hmem)) rfl

def entered (aggregate : Bool) (list : PredefinedList) (line : FileLine) : PredefinedList :=
  line.line?.elim list fun entry => list.stored aggregate entry.stripped

theorem readAll_line (h : list.authorize = false) (line : FileLine) {tail : Bytes}
    (hfits : ∀ byte ∈ line.text.drop lineLimit, byte ∈ blanks) (htail : Ends tail) :
    readAll aggregate list (bufs (line.text ++ tail)) =
      readAll aggregate (list.entered aggregate line) (bufs (tail.drop 1)) := by
  by_cases hempty : line.text ++ tail = []
  · obtain ⟨htext, rfl⟩ := List.append_eq_nil_iff.mp hempty
    rw [entered, FileLine.line?_empty htext, htext]
    rfl
  rw [bufs_next hempty, fgets_text line.oneLine htail]
  split_ifs
  · simp only [readAll, readLine_whole h line htail.newline_only]
    rfl
  · simp only [readAll, readLine_cut h line hfits]
    exact readAll_blank hfits (fun hmem => line.oneLine (List.mem_of_mem_drop hmem)) htail

def loaded (aggregate : Bool) (list : PredefinedList) (entries : List PredefinedLine) :
    PredefinedList :=
  entries.foldl (stored aggregate) list

theorem entered_authorize (line : FileLine) :
    (list.entered aggregate line).authorize = list.authorize := by
  rw [entered]
  cases line.line? with
  | none => rfl
  | some entry => exact stored_authorize _

theorem entered_loaded (line : FileLine) (entries : List PredefinedLine) :
    (list.entered aggregate line).loaded aggregate entries =
      list.loaded aggregate (line.line?.toList.map PredefinedLine.stripped ++ entries) := by
  rw [entered]
  cases line.line? with
  | none => rfl
  | some entry => rfl

theorem readAll_lines (h : list.authorize = false) {lines : List FileLine} {last : FileLine}
    (hlines : ∀ line ∈ lines, ∀ byte ∈ line.text.drop lineLimit, byte ∈ blanks)
    (hlast : ∀ byte ∈ last.text.drop lineLimit, byte ∈ blanks) :
    readAll aggregate list
        (bufs (lines.flatMap (fun line => line.text ++ [newline]) ++ last.text)) =
      some (list.loaded aggregate
        ((lines.filterMap FileLine.line? ++ last.line?.toList).map PredefinedLine.stripped)) := by
  induction lines generalizing list with
  | nil =>
    have hread : readAll aggregate list (bufs (last.text ++ [])) = _ :=
      readAll_line h last hlast (.inl rfl)
    rw [List.append_nil] at hread
    rw [List.flatMap_nil, List.nil_append, hread]
    exact congrArg some ((entered_loaded last []).trans (by rw [List.append_nil]; rfl))
  | cons line lines ih =>
    rw [List.flatMap_cons, List.append_assoc, List.append_assoc, List.singleton_append,
      readAll_line h line (hlines line List.mem_cons_self) (.inr ⟨_, rfl⟩)]
    have hafter : readAll aggregate (list.entered aggregate line) (bufs _) = _ :=
      ih ((entered_authorize line).trans h)
        fun other hother => hlines other (List.mem_cons_of_mem _ hother)
    refine hafter.trans (congrArg some ((entered_loaded line _).trans ?_))
    rw [← List.map_append, ← List.append_assoc]
    cases hline : line.line? with
    | none => rw [List.filterMap_cons_none hline]; rfl
    | some entry => rw [List.filterMap_cons_some hline]; rfl

theorem readPredefinedList_file {file : PredefinedFile} (hfits : file.Fits) :
    initial.readPredefinedList (some file.text) aggregate =
      some (initial.loaded aggregate (file.entries.map PredefinedLine.stripped), true) := by
  have hread : readAll aggregate initial (bufs _) = _ := readAll_lines rfl hfits.lines hfits.last
  rw [readPredefinedList, PredefinedFile.text, hread]
  rfl

end PredefinedList

end Reading

end MbedMqtt.MQTTSNGW
