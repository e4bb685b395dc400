import MbedMqtt.Gateway.RingBuffer
import MbedMqtt.Library.Steps

namespace MbedMqtt.MQTTSNGW

inductive LogOp where
  | put (data : Bytes)
  | get (length : Nat)
  deriving DecidableEq, Repr

-- the ring buffer with all that was ever put into it and all that was ever taken out
structure Logging where
  ring : RingBuffer
  written : Bytes
  taken : Bytes
  deriving DecidableEq, Repr

namespace Logging

def initial : Logging := ⟨.create, [], []⟩

def unread (log : Logging) : Bytes := log.written.drop log.taken.length

def put (log : Logging) (data : Bytes) : Option Logging :=
  (log.ring.put data).map fun ring => ⟨ring, log.written ++ cStr data, log.taken⟩

def get (log : Logging) (length : Nat) : Option Logging :=
  (log.ring.get length).map fun got => ⟨got.1, log.written, log.taken ++ got.2⟩

def step (state : Option Logging) : LogOp → Option Logging
  | .put data => state.bind fun log => log.put data
  | .get length => state.bind fun log => log.get length

def Bounded (state : Option Logging) : LogOp → Prop
  | .put data => ∀ log ∈ state, log.unread.length + (cStr data).length < log.ring.length
  | .get _ => True

def Keeps (state : Option Logging) : LogOp → Prop
  | .put data => ∀ log ∈ state, log.ring.keepsPut (cStr data).length
  | .get length => ∀ log ∈ state, log.ring.keepsGet length

structure InOrder (log : Logging) : Prop where
  order : log.taken <+: log.written
  whole : ∀ length, log.ring.length ≤ length →
    ∃ ring, log.ring.get length = some (ring, log.unread)

def Faithful (state : Option Logging) : Prop := ∃ log, state = some log ∧ log.InOrder

structure Sound (log : Logging) : Prop where
  order : log.taken <+: log.written
  carries : log.ring.Carries log.unread

end Logging

namespace RingBuffer

variable {ring : RingBuffer} {q : Bytes}

theorem Carries.length_lt (h : ring.Carries q) : q.length < ring.length := by
  have hinside := h.inside
  have hroom := h.room
  rcases h.form with hform | hform | ⟨front, rest, rfl, hform⟩
  · have hstop := hform.stop
    omega
  · rw [hform.nothing, List.length_nil]
    omega
  · have hbehind := hform.behind
    have hfront := hform.frontEnd
    rw [List.length_append, hform.restEnd]
    omega

theorem Carries.keepsGet_long (h : ring.Carries q) {n : Nat} (hn : ring.length ≤ n) :
    ring.keepsGet n := by
  have hinside := h.inside
  have hroom := h.room
  have hlength := h.length_lt
  rcases h.form with hform | hform | ⟨front, rest, rfl, hform⟩
  · rw [keepsGet]
    split_ifs <;> omega
  · rw [keepsGet]
    split_ifs <;> omega
  · have hbehind := hform.behind
    have hfront := hform.frontEnd
    rw [keepsGet, if_neg (by omega), if_pos hbehind]
    omega

theorem Carries.whole (h : ring.Carries q) {n : Nat} (hn : ring.length ≤ n) :
    ∃ after, ring.get n = some (after, q) := by
  obtain ⟨after, hget, -⟩ := h.get (h.keepsGet_long hn)
  rw [List.take_of_length_le (Nat.le_trans (Nat.le_of_lt h.length_lt) hn)] at hget
  exact ⟨after, hget⟩

-- what a `get` leaves where it does not keep the bytes in order
structure Stranded (ring : RingBuffer) (q : Bytes) (n : Nat) (after : RingBuffer) (bytes : Bytes) :
    Prop where
  length : after.length = ring.length
  inside : after.stop ≤ after.length
  marked : after.start + 1 = after.stop
  bytes : bytes = q.take n
  left : q.length = n + 1

theorem Carries.get_stranded (h : ring.Carries q) {n : Nat} (hn : ¬ring.keepsGet n) :
    (q = [] ∧ ∀ after bytes, ring.get n = some (after, bytes) → bytes.length = 1) ∨
      ∃ after bytes, ring.get n = some (after, bytes) ∧ ring.Stranded q n after bytes := by
  have hinside := h.inside
  have hbounded := h.bounded
  rcases h.form with hform | hform | ⟨front, rest, rfl, hform⟩
  · have hstop := hform.stop
    have hone := hform.unmarked
    rcases Nat.eq_zero_or_pos q.length with hempty | hpos
    · rw [keepsGet, if_neg (by omega), if_neg (by omega)] at hn
      exact absurd trivial hn
    rw [keepsGet, if_pos (by omega), if_neg (by omega), not_not] at hn
    have hleft : q.length = n + 1 := by omega
    refine .inr ⟨_, _, hform.getSome h.clean (by omega) hpos (by omega), rfl,
      Nat.le_of_lt hinside, ?_, rfl, hleft⟩
    simp only
    omega
  · have hstop := hform.stop
    rw [keepsGet, if_pos (by omega), if_pos (by omega), not_not] at hn
    obtain rfl := hn
    refine .inl ⟨hform.nothing, ?_⟩
    intro after bytes hget
    rw [RingBuffer.get, if_pos (by omega), if_neg (by omega)] at hget
    exact copied_length hget
  · have hbehind := hform.behind
    have hfront := hform.frontEnd
    have hrest := hform.restEnd
    rw [keepsGet, if_neg (by omega), if_pos hbehind, not_or, not_le, not_not] at hn
    refine .inr ⟨_, _, hform.getMiddle h.clean hbounded (by omega) (by omega), rfl,
      Nat.le_of_lt hinside, ?_, ?_, ?_⟩
    · simp only
      omega
    · rw [List.take_append, List.take_of_length_le (l := front) (by omega)]
    · rw [List.length_append]
      omega

-- where a `put` leaves a number of bytes other than those it was to leave
structure Misplaced (ring after : RingBuffer) (n : Nat) : Prop where
  length : after.length = ring.length
  start : after.start ≤ after.length
  stop : after.stop ≤ after.length
  span : after.span ≠ n

variable {after : RingBuffer} {n : Nat}

theorem span_marked (h : ring.start + 1 = ring.stop) : ring.span = 0 := by
  rw [span, if_pos (by omega), if_pos (by omega)]

theorem misplaced_marked (hlength : after.length = ring.length)
    (hmarked : after.start + 1 = after.stop) (hstop : after.stop ≤ ring.length) (hn : 0 < n) :
    ring.Misplaced after n := by
  refine ⟨hlength, by omega, by omega, ?_⟩
  rw [span_marked hmarked]
  omega

-- `put` counts the buffer as full
theorem misplaced_full (hlength : after.length = ring.length)
    (hfull : after.stop + 1 = after.start) (hstart : after.start ≤ ring.length)
    (hn : n + 1 ≠ ring.length) : ring.Misplaced after n := by
  refine ⟨hlength, by omega, by omega, ?_⟩
  rw [span, if_neg (by omega), if_pos (by omega)]
  omega

theorem misplaced_error (h : ring.Sized) {data : Bytes} (hsame : ring.stop = ring.start)
    (hwraps : ring.length ≤ ring.stop + (cStr data).length)
    (hdlen : (cStr data).length < ring.length) (hput : ring.put data = some after) :
    ring.Misplaced after (cStr data).length := by
  have hsized := h.sized
  have hbounded := h.bounded
  have herror := (put_error h hwraps hdlen hsame).symm.trans hput
  obtain ⟨written, hwrite, rfl⟩ := Option.map_eq_some_iff.mp herror
  rw [write] at hwrite
  split_ifs at hwrite with hin
  obtain rfl := Option.some.inj hwrite
  have hroom : ring.stop + 35 ≤ ring.length := hsized ▸ hin
  have hstop : uint16 (ring.stop + errmsg.length) = ring.stop + 34 := uint16_eq (by
    change ring.stop + 34 < 65536
    omega)
  rw [hstop]
  refine ⟨rfl, ?_, ?_, ?_⟩
  · simp only
    omega
  · simp only
    omega
  · rw [span, if_pos (by simp only; omega), if_neg (by simp only; omega)]
    simp only
    omega

theorem Straight.put_misplaced (hform : ring.Straight q) (h : ring.Carries q) {data : Bytes}
    (hroom : q.length + (cStr data).length < ring.length)
    (hkeeps : ¬ring.keepsPut (cStr data).length) (hput : ring.put data = some after) :
    ring.Misplaced after (q.length + (cStr data).length) := by
  have hinside := h.inside
  have hstop := hform.stop
  have hone := hform.unmarked
  rcases Nat.lt_or_ge (ring.stop + (cStr data).length) ring.length with hfits | hwraps
  · have hsame : ring.stop = ring.start ∧ (cStr data).length = 1 := by
      unfold keepsPut at hkeeps
      split_ifs at hkeeps <;> omega
    obtain rfl := Option.some.inj ((put_fits h.toSized hfits).symm.trans hput)
    rw [if_neg (by omega), if_pos hsame.1]
    refine misplaced_marked rfl ?_ (Nat.le_of_lt hfits) (by omega)
    simp only [placed]
    omega
  · rcases Nat.eq_zero_or_pos q.length with hempty | hpos
    · rw [hempty, Nat.zero_add]
      exact misplaced_error h.toSized (by omega) hwraps (by omega) hput
    · have hahead : ring.start < ring.stop := by omega
      have hspan : ring.stop - ring.start ≠ 1 := by omega
      rw [keepsPut, if_pos hahead, if_neg hspan, not_or] at hkeeps
      obtain rfl := Option.some.inj
        ((put_wraps h.toSized hwraps (by omega) hahead).symm.trans hput)
      rw [if_neg hspan]
      refine misplaced_full rfl rfl ?_ (by omega)
      simp only [split]
      omega

theorem Carries.put_misplaced (h : ring.Carries q) {data : Bytes}
    (hroom : q.length + (cStr data).length < ring.length)
    (hkeeps : ¬ring.keepsPut (cStr data).length) (hput : ring.put data = some after) :
    ring.Misplaced after (q.length + (cStr data).length) := by
  have hinside := h.inside
  rcases h.form with hform | hform | ⟨front, rest, rfl, hform⟩
  · exact hform.put_misplaced h hroom hkeeps hput
  · obtain rfl := hform.nothing
    have hstop := hform.stop
    have hahead : ring.start < ring.stop := by omega
    have hspan : ring.stop - ring.start = 1 := by omega
    rw [keepsPut, if_pos hahead, if_pos hspan, not_or, not_not] at hkeeps
    have hfits : ring.stop + (cStr data).length < ring.length := by omega
    obtain rfl := Option.some.inj ((put_fits h.toSized hfits).symm.trans hput)
    rw [if_pos hahead, if_pos hspan]
    refine misplaced_marked rfl ?_ (Nat.le_of_lt hfits) (by omega)
    simp only [placed]
    omega
  · have hbehind := hform.behind
    have hfront := hform.frontEnd
    have hrest := hform.restEnd
    rw [List.length_append] at hroom ⊢
    rw [keepsPut, if_neg (by omega), if_neg (by omega)] at hkeeps
    have hfits : ring.stop + (cStr data).length < ring.length := by omega
    obtain rfl := Option.some.inj ((put_fits h.toSized hfits).symm.trans hput)
    rw [if_neg (by omega), if_neg (by omega)]
    refine misplaced_full rfl rfl ?_ (by omega)
    simp only [placed]
    omega

end RingBuffer

namespace Logging

variable {log after : Logging} {data : Bytes} {n : Nat}

theorem unread_append (h : log.taken <+: log.written) : log.taken ++ log.unread = log.written := by
  obtain ⟨rest, hrest⟩ := h
  rw [unread, ← hrest, List.drop_left]

theorem Sound.faithful (h : log.Sound) : Faithful (some log) :=
  ⟨log, rfl, h.order, fun _ hn => h.carries.whole hn⟩

theorem Faithful.inOrder (h : Faithful (some log)) : log.InOrder := by
  obtain ⟨other, heq, horder⟩ := h
  exact Option.some.inj heq ▸ horder

section Entries

variable {ring : RingBuffer} {written taken : Bytes}

theorem InOrder.length_le (h : InOrder ⟨ring, written, taken⟩) : taken.length ≤ written.length :=
  h.order.length_le

theorem InOrder.span (h : InOrder ⟨ring, written, taken⟩) (hroom : 1 < ring.length)
    (hstart : ring.start ≤ ring.length) (hstop : ring.stop ≤ ring.length) :
    ring.span = written.length - taken.length := by
  obtain ⟨after, hget⟩ := h.whole _ (Nat.le_refl _)
  rw [← RingBuffer.get_length hroom hstart hstop hget]
  exact List.length_drop

end Entries

theorem Sound.put (h : log.Sound) (hroom : log.unread.length + (cStr data).length < log.ring.length)
    (hkeeps : log.ring.keepsPut (cStr data).length) :
    ∃ after, log.put data = some after ∧ after.Sound := by
  obtain ⟨ring, hput, -, hcarries⟩ := h.carries.put hroom hkeeps
  refine ⟨⟨ring, log.written ++ cStr data, log.taken⟩, ?_, h.order.trans (List.prefix_append _ _), ?_⟩
  · rw [Logging.put, hput]
    rfl
  · have hunread : unread ⟨ring, log.written ++ cStr data, log.taken⟩ = log.unread ++ cStr data :=
      List.drop_append_of_le_length h.order.length_le
    rwa [hunread]

theorem Sound.get (h : log.Sound) (hkeeps : log.ring.keepsGet n) :
    ∃ after, log.get n = some after ∧ after.Sound := by
  obtain ⟨ring, hget, -, hcarries⟩ := h.carries.get hkeeps
  have hwritten := unread_append h.order
  refine ⟨⟨ring, log.written, log.taken ++ log.unread.take n⟩, ?_, ⟨log.unread.drop n, ?_⟩, ?_⟩
  · rw [Logging.get, hget]
    rfl
  · rw [List.append_assoc, List.take_append_drop, hwritten]
  · have hunread : log.written.drop (log.taken ++ log.unread.take n).length =
        log.unread.drop n := by
      rw [← hwritten, List.length_append, ← List.drop_drop, List.drop_left]
      rcases Nat.le_total n log.unread.length with hle | hge
      · rw [List.length_take_of_le hle]
      · rw [List.take_of_length_le hge, List.drop_length, List.drop_eq_nil_of_le hge]
    change ring.Carries (log.written.drop (log.taken ++ log.unread.take n).length)
    rwa [hunread]

theorem Sound.put_iff (h : log.Sound)
    (hroom : log.unread.length + (cStr data).length < log.ring.length) :
    Faithful (log.put data) ↔ log.ring.keepsPut (cStr data).length := by
  constructor
  · intro hfaithful
    by_contra hkeeps
    obtain ⟨after, hput, hafter⟩ := hfaithful
    obtain ⟨ring, hring, rfl⟩ := Option.map_eq_some_iff.mp hput
    obtain ⟨hlength, hstart, hstop, hspan⟩ := h.carries.put_misplaced hroom hkeeps hring
    apply hspan
    have htaken := h.order.length_le
    rw [InOrder.span hafter (hlength ▸ h.carries.room) hstart hstop, unread, List.length_append,
      List.length_drop]
    omega
  · intro hkeeps
    obtain ⟨after, hput, hsound⟩ := h.put hroom hkeeps
    exact hput ▸ hsound.faithful

theorem Sound.get_iff (h : log.Sound) : Faithful (log.get n) ↔ log.ring.keepsGet n := by
  constructor
  · intro hfaithful
    by_contra hkeeps
    obtain ⟨after, hget, hafter⟩ := hfaithful
    obtain ⟨⟨ring, bytes⟩, hring, rfl⟩ := Option.map_eq_some_iff.mp hget
    have hunread : log.unread.length = log.written.length - log.taken.length := List.length_drop
    rcases h.carries.get_stranded hkeeps with ⟨hempty, hone⟩ | ⟨other, got, hother, hstranded⟩
    · have hmore := InOrder.length_le hafter
      rw [List.length_append, hone _ _ hring] at hmore
      rw [hempty, List.length_nil] at hunread
      omega
    · obtain ⟨rfl, rfl⟩ := Prod.mk.inj (Option.some.inj (hring.symm.trans hother))
      have hmarked := hstranded.marked
      have hinside := hstranded.inside
      have hleft := hstranded.left
      have hstart : ring.start ≤ ring.length := by omega
      have hspan := InOrder.span hafter (hstranded.length ▸ h.carries.room) hstart hinside
      rw [RingBuffer.span_marked hmarked, hstranded.bytes, List.length_append,
        List.length_take_of_le (by omega)] at hspan
      omega
  · intro hkeeps
    obtain ⟨after, hget, hsound⟩ := h.get hkeeps
    exact hget ▸ hsound.faithful

theorem initial_sound : initial.Sound where
  order := List.prefix_refl []
  carries :=
    { sized := List.length_replicate
      bounded := by decide
      room := by decide
      inside := by decide
      clean := List.not_mem_nil
      form := .inl ⟨rfl, by decide, List.nil_prefix⟩ }

theorem initial_room (h : (cStr data).length < 16344) :
    initial.unread.length + (cStr data).length < initial.ring.length := by
  rw [show initial.unread = [] from rfl, List.length_nil, Nat.zero_add]
  exact h

theorem initial_bounded (h : (cStr data).length < 16344) : Bounded (some initial) (.put data) := by
  rintro - ⟨rfl⟩
  exact initial_room h

end Logging

theorem logRing_fifo_iff (ops : List LogOp)
    (hbounded : Steps Logging.step Logging.Bounded (some .initial) ops) :
    (∀ n, Logging.Faithful ((ops.take n).foldl Logging.step (some .initial))) ↔
      Steps Logging.step Logging.Keeps (some .initial) ops := by
  refine Steps.iff_prefixes_bounded (J := fun state => ∃ log, state = some log ∧ log.Sound) ?_ ?_
    ⟨_, rfl, Logging.initial_sound⟩ Logging.initial_sound.faithful hbounded
  · rintro - op ⟨log, rfl, hsound⟩ hbound hkeeps
    cases op with
    | put data => exact hsound.put (hbound log rfl) (hkeeps log rfl)
    | get length => exact hsound.get (hkeeps log rfl)
  · rintro - op ⟨log, rfl, hsound⟩ hbound
    cases op with
    | put data =>
      rw [Logging.step, Option.bind_some, hsound.put_iff (hbound log rfl)]
      simp [Logging.Keeps]
    | get length =>
      rw [Logging.step, Option.bind_some, hsound.get_iff]
      simp [Logging.Keeps]

section Wrap

variable {filling wrapping : Bytes}

def filled (filling : Bytes) : RingBuffer := RingBuffer.create.placed filling 0

def drained (filling : Bytes) : RingBuffer := { filled filling with start := (filled filling).stop - 1 }

-- four of the ten bytes fit in front of the end of the buffer
structure Wraps (filling wrapping : Bytes) : Prop where
  filling : 0 ∉ filling ∧ filling.length = 16340
  wrapping : 0 ∉ wrapping ∧ wrapping.length = 10

theorem filled_carries (h : 0 ∉ filling ∧ filling.length = 16340) :
    (filled filling).Carries filling := by
  have hcarries : (filled filling).Carries ([] ++ cStr filling) := by
    refine RingBuffer.carries_placed Logging.initial_sound.carries rfl List.nil_prefix ?_ ?_
    · rw [List.nil_append, cStr_eq h.1, h.2]
      decide
    · rw [cStr_eq h.1, h.2]
      decide
  rwa [List.nil_append, cStr_eq h.1] at hcarries

theorem put_filling (h : 0 ∉ filling ∧ filling.length = 16340) :
    Logging.step (some .initial) (.put filling) = some ⟨filled filling, filling, []⟩ := by
  have hfits : RingBuffer.create.stop + (cStr filling).length < RingBuffer.create.length := by
    rw [cStr_eq h.1, h.2]
    decide
  rw [Logging.step, Option.bind_some, Logging.put,
    RingBuffer.put_fits Logging.initial_sound.carries.toSized hfits, Option.map_some, cStr_eq h.1]
  rfl

theorem get_filling (h : 0 ∉ filling ∧ filling.length = 16340) :
    Logging.step (some ⟨filled filling, filling, []⟩) (.get 16344) =
      some ⟨drained filling, filling, filling⟩ := by
  have hcarries := filled_carries h
  have hpos : 0 < filling.length := by omega
  have hstraight : (filled filling).Straight filling := by
    rcases hcarries.form with hstraight | ⟨-, hempty⟩ | ⟨front, rest, -, hwrapped⟩
    · exact hstraight
    · rw [hempty] at hpos
      exact absurd hpos (Nat.lt_irrefl 0)
    · exact absurd hwrapped.behind (Nat.not_lt_zero _)
  rw [Logging.step, Option.bind_some, Logging.get,
    hstraight.getAll hcarries.clean hpos (by omega)]
  rfl

theorem drained_sized (h : 0 ∉ filling ∧ filling.length = 16340) : (drained filling).Sized :=
  ⟨(filled_carries h).sized, (filled_carries h).bounded, (filled_carries h).room,
    (filled_carries h).inside⟩

theorem drained_stop (h : 0 ∉ filling ∧ filling.length = 16340) :
    (drained filling).start = 16339 ∧ (drained filling).stop = 16340 := by
  have hstop : (filled filling).stop = 16340 := by
    rw [filled, RingBuffer.placed, cStr_eq h.1, h.2]
    rfl
  exact ⟨by rw [drained, hstop], hstop⟩

theorem put_wrapping (h : Wraps filling wrapping) :
    Logging.step (some ⟨drained filling, filling, filling⟩) (.put wrapping) =
      some ⟨(drained filling).split wrapping 16340, filling ++ wrapping, filling⟩ := by
  obtain ⟨hstart, hstop⟩ := drained_stop h.filling
  have hlength : (drained filling).length = 16344 := rfl
  rw [Logging.step, Option.bind_some, Logging.put, RingBuffer.put_wraps (drained_sized h.filling)
    (by rw [hlength, hstop, cStr_eq h.wrapping.1, h.wrapping.2]; decide)
    (by rw [hlength, cStr_eq h.wrapping.1, h.wrapping.2]; decide) (by rw [hstart, hstop]; decide),
    Option.map_some, cStr_eq h.wrapping.1, hstart, hstop]
  rfl

theorem wrap_bounded (h : Wraps filling wrapping) : Steps Logging.step Logging.Bounded (some .initial)
    [.put filling, .get 16344, .put wrapping, .get 16344] := by
  refine ⟨Logging.initial_bounded ?_, trivial, ?_, trivial, trivial⟩
  · rw [cStr_eq h.filling.1, h.filling.2]
    decide
  · rw [put_filling h.filling, get_filling h.filling]
    rintro - ⟨rfl⟩
    rw [Logging.unread, List.drop_length, cStr_eq h.wrapping.1, h.wrapping.2]
    exact (by decide : 0 + 10 < 16344)

theorem wrap_keeps (h : Wraps filling wrapping) : Steps Logging.step Logging.Keeps (some .initial)
    [.put filling, .get 16344, .put wrapping, .get 16344] := by
  obtain ⟨hstart, hstop⟩ := drained_stop h.filling
  refine ⟨?_, ?_, ?_, ?_, trivial⟩
  · rintro - ⟨rfl⟩
    rw [cStr_eq h.filling.1, h.filling.2, RingBuffer.keepsPut, if_neg (by decide),
      if_pos (by decide)]
    exact ⟨by decide, by decide⟩
  · rw [put_filling h.filling]
    rintro - ⟨rfl⟩
    exact (filled_carries h.filling).keepsGet_long (Nat.le_refl _)
  · rw [put_filling h.filling, get_filling h.filling]
    rintro - ⟨rfl⟩
    rw [cStr_eq h.wrapping.1, h.wrapping.2, RingBuffer.keepsPut, hstart, hstop,
      if_pos (by decide), if_pos (by decide)]
    exact .inl (by decide)
  · rw [put_filling h.filling, get_filling h.filling, put_wrapping h]
    rintro - ⟨rfl⟩
    have hlength : (drained filling).length = 16344 := rfl
    simp only [RingBuffer.keepsGet, RingBuffer.split, hlength, hstop, cStr_eq h.wrapping.1,
      h.wrapping.2]
    decide

end Wrap

def wrapOps : List LogOp :=
  [.put (List.replicate 16340 0x61), .get 16344, .put (List.replicate 10 0x62), .get 16344]

theorem logRing_fifo_wrap : Steps Logging.step Logging.Bounded (some .initial) wrapOps ∧
    ∀ n, Logging.Faithful ((wrapOps.take n).foldl Logging.step (some .initial)) := by
  have hwraps : Wraps (List.replicate 16340 0x61) (List.replicate 10 0x62) := by
    refine ⟨⟨?_, List.length_replicate⟩, ⟨by decide, List.length_replicate⟩⟩
    exact fun hzero => absurd (List.eq_of_mem_replicate hzero) (by decide)
  exact ⟨wrap_bounded hwraps,
    (logRing_fifo_iff wrapOps (wrap_bounded hwraps)).mpr (wrap_keeps hwraps)⟩

theorem singleByte_unread :
    Steps Logging.step Logging.Bounded (some .initial) [.put [0x61]] ∧
      ¬Logging.Faithful ([LogOp.put [0x61]].foldl Logging.step (some .initial)) := by
  have hroom : (cStr [0x61]).length < 16344 := by decide
  have hahead : ¬Logging.initial.ring.start < Logging.initial.ring.stop := Nat.lt_irrefl 0
  have hsame : Logging.initial.ring.stop = Logging.initial.ring.start := rfl
  refine ⟨⟨Logging.initial_bounded hroom, trivial⟩, ?_⟩
  rw [List.foldl_cons, List.foldl_nil, Logging.step, Option.bind_some,
    Logging.initial_sound.put_iff (Logging.initial_room hroom), RingBuffer.keepsPut,
    if_neg hahead, if_pos hsame]
  exact fun hkeeps => hkeeps.1 rfl

end MbedMqtt.MQTTSNGW
