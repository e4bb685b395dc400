import MbedMqtt.Gateway.Topic
import MbedMqtt.Packet.Store

namespace MbedMqtt.MQTTSNGW

def PROCESS_LOG_BUFFER_SIZE : Nat := 16384

-- `sizeof(uint16_t*)`
def pointerSize : Nat := 8

-- the three numbers stand at `uint16_t` pointers, each `pointerSize` elements after the last
def bufferOffset : Nat := 2 * pointerSize + 2 * pointerSize + pointerSize

def uint16 (n : Nat) : Nat := n % 65536

-- a negative count is a huge `size_t`, and a source without its NUL is read past its end
def strncpy (source : Bytes) (n : Int) : Option Bytes :=
  if n < 0 then none
  else
    let text := cStr (source.take n.toNat)
    if text.length = n.toNat ∨ text.length < source.length then
      some (text ++ List.replicate (n.toNat - text.length) 0)
    else none

structure RingBuffer where
  length : Nat
  start : Nat
  stop : Nat
  buffer : Bytes
  deriving DecidableEq, Repr

namespace RingBuffer

def create : RingBuffer where
  length := PROCESS_LOG_BUFFER_SIZE - pointerSize * 3 - 16
  start := 0
  stop := 0
  buffer := List.replicate (PROCESS_LOG_BUFFER_SIZE - bufferOffset) 0

-- "RingBuffer Error: data is too long"
def errmsg : Bytes :=
  [82, 105, 110, 103, 66, 117, 102, 102, 101, 114, 32, 69, 114, 114, 111, 114, 58, 32, 100, 97,
    116, 97, 32, 105, 115, 32, 116, 111, 111, 32, 108, 111, 110, 103]

def write (ring : RingBuffer) (i : Nat) (bytes : Bytes) : Option RingBuffer :=
  if i + bytes.length ≤ ring.buffer.length then
    some { ring with buffer := store ring.buffer i bytes }
  else none

def copyIn (ring : RingBuffer) (i : Nat) (source : Bytes) (n : Nat) : Option RingBuffer :=
  (strncpy source n).bind (ring.write i)

def copyOut (ring : RingBuffer) (i : Nat) (n : Int) : Option Bytes :=
  strncpy (ring.buffer.drop i) n

def put (ring : RingBuffer) (data : Bytes) : Option RingBuffer :=
  let source := cStr data ++ [0]
  let dlen := uint16 (cStr data).length
  let blen := uint16 (65536 + ring.length - ring.stop)
  if ring.start < ring.stop then
    if dlen < blen then
      (ring.copyIn ring.stop source dlen).map fun after =>
        { after with
          start := if ring.stop - ring.start = 1 then ring.stop else ring.start
          stop := uint16 (ring.stop + dlen) }
    else
      ((ring.copyIn ring.stop source blen).bind fun after =>
        after.copyIn 0 (source.drop blen) (dlen - blen)).map fun after =>
          { after with
            start := if ring.stop - ring.start = 1 then ring.stop else uint16 (dlen - blen + 1)
            stop := dlen - blen }
  else if ring.stop = ring.start then
    if dlen < blen then
      (ring.copyIn ring.stop source dlen).map fun after =>
        { after with stop := uint16 (ring.stop + dlen) }
    else
      (ring.write ring.stop (errmsg ++ [0])).map fun after =>
        { after with stop := uint16 (ring.stop + errmsg.length) }
  else if dlen < ring.start - ring.stop then
    (ring.copyIn ring.stop source dlen).map fun after =>
      { after with
        start := uint16 (uint16 (ring.stop + dlen) + 1)
        stop := uint16 (ring.stop + dlen) }
  else if dlen < blen then
    (ring.copyIn ring.stop source dlen).map fun after =>
      { after with
        start := uint16 (uint16 (ring.stop + dlen) + 1)
        stop := uint16 (ring.stop + dlen) }
  else
    ((ring.copyIn ring.stop source blen).bind fun after =>
      after.copyIn 0 (source.drop blen) (dlen - blen)).map fun after =>
        { after with
          start := ring.stop
          stop := dlen - blen }

def get (ring : RingBuffer) (length : Nat) : Option (RingBuffer × Bytes) :=
  if ring.start < ring.stop then
    if ring.stop - ring.start < length then
      let len := if ring.stop - ring.start = 1 then 0 else ring.stop - ring.start
      (ring.copyOut ring.start len).map fun buf => ({ ring with start := ring.stop - 1 }, buf)
    else
      (ring.copyOut ring.start length).map fun buf =>
        ({ ring with start := uint16 (ring.start + length) }, buf)
  else if ring.stop < ring.start then
    let blen : Int := ring.length - ring.start
    if blen < length then
      (ring.copyOut ring.start blen).bind fun buf =>
        if 0 < length - (blen + ring.stop) then
          (ring.copyOut 0 ring.stop).map fun rest =>
            ({ ring with start := if 0 < ring.stop then ring.stop - 1 else 0 }, buf ++ rest)
        else
          (ring.copyOut 0 (length - blen)).map fun rest =>
            ({ ring with start := uint16 (length - blen).toNat }, buf ++ rest)
    else
      (ring.copyOut ring.start length).map fun buf =>
        ({ ring with start := uint16 (ring.start + length) }, buf)
  else some (ring, [])

end RingBuffer

section Strncpy

variable {source text : Bytes} {n : Nat}

theorem strncpy_take (hn : n ≤ source.length) (h : 0 ∉ source.take n) :
    strncpy source n = some (source.take n) := by
  have hlength : (source.take n).length = n := List.length_take_of_le hn
  rw [strncpy, if_neg (by omega)]
  simp only [Int.toNat_natCast, cStr_eq h, hlength, true_or, if_true, Nat.sub_self,
    List.replicate_zero, List.append_nil]

theorem strncpy_prefix (h : text <+: source) (hn : n ≤ text.length) (hclean : 0 ∉ text) :
    strncpy source n = some (text.take n) := by
  obtain ⟨rest, rfl⟩ := h
  have htake : (text ++ rest).take n = text.take n := List.take_append_of_le_length hn
  rw [strncpy_take (by rw [List.length_append]; omega), htake]
  rw [htake]
  exact fun hzero => hclean (List.mem_of_mem_take hzero)

theorem strncpy_length {n : Int} {bytes : Bytes} (h : strncpy source n = some bytes) :
    bytes.length = n.toNat := by
  simp only [strncpy] at h
  split_ifs at h with hn
  obtain rfl := Option.some.inj h
  have hle : (cStr (source.take n.toNat)).length ≤ (source.take n.toNat).length :=
    (List.takeWhile_prefix _).length_le
  rw [List.length_take] at hle
  rw [List.length_append, List.length_replicate]
  omega

end Strncpy

namespace RingBuffer

variable {ring : RingBuffer} {q : Bytes}

structure Straight (ring : RingBuffer) (q : Bytes) : Prop where
  stop : ring.start + q.length = ring.stop
  unmarked : q.length ≠ 1
  laid : LaidAt ring.buffer ring.start q

structure Marked (ring : RingBuffer) (q : Bytes) : Prop where
  stop : ring.start + 1 = ring.stop
  nothing : q = []

structure Wrapped (ring : RingBuffer) (front rest : Bytes) : Prop where
  behind : ring.stop < ring.start
  frontEnd : ring.start + front.length = ring.length
  restEnd : rest.length = ring.stop
  laidFront : LaidAt ring.buffer ring.start front
  laidRest : LaidAt ring.buffer 0 rest

structure Sized (ring : RingBuffer) : Prop where
  sized : ring.buffer.length = ring.length
  bounded : ring.length < 65536
  room : 1 < ring.length
  inside : ring.stop < ring.length

structure Carries (ring : RingBuffer) (q : Bytes) : Prop extends ring.Sized where
  clean : 0 ∉ q
  form : ring.Straight q ∨ ring.Marked q ∨ ∃ front rest, q = front ++ rest ∧ ring.Wrapped front rest

def keepsGet (ring : RingBuffer) (length : Nat) : Prop :=
  if ring.start < ring.stop then
    if ring.stop - ring.start = 1 then length ≠ 1 else length + 1 ≠ ring.stop - ring.start
  else if ring.stop < ring.start then
    length ≤ ring.length - ring.start ∨ length + 1 ≠ ring.length - ring.start + ring.stop
  else True

def keepsPut (ring : RingBuffer) (dlen : Nat) : Prop :=
  if ring.start < ring.stop then
    if ring.stop - ring.start = 1 then dlen ≠ 1 ∨ ring.stop + 1 = ring.length
    else ring.stop + dlen < ring.length ∨ ring.stop - ring.start + dlen + 1 = ring.length
  else if ring.stop = ring.start then dlen ≠ 1 ∧ ring.stop + dlen < ring.length
  else ring.length - ring.start + ring.stop + dlen + 1 = ring.length

theorem copyOut_laid {i n : Nat} (h : LaidAt ring.buffer i q) (hclean : 0 ∉ q)
    (hn : n ≤ q.length) : ring.copyOut i n = some (q.take n) :=
  strncpy_prefix h hn hclean

theorem copyOut_zero (i : Nat) : ring.copyOut i 0 = some [] := by
  simp [copyOut, strncpy, cStr]

theorem get_none (h : ring.start = ring.stop) (n : Nat) : ring.get n = some (ring, []) := by
  rw [RingBuffer.get, if_neg (by omega), if_neg (by omega)]

namespace Straight

variable {n : Nat}

theorem getAll (h : ring.Straight q) (hclean : 0 ∉ q) (hpos : 0 < q.length) (hn : q.length < n) :
    ring.get n = some ({ ring with start := ring.stop - 1 }, q) := by
  have hlength := h.stop
  have hspan : ring.stop - ring.start = q.length := by omega
  have hcopy := copyOut_laid h.laid hclean (Nat.le_refl _)
  rw [RingBuffer.get, if_pos (by omega), hspan, if_pos hn]
  simp only [if_neg h.unmarked, hcopy, Option.map_some, List.take_length]

theorem getSome (h : ring.Straight q) (hclean : 0 ∉ q) (hstop : ring.stop < 65536)
    (hpos : 0 < q.length) (hn : n ≤ q.length) :
    ring.get n = some ({ ring with start := ring.start + n }, q.take n) := by
  have hlength := h.stop
  have hspan : ring.stop - ring.start = q.length := by omega
  have hcopy := copyOut_laid h.laid hclean hn
  have hfits : uint16 (ring.start + n) = ring.start + n := Nat.mod_eq_of_lt (by omega)
  rw [RingBuffer.get, if_pos (by omega), hspan, if_neg (Nat.not_lt.mpr hn)]
  simp only [hcopy, Option.map_some, hfits]

theorem dropped (h : ring.Straight q) (hn : n ≤ q.length) (hkept : (q.drop n).length ≠ 1) :
    Straight { ring with start := ring.start + n } (q.drop n) where
  stop := by
    have hlength := h.stop
    simp only [List.length_drop]
    omega
  unmarked := hkept
  laid := by
    have hlaid := h.laid
    rw [← List.take_append_drop n q, LaidAt.append, List.length_take_of_le hn] at hlaid
    exact hlaid.2

end Straight

theorem Marked.get (h : ring.Marked q) {n : Nat} (hstop : ring.stop < 65536) (hn : n ≠ 1) :
    ring.get n = some (ring, []) := by
  have hspan : ring.stop - ring.start = 1 := by have := h.stop; omega
  rw [RingBuffer.get, if_pos (by omega), hspan]
  rcases Nat.lt_or_ge 1 n with hlt | hle
  · have hsame : ring.stop - 1 = ring.start := by omega
    simp only [if_pos hlt, if_true, Nat.cast_zero, copyOut_zero, Option.map_some, hsame]
  · obtain rfl : n = 0 := by omega
    have hfits : uint16 ring.start = ring.start := Nat.mod_eq_of_lt (by omega)
    simp only [if_neg (Nat.not_lt_zero 1), Nat.cast_zero, copyOut_zero, Option.map_some,
      Nat.add_zero, hfits]

namespace Wrapped

variable {front rest : Bytes} {n : Nat}

theorem getFront (h : ring.Wrapped front rest) (hclean : 0 ∉ front ++ rest)
    (hlength : ring.length < 65536) (hn : n ≤ front.length) :
    ring.get n = some ({ ring with start := ring.start + n }, front.take n) := by
  have hbehind := h.behind
  have hfront := h.frontEnd
  have hcopy := copyOut_laid h.laidFront (fun hzero => hclean (List.mem_append_left _ hzero)) hn
  have hfits : uint16 (ring.start + n) = ring.start + n := Nat.mod_eq_of_lt (by omega)
  rw [RingBuffer.get, if_neg (by omega), if_pos hbehind]
  simp only [if_neg (show ¬(ring.length : Int) - ring.start < n by omega), hcopy, Option.map_some,
    hfits]

theorem getMiddle (h : ring.Wrapped front rest) (hclean : 0 ∉ front ++ rest)
    (hlength : ring.length < 65536) (hn : front.length < n) (hall : n ≤ front.length + rest.length) :
    ring.get n = some ({ ring with start := n - front.length },
      front ++ rest.take (n - front.length)) := by
  have hbehind := h.behind
  have hfront := h.frontEnd
  have hrest := h.restEnd
  have hblen : (ring.length : Int) - ring.start = front.length := by omega
  have hleft : (n : Int) - front.length = (n - front.length : Nat) := by omega
  have hcopy := copyOut_laid h.laidFront (fun hzero => hclean (List.mem_append_left _ hzero))
    (Nat.le_refl _)
  have hcopyRest := copyOut_laid (n := n - front.length) h.laidRest
    (fun hzero => hclean (List.mem_append_right _ hzero)) (by omega)
  have hfits : uint16 (n - front.length) = n - front.length := Nat.mod_eq_of_lt (by omega)
  rw [RingBuffer.get, if_neg (by omega), if_pos hbehind, hblen]
  simp only [if_pos (show (front.length : Int) < n by omega), hcopy, Option.bind_some,
    if_neg (show ¬(0 : Int) < n - (front.length + ring.stop) by omega), hleft, hcopyRest,
    Option.map_some, Int.toNat_natCast, hfits, List.take_length]

theorem getAll (h : ring.Wrapped front rest) (hclean : 0 ∉ front ++ rest)
    (hn : front.length + rest.length < n) :
    ring.get n = some ({ ring with start := ring.stop - 1 }, front ++ rest) := by
  have hbehind := h.behind
  have hfront := h.frontEnd
  have hrest := h.restEnd
  have hblen : (ring.length : Int) - ring.start = front.length := by omega
  have hcopy := copyOut_laid h.laidFront (fun hzero => hclean (List.mem_append_left _ hzero))
    (Nat.le_refl _)
  have hcopyRest := copyOut_laid h.laidRest (fun hzero => hclean (List.mem_append_right _ hzero))
    (Nat.le_refl _)
  have hback : (if 0 < ring.stop then ring.stop - 1 else 0) = ring.stop - 1 := by
    split_ifs
    · rfl
    · omega
  rw [hrest] at hcopyRest
  rw [RingBuffer.get, if_neg (by omega), if_pos hbehind, hblen]
  simp only [if_pos (show (front.length : Int) < n by omega), hcopy, Option.bind_some,
    if_pos (show (0 : Int) < n - (front.length + ring.stop) by omega), hcopyRest, Option.map_some,
    hback, List.take_length]
  rw [← hrest, List.take_length]

end Wrapped

section Put

variable {data : Bytes}

theorem uint16_eq {n : Nat} (h : n < 65536) : uint16 n = n := Nat.mod_eq_of_lt h

theorem blen_eq (hin : ring.stop ≤ ring.length) (hlength : ring.length < 65536) :
    uint16 (65536 + ring.length - ring.stop) = ring.length - ring.stop := by
  rw [uint16]
  omega

theorem copyIn_text {i n : Nat} (hn : n ≤ (cStr data).length) (hi : i + n ≤ ring.buffer.length) :
    ring.copyIn i (cStr data ++ [0]) n =
      some { ring with buffer := store ring.buffer i ((cStr data).take n) } := by
  rw [copyIn, strncpy_prefix (List.prefix_append _ _) hn (zero_not_mem_cStr data),
    Option.bind_some, write, if_pos (by rw [List.length_take_of_le hn]; exact hi)]

theorem copyIn_rest {i n : Nat} (hn : n ≤ (cStr data).length)
    (hi : i + ((cStr data).length - n) ≤ ring.buffer.length) :
    ring.copyIn i ((cStr data ++ [0]).drop n) ((cStr data).length - n) =
      some { ring with buffer := store ring.buffer i ((cStr data).drop n) } := by
  have hclean : 0 ∉ (cStr data).drop n := fun hzero =>
    zero_not_mem_cStr data (List.mem_of_mem_drop hzero)
  have hlength : (cStr data).length - n = ((cStr data).drop n).length := List.length_drop.symm
  rw [List.drop_append_of_le_length hn, copyIn, hlength,
    strncpy_prefix (List.prefix_append _ _) (Nat.le_refl _) hclean, List.take_length,
    Option.bind_some, write, if_pos (by rw [List.length_drop]; exact hi)]

def placed (ring : RingBuffer) (data : Bytes) (start : Nat) : RingBuffer where
  length := ring.length
  start := start
  stop := ring.stop + (cStr data).length
  buffer := store ring.buffer ring.stop (cStr data)

def split (ring : RingBuffer) (data : Bytes) (start : Nat) : RingBuffer where
  length := ring.length
  start := start
  stop := (cStr data).length - (ring.length - ring.stop)
  buffer := store (store ring.buffer ring.stop ((cStr data).take (ring.length - ring.stop))) 0
    ((cStr data).drop (ring.length - ring.stop))

theorem put_fits (h : ring.Sized) (hfits : ring.stop + (cStr data).length < ring.length) :
    ring.put data = some (ring.placed data
      (if ring.start < ring.stop then if ring.stop - ring.start = 1 then ring.stop else ring.start
      else if ring.stop = ring.start then ring.start
      else ring.stop + (cStr data).length + 1)) := by
  have hbounded := h.bounded
  have hdlen : uint16 (cStr data).length = (cStr data).length := uint16_eq (by omega)
  have hblen := blen_eq (Nat.le_of_lt h.inside) hbounded
  have hstop : uint16 (ring.stop + (cStr data).length) = ring.stop + (cStr data).length :=
    uint16_eq (by omega)
  have hstart : uint16 (ring.stop + (cStr data).length + 1) = ring.stop + (cStr data).length + 1 :=
    uint16_eq (by omega)
  have hcopy : ring.copyIn ring.stop (cStr data ++ [0]) (cStr data).length = _ :=
    copyIn_text (Nat.le_refl _) (by rw [h.sized]; omega)
  have hroom : (cStr data).length < ring.length - ring.stop := by omega
  simp only [put, hdlen, hblen, hstop, hstart, hcopy, List.take_length, if_pos hroom,
    Option.map_some, ite_self, placed]
  split_ifs
  all_goals rfl

theorem put_wraps (h : ring.Sized) (hwraps : ring.length ≤ ring.stop + (cStr data).length)
    (hdlen : (cStr data).length < ring.length) (hahead : ring.start < ring.stop) :
    ring.put data = some (ring.split data
      (if ring.stop - ring.start = 1 then ring.stop
      else (cStr data).length - (ring.length - ring.stop) + 1)) := by
  have hbounded := h.bounded
  have hinside := h.inside
  have hlength : uint16 (cStr data).length = (cStr data).length := uint16_eq (by omega)
  have hblen := blen_eq (Nat.le_of_lt hinside) hbounded
  have hpart : ring.length - ring.stop ≤ (cStr data).length := by omega
  have hend : ring.stop + (ring.length - ring.stop) ≤ ring.buffer.length := by
    rw [h.sized]
    omega
  have hstored : (store ring.buffer ring.stop
      ((cStr data).take (ring.length - ring.stop))).length = ring.length := by
    rw [store_length (by rwa [List.length_take_of_le hpart]), h.sized]
  have hcopy := copyIn_text hpart hend
  generalize hbuffer : store ring.buffer ring.stop
    ((cStr data).take (ring.length - ring.stop)) = buffer at hcopy hstored
  have hbegin : 0 + ((cStr data).length - (ring.length - ring.stop)) ≤ buffer.length := by
    rw [hstored]
    omega
  have hrest := @copyIn_rest ⟨ring.length, ring.start, ring.stop, buffer⟩ _ _ _ hpart hbegin
  have hstart : uint16 ((cStr data).length - (ring.length - ring.stop) + 1) =
      (cStr data).length - (ring.length - ring.stop) + 1 := uint16_eq (by omega)
  rw [put, if_pos hahead]
  simp only [hlength, hblen, if_neg (Nat.not_lt.mpr hpart), hcopy, Option.bind_some, hrest,
    Option.map_some, hstart, split, hbuffer]

theorem put_error (h : ring.Sized) (hwraps : ring.length ≤ ring.stop + (cStr data).length)
    (hdlen : (cStr data).length < ring.length) (hsame : ring.stop = ring.start) :
    ring.put data = (ring.write ring.stop (errmsg ++ [0])).map fun after =>
      { after with stop := uint16 (ring.stop + errmsg.length) } := by
  have hbounded := h.bounded
  have hlength : uint16 (cStr data).length = (cStr data).length := uint16_eq (by omega)
  have hblen := blen_eq (Nat.le_of_lt h.inside) hbounded
  have hroom : ¬(cStr data).length < ring.length - ring.stop := by omega
  rw [put, if_neg (by omega), if_pos hsame]
  simp only [hlength, hblen, if_neg hroom]

variable {front rest : Bytes} {start : Nat}

theorem Sized.placed (h : ring.Sized) (hfits : ring.stop + (cStr data).length < ring.length)
    (start : Nat) : (ring.placed data start).Sized where
  sized := (store_length (by rw [h.sized]; omega)).trans h.sized
  bounded := h.bounded
  room := h.room
  inside := hfits

theorem Sized.split (h : ring.Sized) (hwraps : ring.length ≤ ring.stop + (cStr data).length)
    (hdlen : (cStr data).length < ring.length) (start : Nat) : (ring.split data start).Sized where
  sized := by
    have hinside := h.inside
    have hpart : ring.stop + ((cStr data).take (ring.length - ring.stop)).length ≤
        ring.buffer.length := by
      rw [List.length_take_of_le (by omega), h.sized]
      omega
    have hrest : 0 + ((cStr data).drop (ring.length - ring.stop)).length ≤ (store ring.buffer
        ring.stop ((cStr data).take (ring.length - ring.stop))).length := by
      rw [store_length hpart, h.sized, List.length_drop]
      omega
    exact (store_length hrest).trans ((store_length hpart).trans h.sized)
  bounded := h.bounded
  room := h.room
  inside := by
    have hinside := h.inside
    simp only [RingBuffer.split]
    omega

theorem straight_placed (h : ring.Sized) (hstop : start + q.length = ring.stop)
    (hlaid : LaidAt ring.buffer start q) (hone : (q ++ cStr data).length ≠ 1) :
    (ring.placed data start).Straight (q ++ cStr data) where
  stop := by
    simp only [RingBuffer.placed, List.length_append]
    omega
  unmarked := hone
  laid := by
    have hin : ring.stop ≤ ring.buffer.length := h.sized ▸ Nat.le_of_lt h.inside
    simp only [RingBuffer.placed]
    rw [LaidAt.append, hstop]
    exact ⟨laidAt_before_store hlaid (Nat.le_of_eq hstop) hin, laidAt_store hin⟩

theorem wrapped_split (h : ring.Sized) (hstop : start + q.length = ring.stop)
    (hlaid : LaidAt ring.buffer start q)
    (hwraps : ring.length ≤ ring.stop + (cStr data).length)
    (hroom : q.length + (cStr data).length < ring.length) :
    (ring.split data start).Wrapped (q ++ (cStr data).take (ring.length - ring.stop))
      ((cStr data).drop (ring.length - ring.stop)) := by
  have hinside := h.inside
  have hin : ring.stop ≤ ring.buffer.length := h.sized ▸ Nat.le_of_lt hinside
  have hpart : ((cStr data).take (ring.length - ring.stop)).length = ring.length - ring.stop :=
    List.length_take_of_le (by omega)
  have hbehind : (cStr data).length - (ring.length - ring.stop) < start := by omega
  have hfront : LaidAt (store ring.buffer ring.stop ((cStr data).take (ring.length - ring.stop)))
      start (q ++ (cStr data).take (ring.length - ring.stop)) := by
    rw [LaidAt.append, hstop]
    exact ⟨laidAt_before_store hlaid (Nat.le_of_eq hstop) hin, laidAt_store hin⟩
  refine ⟨hbehind, ?_, List.length_drop, laidAt_after_store hfront ?_ (Nat.zero_le _),
    laidAt_store (Nat.zero_le _)⟩
  · rw [List.length_append, hpart]
    simp only [RingBuffer.split]
    omega
  · simp only [RingBuffer.split, List.length_drop]
    omega

theorem Wrapped.placed (h : ring.Wrapped front rest) (hs : ring.Sized)
    (hroom : ring.stop + (cStr data).length < ring.start) :
    (ring.placed data ring.start).Wrapped front (rest ++ cStr data) := by
  have hin : ring.stop ≤ ring.buffer.length := hs.sized ▸ Nat.le_of_lt hs.inside
  have hrest : 0 + rest.length = ring.stop := by rw [h.restEnd, Nat.zero_add]
  refine ⟨hroom, h.frontEnd, ?_, laidAt_after_store h.laidFront (Nat.le_of_lt hroom) hin, ?_⟩
  · rw [List.length_append, h.restEnd]
    rfl
  · rw [LaidAt.append, hrest]
    exact ⟨laidAt_before_store h.laidRest (Nat.le_of_eq hrest) hin, laidAt_store hin⟩

theorem clean_append (hclean : 0 ∉ q) : 0 ∉ q ++ cStr data := by
  rw [List.mem_append, not_or]
  exact ⟨hclean, zero_not_mem_cStr data⟩

theorem carries_placed (h : ring.Carries q) (hstop : start + q.length = ring.stop)
    (hlaid : LaidAt ring.buffer start q) (hone : (q ++ cStr data).length ≠ 1)
    (hfits : ring.stop + (cStr data).length < ring.length) :
    (ring.placed data start).Carries (q ++ cStr data) :=
  ⟨h.toSized.placed hfits start, clean_append h.clean,
    .inl (straight_placed h.toSized hstop hlaid hone)⟩

theorem carries_split (h : ring.Carries q) (hstop : start + q.length = ring.stop)
    (hlaid : LaidAt ring.buffer start q)
    (hwraps : ring.length ≤ ring.stop + (cStr data).length)
    (hroom : q.length + (cStr data).length < ring.length) :
    (ring.split data start).Carries (q ++ cStr data) := by
  refine ⟨h.toSized.split hwraps (by omega) start, clean_append h.clean, .inr (.inr ⟨_, _, ?_,
    wrapped_split h.toSized hstop hlaid hwraps hroom⟩)⟩
  rw [List.append_assoc, List.take_append_drop]

theorem Straight.put (hform : ring.Straight q) (h : ring.Carries q)
    (hroom : q.length + (cStr data).length < ring.length)
    (hkeeps : ring.keepsPut (cStr data).length) :
    ∃ after, ring.put data = some after ∧ after.length = ring.length ∧
      after.Carries (q ++ cStr data) := by
  have hinside := h.inside
  have hstop := hform.stop
  have hone := hform.unmarked
  have hafter : (if ring.start < ring.stop then
      if ring.stop - ring.start = 1 then ring.stop else ring.start
      else if ring.stop = ring.start then ring.start
      else ring.stop + (cStr data).length + 1) = ring.start := by
    split_ifs <;> omega
  rcases Nat.lt_or_ge (ring.stop + (cStr data).length) ring.length with hfits | hwraps
  · refine ⟨_, put_fits h.toSized hfits, rfl, ?_⟩
    rw [hafter]
    apply carries_placed h hstop hform.laid ?_ hfits
    rw [List.length_append]
    unfold keepsPut at hkeeps
    split_ifs at hkeeps <;> omega
  · have hahead : ring.start < ring.stop := by
      unfold keepsPut at hkeeps
      split_ifs at hkeeps <;> omega
    have hspan : ring.stop - ring.start ≠ 1 := by omega
    have hfull : (cStr data).length - (ring.length - ring.stop) + 1 = ring.start := by
      rw [keepsPut, if_pos hahead, if_neg hspan] at hkeeps
      omega
    refine ⟨_, put_wraps h.toSized hwraps (by omega) hahead, rfl, ?_⟩
    rw [if_neg hspan, hfull]
    exact carries_split h hstop hform.laid hwraps hroom

theorem Marked.put (hform : ring.Marked q) (h : ring.Carries q)
    (hroom : q.length + (cStr data).length < ring.length)
    (hkeeps : ring.keepsPut (cStr data).length) :
    ∃ after, ring.put data = some after ∧ after.length = ring.length ∧
      after.Carries (q ++ cStr data) := by
  have hinside := h.inside
  obtain rfl := hform.nothing
  have hstop := hform.stop
  have hahead : ring.start < ring.stop := by omega
  have hspan : ring.stop - ring.start = 1 := by omega
  have hempty : ring.stop + ([] : Bytes).length = ring.stop := rfl
  rw [keepsPut, if_pos hahead, if_pos hspan] at hkeeps
  rcases Nat.lt_or_ge (ring.stop + (cStr data).length) ring.length with hfits | hwraps
  · refine ⟨_, put_fits h.toSized hfits, rfl, ?_⟩
    rw [if_pos hahead, if_pos hspan]
    apply carries_placed h hempty List.nil_prefix ?_ hfits
    rw [List.nil_append]
    omega
  · refine ⟨_, put_wraps h.toSized hwraps (by omega) hahead, rfl, ?_⟩
    rw [if_pos hspan]
    exact carries_split h hempty List.nil_prefix hwraps hroom

theorem Wrapped.put (hform : ring.Wrapped front rest) (h : ring.Carries (front ++ rest))
    (hkeeps : ring.keepsPut (cStr data).length) :
    ∃ after, ring.put data = some after ∧ after.length = ring.length ∧
      after.Carries (front ++ rest ++ cStr data) := by
  have hinside := h.inside
  have hbehind := hform.behind
  have hfront := hform.frontEnd
  rw [keepsPut, if_neg (by omega), if_neg (by omega)] at hkeeps
  have hstart : ring.stop + (cStr data).length + 1 = ring.start := by omega
  have hfits : ring.stop + (cStr data).length < ring.length := by omega
  refine ⟨_, put_fits h.toSized hfits, rfl, h.toSized.placed hfits _, clean_append h.clean,
    .inr (.inr ⟨front, rest ++ cStr data, List.append_assoc _ _ _, ?_⟩)⟩
  rw [if_neg (by omega), if_neg (by omega), hstart]
  exact hform.placed h.toSized (by omega)

theorem Carries.put (h : ring.Carries q) (hroom : q.length + (cStr data).length < ring.length)
    (hkeeps : ring.keepsPut (cStr data).length) :
    ∃ after, ring.put data = some after ∧ after.length = ring.length ∧
      after.Carries (q ++ cStr data) := by
  rcases h.form with hform | hform | ⟨front, rest, rfl, hform⟩
  · exact hform.put h hroom hkeeps
  · exact hform.put h hroom hkeeps
  · exact hform.put h hkeeps

end Put

section Get

variable {n : Nat}

theorem carries_start (h : ring.Carries q) {start : Nat} (hclean : 0 ∉ q.drop n)
    (hform : Straight { ring with start := start } (q.drop n) ∨
      Marked { ring with start := start } (q.drop n) ∨
      ∃ front rest, q.drop n = front ++ rest ∧ Wrapped { ring with start := start } front rest) :
    Carries { ring with start := start } (q.drop n) :=
  ⟨⟨h.sized, h.bounded, h.room, h.inside⟩, hclean, hform⟩

theorem Wrapped.dropped {front rest : Bytes} (h : ring.Wrapped front rest)
    (hn : n ≤ front.length) :
    Wrapped { ring with start := ring.start + n } (front.drop n) rest where
  behind := Nat.lt_of_lt_of_le h.behind (Nat.le_add_right _ _)
  frontEnd := by
    have hfront := h.frontEnd
    simp only [List.length_drop]
    omega
  restEnd := h.restEnd
  laidFront := by
    have hlaid := h.laidFront
    rw [← List.take_append_drop n front, LaidAt.append, List.length_take_of_le hn] at hlaid
    exact hlaid.2
  laidRest := h.laidRest

theorem Wrapped.straight {front rest : Bytes} (h : ring.Wrapped front rest) {k : Nat}
    (hk : k ≤ rest.length) (hone : (rest.drop k).length ≠ 1) :
    Straight { ring with start := k } (rest.drop k) where
  stop := by
    have hrest := h.restEnd
    simp only [List.length_drop]
    omega
  unmarked := hone
  laid := by
    have hlaid := h.laidRest
    rw [← List.take_append_drop k rest, LaidAt.append, List.length_take_of_le hk,
      Nat.zero_add] at hlaid
    exact hlaid.2

theorem Straight.carries_get (hform : ring.Straight q) (h : ring.Carries q)
    (hkeeps : ring.keepsGet n) :
    ∃ after, ring.get n = some (after, q.take n) ∧ after.length = ring.length ∧
      after.Carries (q.drop n) := by
  have hinside := h.inside
  have hbounded := h.bounded
  have hclean : 0 ∉ q.drop n := fun hzero => h.clean (List.mem_of_mem_drop hzero)
  have hstop := hform.stop
  have hone := hform.unmarked
  rcases Nat.eq_zero_or_pos q.length with hempty | hpos
  · obtain rfl := List.eq_nil_of_length_eq_zero hempty
    refine ⟨ring, ?_, rfl, ?_⟩
    · rw [get_none (by omega), List.take_nil]
    · rwa [List.drop_nil]
  · rcases Nat.lt_or_ge q.length n with hall | hsome
    · have hgone : q.drop n = [] := List.drop_eq_nil_of_le (Nat.le_of_lt hall)
      refine ⟨{ ring with start := ring.stop - 1 }, ?_, rfl,
        carries_start h hclean (.inr (.inl ⟨?_, hgone⟩))⟩
      · rw [hform.getAll h.clean hpos hall, List.take_of_length_le (Nat.le_of_lt hall)]
      · simp only
        omega
    · refine ⟨_, hform.getSome h.clean (by omega) hpos hsome, rfl,
        carries_start h hclean (.inl (hform.dropped hsome ?_))⟩
      rw [keepsGet, if_pos (by omega), if_neg (by omega)] at hkeeps
      rw [List.length_drop]
      omega

theorem Wrapped.carries_getRest {front rest : Bytes} (hform : ring.Wrapped front rest)
    (h : ring.Carries (front ++ rest)) (hkeeps : ring.keepsGet n) (hmore : front.length < n) :
    ∃ after, ring.get n = some (after, (front ++ rest).take n) ∧ after.length = ring.length ∧
      after.Carries ((front ++ rest).drop n) := by
  have hclean : 0 ∉ (front ++ rest).drop n := fun hzero => h.clean (List.mem_of_mem_drop hzero)
  have hbehind := hform.behind
  have hfront := hform.frontEnd
  have hrest := hform.restEnd
  rcases Nat.lt_or_ge (front.length + rest.length) n with hall | hsome
  · have hlong : (front ++ rest).length ≤ n := by rw [List.length_append]; omega
    have hgone : (front ++ rest).drop n = [] := List.drop_eq_nil_of_le hlong
    refine ⟨{ ring with start := ring.stop - 1 }, ?_, rfl, carries_start h hclean ?_⟩
    · rw [hform.getAll h.clean hall, List.take_of_length_le hlong]
    · rw [hgone]
      rcases Nat.eq_zero_or_pos ring.stop with hzero | hpos
      · refine .inl ⟨?_, by simp, List.nil_prefix⟩
        simp [hzero]
      · refine .inr (.inl ⟨?_, rfl⟩)
        simp only
        omega
  · have hkept : (front ++ rest).drop n = rest.drop (n - front.length) := by
      rw [List.drop_append, List.drop_eq_nil_of_le (Nat.le_of_lt hmore), List.nil_append]
    refine ⟨{ ring with start := n - front.length }, ?_, rfl, carries_start h hclean ?_⟩
    · rw [hform.getMiddle h.clean h.bounded hmore hsome, List.take_append,
        List.take_of_length_le (Nat.le_of_lt hmore)]
    · rw [hkept]
      refine .inl (hform.straight (by omega) ?_)
      rw [keepsGet, if_neg (by omega), if_pos hbehind] at hkeeps
      rw [List.length_drop]
      omega

theorem Wrapped.carries_getFront {front rest : Bytes} (hform : ring.Wrapped front rest)
    (h : ring.Carries (front ++ rest)) (hwithin : n ≤ front.length) :
    ∃ after, ring.get n = some (after, (front ++ rest).take n) ∧ after.length = ring.length ∧
      after.Carries ((front ++ rest).drop n) := by
  have hclean : 0 ∉ (front ++ rest).drop n := fun hzero => h.clean (List.mem_of_mem_drop hzero)
  refine ⟨{ ring with start := ring.start + n }, ?_, rfl, carries_start h hclean
    (.inr (.inr ⟨front.drop n, rest, ?_, hform.dropped hwithin⟩))⟩
  · rw [hform.getFront h.clean h.bounded hwithin, List.take_append_of_le_length hwithin]
  · rw [List.drop_append_of_le_length hwithin]

theorem Carries.get (h : ring.Carries q) (hkeeps : ring.keepsGet n) :
    ∃ after, ring.get n = some (after, q.take n) ∧ after.length = ring.length ∧
      after.Carries (q.drop n) := by
  rcases h.form with hform | hform | ⟨front, rest, rfl, hform⟩
  · exact hform.carries_get h hkeeps
  · obtain rfl := hform.nothing
    have hstop := hform.stop
    have hinside := h.inside
    have hbounded := h.bounded
    rw [keepsGet, if_pos (by omega), if_pos (by omega)] at hkeeps
    refine ⟨ring, ?_, rfl, ?_⟩
    · rw [hform.get (by omega) hkeeps, List.take_nil]
    · rwa [List.drop_nil]
  · rcases Nat.lt_or_ge front.length n with hmore | hwithin
    · exact hform.carries_getRest h hkeeps hmore
    · exact hform.carries_getFront h hwithin

def span (ring : RingBuffer) : Nat :=
  if ring.start < ring.stop then if ring.stop - ring.start = 1 then 0 else ring.stop - ring.start
  else if ring.stop < ring.start then ring.length - ring.start + ring.stop
  else 0

theorem copied_length {i : Nat} {n : Int} {bytes : Bytes} {shown after : RingBuffer}
    (h : ((ring.copyOut i n).map fun buf => (shown, buf)) = some (after, bytes)) :
    bytes.length = n.toNat := by
  obtain ⟨buf, hcopy, heq⟩ := Option.map_eq_some_iff.mp h
  obtain ⟨-, rfl⟩ := Prod.mk.inj heq
  exact strncpy_length hcopy

theorem get_length (hroom : 1 < ring.length) (hstart : ring.start ≤ ring.length)
    (hstop : ring.stop ≤ ring.length) {after : RingBuffer} {bytes : Bytes}
    (h : ring.get ring.length = some (after, bytes)) : bytes.length = ring.span := by
  rcases Nat.lt_trichotomy ring.start ring.stop with hahead | hsame | hbehind
  · rw [RingBuffer.get, if_pos hahead] at h
    rw [span, if_pos hahead]
    rcases Nat.lt_or_ge (ring.stop - ring.start) ring.length with hless | hfull
    · rw [if_pos hless] at h
      rw [copied_length h, Int.toNat_natCast]
    · rw [if_neg (Nat.not_lt.mpr hfull)] at h
      rw [copied_length h, Int.toNat_natCast, if_neg (by omega)]
      omega
  · rw [get_none hsame] at h
    obtain ⟨-, rfl⟩ := Prod.mk.inj (Option.some.inj h)
    rw [span, if_neg (by omega), if_neg (by omega), List.length_nil]
  · rw [RingBuffer.get, if_neg (by omega), if_pos hbehind] at h
    simp only [if_pos (show (ring.length : Int) - ring.start < ring.length by omega)] at h
    obtain ⟨buf, hcopy, hrest⟩ := Option.bind_eq_some_iff.mp h
    rw [if_pos (by omega)] at hrest
    obtain ⟨rest, hcopyRest, heq⟩ := Option.map_eq_some_iff.mp hrest
    obtain ⟨-, rfl⟩ := Prod.mk.inj heq
    rw [List.length_append, strncpy_length hcopy, strncpy_length hcopyRest, span,
      if_neg (by omega), if_pos hbehind]
    omega

end Get

end RingBuffer

end MbedMqtt.MQTTSNGW
