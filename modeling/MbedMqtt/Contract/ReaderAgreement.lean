import MbedMqtt.Contract.Fragmentation

namespace MbedMqtt

variable (stream : Nat → UInt8)

def remainingLengthEnds (pos : Nat) : Prop :=
  ∃ i < maxNoOfRemainingLengthBytes, (stream (pos + 1 + i)).toNat < 128

def fourByteLength (pos : Nat) : Nat :=
  Base128.value (window stream (pos + 1) maxNoOfRemainingLengthBytes)

theorem getcharfn_exactly (pos : Nat) :
    getcharfn (exactly stream) pos = (some (stream pos), pos + 1) := by
  rw [getcharfn, exactly_one]

theorem completes_exactly (tries pos : Nat) :
    Base128.completes (getcharfn (exactly stream)) tries pos = true ↔
      ∃ i < tries, (stream (pos + i)).toNat < 128 := by
  induction tries generalizing pos with
  | zero => simp [Base128.completes]
  | succ tries ih =>
    simp only [Base128.completes, getcharfn_exactly]
    split
    · rename_i hc
      rw [ih]
      constructor
      · rintro ⟨i, hi, hend⟩
        exact ⟨i + 1, by omega, by rwa [← Nat.add_assoc, Nat.add_right_comm]⟩
      · rintro ⟨i, hi, hend⟩
        cases i with
        | zero => rw [Nat.add_zero] at hend; omega
        | succ i => exact ⟨i, by omega, by rwa [Nat.add_right_comm, Nat.add_assoc]⟩
    · rename_i hc
      exact ⟨fun _ => ⟨0, by omega, by rw [Nat.add_zero]; omega⟩, fun _ => rfl⟩

theorem decodenbLoop_ends {tries : Nat} (trp : MQTTTransport Nat)
    (h : Base128.completes (getcharfn (exactly stream)) tries trp.sck = true) :
    ∃ m, decodenbLoop (exactly stream) tries trp =
      (((Base128.decode (getcharfn (exactly stream)) tries trp.len trp.remLen trp.multiplier
          trp.sck).1.1 : Int),
        ⟨(Base128.decode (getcharfn (exactly stream)) tries trp.len trp.remLen trp.multiplier
            trp.sck).2, m,
          (Base128.decode (getcharfn (exactly stream)) tries trp.len trp.remLen trp.multiplier
            trp.sck).1.2,
          (Base128.decode (getcharfn (exactly stream)) tries trp.len trp.remLen trp.multiplier
            trp.sck).1.1, trp.state⟩) ∧
      0 < (Base128.decode (getcharfn (exactly stream)) tries trp.len trp.remLen trp.multiplier
          trp.sck).1.1 := by
  induction tries generalizing trp with
  | zero => simp [Base128.completes] at h
  | succ tries ih =>
    simp only [Base128.completes, getcharfn_exactly] at h
    rw [decodenbLoop_byte (exactly_one stream trp.sck)]
    simp only [Base128.decode, getcharfn_exactly]
    split
    · rename_i hc
      rw [if_pos hc] at h
      exact ih (trp.added (stream trp.sck) (trp.sck + 1)) h
    · exact ⟨trp.multiplier * 128, rfl, Nat.succ_pos _⟩

theorem decodenbLoop_overlong {tries : Nat} (trp : MQTTTransport Nat)
    (h : Base128.completes (getcharfn (exactly stream)) tries trp.sck = false) :
    (decodenbLoop (exactly stream) tries trp).1 = MQTTPACKET_READ_ERROR := by
  induction tries generalizing trp with
  | zero => rfl
  | succ tries ih =>
    simp only [Base128.completes, getcharfn_exactly] at h
    rw [decodenbLoop_byte (exactly_one stream trp.sck)]
    split
    · rename_i hc
      rw [if_pos hc] at h
      exact ih (trp.added (stream trp.sck) (trp.sck + 1)) h
    · rename_i hc
      rw [if_neg hc] at h
      cases h

theorem decode_overlong {tries : Nat} (len value multiplier pos : Nat)
    (h : Base128.completes (getcharfn (exactly stream)) tries pos = false) :
    (Base128.decode (getcharfn (exactly stream)) tries len value multiplier pos).1.2 =
      value + Base128.value (window stream pos tries) * multiplier := by
  induction tries generalizing len value multiplier pos with
  | zero => simp [Base128.decode, Base128.value]
  | succ tries ih =>
    simp only [Base128.completes, getcharfn_exactly] at h
    simp only [Base128.decode, getcharfn_exactly]
    split
    · rename_i hc
      rw [if_pos hc] at h
      rw [ih _ _ _ _ h, window_succ, Base128.value]
      ring
    · rename_i hc
      rw [if_neg hc] at h
      cases h

def decodedLength (pos : Nat) : Nat := (packetDecode (getcharfn (exactly stream)) (pos + 1)).1.2

def decodedEnd (pos : Nat) : Nat := (packetDecode (getcharfn (exactly stream)) (pos + 1)).2

def headed (buf : Bytes) (pos : Nat) : Bytes :=
  store (store buf 0 [stream pos]) 1 (packetEncode (decodedLength stream pos))

def headedLength (pos : Nat) : Nat := 1 + (packetEncode (decodedLength stream pos)).length

def packeted (buf : Bytes) (pos : Nat) : Bytes :=
  store (headed stream buf pos) (headedLength stream pos)
    (window stream (decodedEnd stream pos) (decodedLength stream pos))

variable {stream} {buflen pos : Nat} {buf : Bytes}

theorem byteAt_headed : byteAt (headed stream buf pos) 0 = stream pos := by
  rw [headed, byteAt_store (by decide) (by simp [store])]
  simp [store, byteAt]

theorem byteAt_packeted : byteAt (packeted stream buf pos) 0 = stream pos := by
  rw [packeted, byteAt_store (by simp [headedLength]) (by simp [headed, store]), byteAt_headed]

theorem packeted_of_empty (h : decodedLength stream pos = 0) :
    packeted stream buf pos = headed stream buf pos := by
  rw [packeted, h, window_zero, store_nil]

theorem packetRead_exactly :
    packetRead (exactly stream) buf buflen pos =
      if decodedLength stream pos + headedLength stream pos > buflen then
        (-1, headed stream buf pos, decodedEnd stream pos)
      else ((headerType (stream pos) : Int), packeted stream buf pos,
        decodedEnd stream pos + decodedLength stream pos) := by
  have hlength : (packetDecode (getcharfn (exactly stream)) (pos + 1)).1.2 =
    decodedLength stream pos := rfl
  have hend : (packetDecode (getcharfn (exactly stream)) (pos + 1)).2 = decodedEnd stream pos := rfl
  have hheaded : store (store buf 0 [stream pos]) 1 (packetEncode (decodedLength stream pos)) =
    headed stream buf pos := rfl
  have hlen : 1 + (packetEncode (decodedLength stream pos)).length = headedLength stream pos := rfl
  simp only [packetRead, exactly_one, hlength, hend, hheaded, hlen, List.length_singleton, ne_eq,
    not_true_eq_false, if_false]
  split
  · rfl
  · by_cases hzero : decodedLength stream pos = 0
    · rw [if_pos hzero, byteAt_headed, packeted_of_empty hzero, hzero, Nat.add_zero]
    · have hbody : store (headed stream buf pos) (headedLength stream pos)
          (window stream (decodedEnd stream pos) (decodedLength stream pos)) =
        packeted stream buf pos := rfl
      simp only [if_neg hzero, exactly, window_length, not_true_eq_false, if_false, hbody,
        byteAt_packeted]

theorem readnbBody_exactly (buf : Bytes) (trp : MQTTTransport Nat) (htype : byteAt buf 0 = stream pos)
    (hlen : 0 < trp.len) (hbuf : 0 < buf.length) :
    (readnbBody (exactly stream) buf trp).1 = headerType (stream pos) ∧
      (readnbBody (exactly stream) buf trp).2.1 =
        store buf trp.len (window stream trp.sck trp.remLen) ∧
      (readnbBody (exactly stream) buf trp).2.2.sck = trp.sck + trp.remLen := by
  by_cases hzero : trp.remLen = 0
  · simp [readnbBody, hzero, htype, store_nil]
  · rw [readnbBody_whole hzero hlen hbuf, htype]
    exact ⟨rfl, rfl, rfl⟩

theorem packetDecodenb_ends (trp : MQTTTransport Nat) (hsck : trp.sck = pos + 1)
    (hlen : trp.len = 0) (hends : remainingLengthEnds stream pos) :
    ∃ n m : Nat, 0 < n ∧ packetDecodenb (exactly stream) trp =
      ((n : Int), ⟨decodedEnd stream pos, m, decodedLength stream pos, n, trp.state⟩) := by
  have hcompletes := (completes_exactly stream maxNoOfRemainingLengthBytes (pos + 1)).mpr hends
  obtain ⟨m, hdecode, hpos⟩ := decodenbLoop_ends stream ⟨pos + 1, 1, 0, 0, trp.state⟩ hcompletes
  refine ⟨_, m, hpos, ?_⟩
  rw [packetDecodenb, MQTTTransport.primed, if_pos hlen, hlen, hsck]
  exact hdecode

theorem packetDecodenb_overlong (trp : MQTTTransport Nat) (hsck : trp.sck = pos + 1)
    (hlen : trp.len = 0) (hends : ¬remainingLengthEnds stream pos) :
    (packetDecodenb (exactly stream) trp).1 = MQTTPACKET_READ_ERROR := by
  have hcompletes : Base128.completes (getcharfn (exactly stream)) maxNoOfRemainingLengthBytes
      trp.primed.sck = false := by
    rw [primed_sck, hsck, Bool.eq_false_iff]
    exact fun h => hends ((completes_exactly stream _ _).mp h)
  rw [packetDecodenb, hlen]
  exact decodenbLoop_overlong stream trp.primed hcompletes

theorem decodedLength_overlong (hends : ¬remainingLengthEnds stream pos) :
    decodedLength stream pos = fourByteLength stream pos := by
  have hcompletes : Base128.completes (getcharfn (exactly stream)) maxNoOfRemainingLengthBytes
      (pos + 1) = false := by
    rw [Bool.eq_false_iff]
    exact fun h => hends ((completes_exactly stream _ _).mp h)
  have h := decode_overlong stream 0 0 1 (pos + 1) hcompletes
  rwa [Nat.zero_add, Nat.mul_one] at h

structure ReadersAgree (blocking : Int × Bytes × Nat)
    (nonblocking : Int × Bytes × MQTTTransport Nat) : Prop where
  rc : nonblocking.1 = blocking.1
  consumed : blocking.1 ≠ -1 → nonblocking.2.2.sck = blocking.2.2
  packet : blocking.1 ≠ -1 → nonblocking.2.1 = blocking.2.1

theorem packetReadnb_ends {trp : MQTTTransport Nat} (hstate : trp.state = 0)
    (hends : remainingLengthEnds stream trp.sck) :
    ReadersAgree (packetRead (exactly stream) buf buflen trp.sck)
      (packetReadnb (exactly stream) buf buflen trp) := by
  obtain ⟨n, m, hn, hdecode⟩ := packetDecodenb_ends
    { trp with sck := trp.sck + 1, len := 0, state := 1 } rfl rfl hends
  have hok : (n : Int) ≠ MQTTPACKET_READ_ERROR := by
    intro h
    have : (n : Int) = -1 := h
    omega
  have hmore : (n : Int) ≠ 0 := by omega
  have hheaded : store (store buf 0 [stream trp.sck]) 1
      (packetEncode (decodedLength stream trp.sck)) = headed stream buf trp.sck := rfl
  have hlen : 1 + (packetEncode (decodedLength stream trp.sck)).length =
    headedLength stream trp.sck := rfl
  rw [packetRead_exactly]
  simp only [packetReadnb, hstate, readnbHeader, exactly_one, List.length_singleton, one_ne_zero,
    if_false, readnbLength, hdecode, if_neg hok, if_neg hmore, hheaded, hlen]
  split
  · exact ⟨rfl, fun h => absurd rfl h, fun h => absurd rfl h⟩
  · obtain ⟨hrc, hbody, hsck⟩ := readnbBody_exactly (headed stream buf trp.sck)
      ⟨decodedEnd stream trp.sck, m, decodedLength stream trp.sck,
        headedLength stream trp.sck, 2⟩ byteAt_headed (by simp [headedLength])
      (by simp [headed, store])
    exact ⟨hrc, fun _ => hsck, fun _ => hbody⟩

theorem packetReadnb_overlong (buf : Bytes) (buflen : Nat) {trp : MQTTTransport Nat} (hstate : trp.state = 0)
    (hends : ¬remainingLengthEnds stream trp.sck) :
    (packetReadnb (exactly stream) buf buflen trp).1 = -1 := by
  have hdecode := packetDecodenb_overlong { trp with sck := trp.sck + 1, len := 0, state := 1 } rfl rfl hends
  simp only [packetReadnb, hstate, readnbHeader, exactly_one, List.length_singleton, one_ne_zero,
    if_false, readnbLength, hdecode, if_true]

theorem readers_agree_iff (stream : Nat → UInt8) (buflen : Nat) (buf : Bytes)
    (trp : MQTTTransport Nat) (hstate : trp.state = 0) :
    ReadersAgree (packetRead (exactly stream) buf buflen trp.sck)
        (packetReadnb (exactly stream) buf buflen trp) ↔
      remainingLengthEnds stream trp.sck ∨
        fourByteLength stream trp.sck + 1 +
          (packetEncode (fourByteLength stream trp.sck)).length > buflen := by
  by_cases hends : remainingLengthEnds stream trp.sck
  · exact ⟨fun _ => .inl hends, fun _ => packetReadnb_ends hstate hends⟩
  · have hrc := packetReadnb_overlong buf buflen hstate hends
    have hlength := decodedLength_overlong hends
    rw [packetRead_exactly, headedLength, hlength, ← Nat.add_assoc]
    constructor
    · intro hagree
      right
      by_contra hfits
      have hsame := hagree.rc
      rw [hrc, if_neg hfits] at hsame
      have : (headerType (stream trp.sck) : Int) = -1 := hsame.symm
      omega
    · rintro (h | hlong)
      · exact absurd h hends
      · rw [if_pos hlong]
        exact ⟨hrc, fun h => absurd rfl h, fun h => absurd rfl h⟩

theorem readers_agree_puback :
    ReadersAgree (packetRead (exactly pubackStream) [0, 0, 0, 0, 0] 5 0)
      (packetReadnb (exactly pubackStream) [0, 0, 0, 0, 0] 5 ⟨0, 9, 9, 9, 0⟩) :=
  (readers_agree_iff pubackStream 5 [0, 0, 0, 0, 0] ⟨0, 9, 9, 9, 0⟩ rfl).mpr
    (.inl ⟨0, by decide, by decide⟩)

def overlongStream (i : Nat) : UInt8 := [48, 128, 128, 128, 128].getD i 0

theorem readers_disagree_overlong :
    ¬ReadersAgree (packetRead (exactly overlongStream) [0, 0, 0, 0, 0] 5 0)
      (packetReadnb (exactly overlongStream) [0, 0, 0, 0, 0] 5 ⟨0, 0, 0, 0, 0⟩) := by
  intro h
  exact absurd h.rc (by decide)

end MbedMqtt
