import MbedMqtt.Network.Socket

namespace MbedMqtt

-- recv hands over `taken` of the `remaining` bytes in positive chunks and then would block
inductive TimesOut : Nat → Socket → Nat → Socket → Prop where
  | now {remaining : Nat} {s s' : Socket} {bytes : Bytes} (hremaining : 0 < remaining)
      (hrecv : s.recv remaining = (NSAPI_ERROR_WOULD_BLOCK, bytes, s')) : TimesOut remaining s 0 s'
  | later {remaining n taken : Nat} {s s' s'' : Socket} {bytes : Bytes} (hn : 0 < n)
      (hremaining : 0 < remaining) (hrecv : s.recv remaining = ((n : Int), bytes, s'))
      (hrest : TimesOut (remaining - n) s' taken s'') : TimesOut remaining s (n + taken) s''

theorem convert_eq_zero_iff {code : Int} :
    convertNsapiErrorToMqttError code = 0 ↔ code = NSAPI_ERROR_WOULD_BLOCK := by
  rw [convertNsapiErrorToMqttError]
  split_ifs with hblock hclosed
  · exact iff_of_true rfl hblock
  · exact iff_of_false (by decide) hblock
  · exact iff_of_false hclosed hblock

theorem recv_spec (s : Socket) {len : Nat} (hlen : 0 < len) {ret : Int} {bytes : Bytes} {s' : Socket}
    (hrecv : s.recv len = (ret, bytes, s')) :
    s'.stream = s.stream.drop ret.toNat ∧ ret.toNat ≤ len ∧ ret.toNat ≤ s.stream.length := by
  rcases recv_cases s hlen with ⟨code, rest, h, hcode⟩ | ⟨n, rest, h0, hle, hn, h⟩
  · cases h.symm.trans hrecv
    rw [Int.toNat_of_nonpos hcode, List.drop_zero]
    exact ⟨rfl, Nat.zero_le _, Nat.zero_le _⟩
  · cases h.symm.trans hrecv
    exact ⟨rfl, hle, hn⟩

namespace TimesOut

variable {remaining taken : Nat} {s s' : Socket}

theorem stream (h : TimesOut remaining s taken s') :
    s'.stream = s.stream.drop taken ∧ taken ≤ s.stream.length := by
  induction h with
  | now hremaining hrecv => exact ⟨(recv_spec _ hremaining hrecv).1, Nat.zero_le _⟩
  | later hn hremaining hrecv hrest ih =>
    obtain ⟨hstream, -, hroom⟩ := recv_spec _ hremaining hrecv
    rw [Int.toNat_natCast] at hstream hroom
    rw [hstream, List.drop_drop, List.length_drop] at ih
    exact ⟨ih.1, by omega⟩

theorem loop (h : TimesOut remaining s taken s') (len : Nat) {fuel : Nat}
    (hfuel : remaining ≤ fuel) (buffer : Bytes) :
    (accumulateLoop len fuel remaining buffer s).1.rc = 0 ∧
      (accumulateLoop len fuel remaining buffer s).2 = s' := by
  induction h generalizing fuel buffer with
  | now hremaining hrecv =>
    obtain ⟨fuel, rfl⟩ : ∃ k, fuel = k + 1 := ⟨fuel - 1, by omega⟩
    have hblock : ¬0 < NSAPI_ERROR_WOULD_BLOCK := by decide
    simp only [accumulateLoop, if_neg hremaining.ne', hrecv, if_neg hblock]
    exact ⟨convert_eq_zero_iff.mpr rfl, trivial⟩
  | later hn hremaining hrecv hrest ih =>
    obtain ⟨fuel, rfl⟩ : ∃ k, fuel = k + 1 := ⟨fuel - 1, by omega⟩
    simp only [accumulateLoop, if_neg hremaining.ne', hrecv, if_pos (Int.natCast_pos.mpr hn),
      Int.toNat_natCast]
    exact ih (by omega) _

end TimesOut

-- the loop returns 0 only where a recv would block
theorem timesOut_of_loop {len fuel remaining : Nat} {buffer : Bytes} {s : Socket} (hlen : 0 < len)
    (hfuel : remaining ≤ fuel) (h : (accumulateLoop len fuel remaining buffer s).1.rc = 0) :
    ∃ taken s', TimesOut remaining s taken s' := by
  induction fuel generalizing remaining buffer s with
  | zero =>
    simp only [accumulateLoop] at h
    omega
  | succ fuel ih =>
    by_cases hremaining : remaining = 0
    · simp only [accumulateLoop, if_pos hremaining] at h
      omega
    have hpos := Nat.pos_of_ne_zero hremaining
    rcases hrecv : s.recv remaining with ⟨ret, bytes, s'⟩
    simp only [accumulateLoop, if_neg hremaining, hrecv] at h
    split_ifs at h with hret
    · obtain ⟨n, rfl⟩ := Int.eq_ofNat_of_zero_le hret.le
      have hn := Int.natCast_pos.mp hret
      rw [Int.toNat_natCast] at h
      obtain ⟨taken, s'', hrest⟩ := ih (by omega) h
      exact ⟨n + taken, s'', .later hn hpos hrecv hrest⟩
    · obtain rfl := convert_eq_zero_iff.mp h
      exact ⟨0, s', .now hpos hrecv⟩

def Interrupted (s : Socket) (len : Nat) : Prop :=
  ∃ taken s', 0 < taken ∧ TimesOut len s taken s'

def Socket.Flowing (s : Socket) : Prop := ∀ answer ∈ s.recvs, ∃ size, answer = .chunk size

-- `more` is what has arrived when the read is tried again
structure LosesNothing (s : Socket) (len : Nat) : Prop where
  unconsumed : (accumulateMqttRead s len).1.rc = 0 → (accumulateMqttRead s len).2.stream = s.stream
  reread : (accumulateMqttRead s len).1.rc = 0 → ∀ (more : Bytes) (s' : Socket), s'.Flowing →
    s'.stream = (accumulateMqttRead s len).2.stream ++ more → len ≤ (s.stream ++ more).length →
    (accumulateMqttRead s' len).1 = ⟨len, (s.stream ++ more).take len⟩

theorem losesNothing_of_unconsumed {s : Socket} {len : Nat}
    (h : (accumulateMqttRead s len).1.rc = 0 →
      (accumulateMqttRead s len).2.stream = s.stream) : LosesNothing s len where
  unconsumed := h
  reread hrc more s' hflowing hstream hlen := by
    rw [h hrc] at hstream
    obtain ⟨rest, -, heq⟩ := accumulateLoop_chunks len len len [] s' hflowing le_rfl (hstream ▸ hlen)
    rw [accumulateMqttRead, heq, hstream]
    rfl

theorem accumulateMqttRead_losesNothing_iff (s : Socket) (len : Nat) :
    LosesNothing s len ↔ ¬Interrupted s len := by
  constructor
  · rintro h ⟨taken, s', htaken, htimeout⟩
    obtain ⟨hrc, hsocket⟩ := htimeout.loop len le_rfl []
    obtain ⟨hstream, hroom⟩ := htimeout.stream
    have hlength := congrArg List.length (h.unconsumed hrc)
    rw [accumulateMqttRead, hsocket, hstream, List.length_drop] at hlength
    omega
  · intro h
    refine losesNothing_of_unconsumed fun hrc => ?_
    rcases Nat.eq_zero_or_pos len with rfl | hlen
    · rfl
    obtain ⟨taken, s', htimeout⟩ := timesOut_of_loop hlen le_rfl hrc
    have hsocket := (htimeout.loop len le_rfl []).2
    obtain rfl : taken = 0 := Nat.eq_zero_of_not_pos fun htaken => h ⟨taken, s', htaken, htimeout⟩
    rw [accumulateMqttRead, hsocket, htimeout.stream.1, List.drop_zero]

def slowSocket : Socket := ⟨[48, 5, 0, 1], [.chunk 1, .error NSAPI_ERROR_WOULD_BLOCK], []⟩

-- the second read starts one byte into the stream
theorem slowSocket_loses :
    (accumulateMqttRead slowSocket 2).1.rc = 0 ∧
      (accumulateMqttRead slowSocket 2).2.stream = [5, 0, 1] ∧
      (accumulateMqttRead (accumulateMqttRead slowSocket 2).2 2).1 = ⟨2, [5, 0]⟩ ∧
      ¬LosesNothing slowSocket 2 :=
  ⟨by decide, by decide, by decide, fun h => absurd (h.unconsumed (by decide)) (by decide)⟩

end MbedMqtt
