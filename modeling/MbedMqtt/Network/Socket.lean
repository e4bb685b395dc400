import MbedMqtt.Network.Platform

namespace MbedMqtt

abbrev NSAPI_ERROR_WOULD_BLOCK : Int := -3001

inductive RecvAnswer where
  | chunk (size : Nat)
  | error (code : Int)
  deriving DecidableEq, Repr

structure Socket where
  stream : Bytes
  recvs : List RecvAnswer
  sends : List Int
  deriving DecidableEq, Repr

namespace Socket

def recv (s : Socket) (len : Nat) : Int × Bytes × Socket :=
  let rest := { s with recvs := s.recvs.tail }
  match s.recvs.headD (.chunk len) with
  | .error code => (min code 0, [], rest)
  | .chunk size =>
      let n := min (min (max size 1) len) s.stream.length
      if n = 0 then (NSAPI_ERROR_WOULD_BLOCK, [], rest)
      else (n, s.stream.take n, { rest with stream := s.stream.drop n })

def send (s : Socket) (bytes : Bytes) : Int × Socket :=
  match s.sends with
  | [] => (bytes.length, s)
  | rc :: rest => (rc, { s with sends := rest })

end Socket

def convertNsapiErrorToMqttError (nsapiError : Int) : Int :=
  if nsapiError = NSAPI_ERROR_WOULD_BLOCK then 0
  else if nsapiError = 0 then -1
  else nsapiError

def accumulateLoop (len : Nat) : Nat → Nat → Bytes → Socket → ReadResult × Socket
  | 0, _, buffer, s => (⟨len, buffer⟩, s)
  | fuel + 1, remaining, buffer, s =>
      if remaining = 0 then (⟨len, buffer⟩, s)
      else
        let (ret, bytes, s) := s.recv remaining
        if 0 < ret then accumulateLoop len fuel (remaining - ret.toNat) (buffer ++ bytes) s
        else (⟨convertNsapiErrorToMqttError ret, buffer⟩, s)

def accumulateMqttRead (s : Socket) (len : Nat) : ReadResult × Socket :=
  accumulateLoop len len len [] s

def mqttWrite (s : Socket) (bytes : Bytes) : Int × Socket :=
  let (ret, s) := s.send bytes
  if 0 < ret then (ret, s) else (convertNsapiErrorToMqttError ret, s)

theorem recv_cases (s : Socket) {len : Nat} (hlen : 0 < len) :
    (∃ code rest, s.recv len = (code, [], { s with recvs := rest }) ∧ code ≤ 0) ∨
      ∃ n rest, 0 < n ∧ n ≤ len ∧ n ≤ s.stream.length ∧
        s.recv len = ((n : Int), s.stream.take n, { s with stream := s.stream.drop n, recvs := rest }) := by
  unfold Socket.recv
  cases s.recvs.headD (.chunk len) with
  | error code => exact .inl ⟨_, _, rfl, by omega⟩
  | chunk size =>
    by_cases hn : min (min (max size 1) len) s.stream.length = 0
    · exact .inl ⟨_, _, by simp only [hn, if_true]; rfl, by decide⟩
    · refine .inr ⟨min (min (max size 1) len) s.stream.length, s.recvs.tail, by omega, by omega,
        by omega, ?_⟩
      simp only [hn, if_false]

theorem accumulateLoop_length (len fuel remaining : Nat) (buffer : Bytes) (s : Socket)
    (hfuel : remaining ≤ fuel) (hbuffer : buffer.length + remaining = len)
    (h : 0 < (accumulateLoop len fuel remaining buffer s).1.rc) :
    ((accumulateLoop len fuel remaining buffer s).1.bytes.length : Int) =
      (accumulateLoop len fuel remaining buffer s).1.rc := by
  induction fuel generalizing remaining buffer s with
  | zero =>
    simp only [accumulateLoop]
    omega
  | succ fuel ih =>
    by_cases hrem : remaining = 0
    · simp only [accumulateLoop, hrem, if_true]
      omega
    · rcases recv_cases s (Nat.pos_of_ne_zero hrem) with ⟨code, rest, hr, hc⟩ | ⟨n, rest, h0, hle, hs, hr⟩
      · simp only [accumulateLoop, hrem, if_false, hr, show ¬0 < code by omega] at h
        unfold convertNsapiErrorToMqttError at h
        split at h
        · omega
        · split at h <;> omega
      · simp only [accumulateLoop, hrem, if_false, hr, show (0 : Int) < n by omega, if_true,
          Int.toNat_natCast] at h ⊢
        have hn : (s.stream.take n).length = n := List.length_take_of_le hs
        apply ih _ _ _ (by omega) _ h
        rw [List.length_append, hn]
        omega

instance : Network Socket where
  read := accumulateMqttRead
  write := mqttWrite
  read_length s n h := accumulateLoop_length n n n [] s le_rfl (by simp) h

theorem recv_chunk (s : Socket) {len : Nat} (hok : ∀ r ∈ s.recvs, ∃ size, r = .chunk size)
    (hlen : 0 < len) (hs : 0 < s.stream.length) :
    ∃ n, 0 < n ∧ n ≤ len ∧ n ≤ s.stream.length ∧ s.recv len =
      ((n : Int), s.stream.take n, { s with stream := s.stream.drop n, recvs := s.recvs.tail }) := by
  obtain ⟨size, hsize⟩ : ∃ size, s.recvs.headD (.chunk len) = .chunk size := by
    cases hr : s.recvs with
    | nil => exact ⟨len, rfl⟩
    | cons r rest => exact hok r (by simp [hr])
  refine ⟨min (min (max size 1) len) s.stream.length, by omega, by omega, by omega, ?_⟩
  have hn : min (min (max size 1) len) s.stream.length ≠ 0 := by omega
  simp only [Socket.recv, hsize, hn, if_false]

theorem accumulateLoop_chunks (len fuel remaining : Nat) (buffer : Bytes) (s : Socket)
    (hok : ∀ r ∈ s.recvs, ∃ size, r = .chunk size) (hfuel : remaining ≤ fuel)
    (hs : remaining ≤ s.stream.length) :
    ∃ rest, (∀ r ∈ rest, ∃ size, r = RecvAnswer.chunk size) ∧
      accumulateLoop len fuel remaining buffer s =
        (⟨len, buffer ++ s.stream.take remaining⟩,
          { s with stream := s.stream.drop remaining, recvs := rest }) := by
  induction fuel generalizing remaining buffer s with
  | zero =>
    obtain rfl : remaining = 0 := by omega
    exact ⟨s.recvs, hok, by simp [accumulateLoop]⟩
  | succ fuel ih =>
    by_cases hrem : remaining = 0
    · subst hrem
      exact ⟨s.recvs, hok, by simp [accumulateLoop]⟩
    · obtain ⟨n, h0, hle, hn, hr⟩ := recv_chunk s hok (Nat.pos_of_ne_zero hrem) (by omega)
      have htail : ∀ r ∈ s.recvs.tail, ∃ size, r = RecvAnswer.chunk size :=
        fun r hr => hok r (List.mem_of_mem_tail hr)
      obtain ⟨rest, hrest, heq⟩ := ih (remaining - n) (buffer ++ s.stream.take n)
        { s with stream := s.stream.drop n, recvs := s.recvs.tail } htail (by omega)
        (by simp only [List.length_drop]; omega)
      refine ⟨rest, hrest, ?_⟩
      simp only [accumulateLoop, hrem, if_false, hr, show (0 : Int) < n by omega, if_true,
        Int.toNat_natCast, heq]
      have htake : s.stream.take n ++ (s.stream.drop n).take (remaining - n) =
          s.stream.take remaining := by
        rw [← List.take_add, Nat.add_sub_cancel' hle]
      have hdrop : (s.stream.drop n).drop (remaining - n) = s.stream.drop remaining := by
        rw [List.drop_drop, Nat.add_sub_cancel' hle]
      simp [List.append_assoc, htake, hdrop]

end MbedMqtt
