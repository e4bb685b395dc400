import MbedMqtt.Network.Socket

namespace MbedMqtt

class SocketType (σ : Type) where
  recv : σ → Nat → Int × Bytes × σ
  send : σ → Bytes → Int × σ
  recv_le : ∀ s len, (recv s len).1 ≤ len
  recv_length : ∀ s len, 0 < (recv s len).1 →
    ((recv s len).2.1.length : Int) = (recv s len).1

inductive UdpAnswer where
  | datagram (bytes : Bytes)
  | error (code : Int)
  deriving DecidableEq, Repr

structure UdpSocket where
  answers : List UdpAnswer
  sends : List Int
  deriving DecidableEq, Repr

namespace UdpSocket

-- one call takes one datagram; what does not fit in the buffer is lost
def recv (s : UdpSocket) (len : Nat) : Int × Bytes × UdpSocket :=
  let rest := { s with answers := s.answers.tail }
  match s.answers.headD (.error NSAPI_ERROR_WOULD_BLOCK) with
  | .datagram bytes => ((bytes.take len).length, bytes.take len, rest)
  | .error code => (min code 0, [], rest)

def send (s : UdpSocket) (bytes : Bytes) : Int × UdpSocket :=
  match s.sends with
  | [] => (bytes.length, s)
  | rc :: rest => (rc, { s with sends := rest })

theorem recv_le (s : UdpSocket) (len : Nat) : (s.recv len).1 ≤ len := by
  unfold recv
  cases s.answers.headD (.error NSAPI_ERROR_WOULD_BLOCK) with
  | datagram bytes => exact Int.ofNat_le.mpr (List.length_take_le len bytes)
  | error code =>
    simp only
    omega

theorem recv_length (s : UdpSocket) (len : Nat) (h : 0 < (s.recv len).1) :
    ((s.recv len).2.1.length : Int) = (s.recv len).1 := by
  unfold recv at h ⊢
  cases hanswer : s.answers.headD (.error NSAPI_ERROR_WOULD_BLOCK) with
  | datagram bytes => rfl
  | error code =>
    simp only [hanswer] at h
    omega

instance : SocketType UdpSocket where
  recv := recv
  send := send
  recv_le := recv_le
  recv_length := recv_length

end UdpSocket

namespace Socket

theorem recv_le (s : Socket) (len : Nat) : (s.recv len).1 ≤ len := by
  rcases Nat.eq_zero_or_pos len with rfl | hpos
  · unfold recv
    cases s.recvs.headD (.chunk 0) <;> simp
  · rcases recv_cases s hpos with ⟨code, rest, hrecv, hcode⟩ | ⟨n, rest, -, hle, -, hrecv⟩
    · rw [hrecv]
      exact hcode.trans (Int.natCast_nonneg len)
    · rw [hrecv]
      exact Int.ofNat_le.mpr hle

theorem recv_length (s : Socket) (len : Nat) (h : 0 < (s.recv len).1) :
    ((s.recv len).2.1.length : Int) = (s.recv len).1 := by
  have hle := s.recv_le len
  have hpos : 0 < len := by omega
  rcases recv_cases s hpos with ⟨code, rest, hrecv, hcode⟩ | ⟨n, rest, -, -, hn, hrecv⟩
  · rw [hrecv] at h
    exact absurd h hcode.not_gt
  · rw [hrecv, List.length_take_of_le hn]

instance : SocketType Socket where
  recv := recv
  send := send
  recv_le := recv_le
  recv_length := recv_length

end Socket

variable {σ : Type} [SocketType σ]

-- the loop of `accumulateLoop` for every socket type of the template
def accumulateFrom (len : Nat) : Nat → Nat → Bytes → σ → ReadResult × σ
  | 0, _, buffer, s => (⟨len, buffer⟩, s)
  | fuel + 1, remaining, buffer, s =>
      if remaining = 0 then (⟨len, buffer⟩, s)
      else
        let (ret, bytes, s) := SocketType.recv s remaining
        if 0 < ret then accumulateFrom len fuel (remaining - ret.toNat) (buffer ++ bytes) s
        else (⟨convertNsapiErrorToMqttError ret, buffer⟩, s)

theorem accumulateFrom_socket (len fuel remaining : Nat) (buffer : Bytes) (s : Socket) :
    accumulateFrom len fuel remaining buffer s = accumulateLoop len fuel remaining buffer s := by
  induction fuel generalizing remaining buffer s with
  | zero => rfl
  | succ fuel ih => simp only [accumulateFrom, accumulateLoop, ih]; rfl

theorem convertNsapiErrorToMqttError_le {ret : Int} (h : ret ≤ 0) :
    convertNsapiErrorToMqttError ret ≤ 0 := by
  unfold convertNsapiErrorToMqttError
  split_ifs
  · exact le_rfl
  · decide
  · exact h

structure Accumulated (len : Nat) (buffer : Bytes) (r : ReadResult) : Prop where
  kept : ∃ more, r.bytes = buffer ++ more
  rc : r.rc = len ∧ r.bytes.length = len ∨ r.rc ≤ 0

theorem accumulateFrom_accumulated (len fuel remaining : Nat) (buffer : Bytes) (s : σ)
    (hfuel : remaining ≤ fuel) (hbuffer : buffer.length + remaining = len) :
    Accumulated len buffer (accumulateFrom len fuel remaining buffer s).1 := by
  induction fuel generalizing remaining buffer s with
  | zero =>
    have hfull : buffer.length = len := by omega
    exact ⟨⟨[], by simp [accumulateFrom]⟩, .inl ⟨rfl, hfull⟩⟩
  | succ fuel ih =>
    unfold accumulateFrom
    split_ifs with hrem
    · exact ⟨⟨[], by simp⟩, .inl ⟨rfl, by simp only; omega⟩⟩
    have hle := SocketType.recv_le s remaining
    have hlength := SocketType.recv_length s remaining
    generalize SocketType.recv s remaining = answer at hle hlength
    obtain ⟨ret, bytes, s'⟩ := answer
    simp only at hle hlength ⊢
    split_ifs with hret
    · replace hlength := hlength hret
      obtain ⟨⟨more, hmore⟩, hrc⟩ := ih (remaining - ret.toNat) (buffer ++ bytes) s' (by omega)
        (by rw [List.length_append]; omega)
      exact ⟨⟨bytes ++ more, by rw [hmore, List.append_assoc]⟩, hrc⟩
    · exact ⟨⟨[], by simp⟩, .inr (convertNsapiErrorToMqttError_le (Int.not_lt.mp hret))⟩

theorem accumulateFrom_datagram (len : Nat) {fuel remaining : Nat} (buffer : Bytes)
    {datagram : Bytes} (later : List UdpAnswer) (sends : List Int) (hpos : 0 < datagram.length)
    (hremaining : datagram.length ≤ remaining) (hfuel : remaining ≤ fuel) :
    accumulateFrom len fuel remaining buffer (⟨.datagram datagram :: later, sends⟩ : UdpSocket) =
      accumulateFrom len (fuel - 1) (remaining - datagram.length) (buffer ++ datagram)
        (⟨later, sends⟩ : UdpSocket) := by
  obtain ⟨fuel, rfl⟩ : ∃ n, fuel = n + 1 := ⟨fuel - 1, by omega⟩
  have hrecv : SocketType.recv (⟨.datagram datagram :: later, sends⟩ : UdpSocket) remaining =
      ((datagram.length : Int), datagram, ⟨later, sends⟩) := by
    have htake : datagram.take remaining = datagram := List.take_of_length_le hremaining
    simp only [SocketType.recv, UdpSocket.recv, List.headD_cons, htake, List.tail_cons]
  have hnonzero : remaining ≠ 0 := by omega
  have hret : (0 : Int) < datagram.length := by omega
  simp only [accumulateFrom, hnonzero, if_false, hrecv, hret, if_true, Int.toNat_natCast,
    Nat.add_sub_cancel]

structure MQTTNetworkMbedOs (σ : Type) where
  socket : σ
  deriving DecidableEq, Repr

namespace MQTTNetworkMbedOs

def read (n : MQTTNetworkMbedOs σ) (len : Nat) : ReadResult × MQTTNetworkMbedOs σ :=
  let (r, s) := accumulateFrom len len len [] n.socket
  (r, ⟨s⟩)

def write (n : MQTTNetworkMbedOs σ) (bytes : Bytes) : Int × MQTTNetworkMbedOs σ :=
  let (ret, s) := SocketType.send n.socket bytes
  if 0 < ret then (ret, ⟨s⟩) else (convertNsapiErrorToMqttError ret, ⟨s⟩)

theorem read_accumulated (n : MQTTNetworkMbedOs σ) (len : Nat) : Accumulated len [] (n.read len).1 :=
  accumulateFrom_accumulated len len len [] n.socket le_rfl (by simp)

instance : Network (MQTTNetworkMbedOs σ) where
  read := read
  write := write
  read_length n len h := by
    rcases (read_accumulated n len).rc with ⟨hrc, hlen⟩ | hrc
    · rw [hrc, hlen]
    · exact absurd h hrc.not_gt

end MQTTNetworkMbedOs

end MbedMqtt
