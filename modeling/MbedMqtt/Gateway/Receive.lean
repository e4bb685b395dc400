import MbedMqtt.Gateway.Buffer

namespace MbedMqtt.MQTTSNGW

abbrev MAX_NO_OF_REMAINING_LENGTH_BYTES : Nat := 3

structure NetworkRead where
  rc : Int
  bytes : Bytes
  deriving DecidableEq, Repr

structure Received (ν : Type) where
  rc : Int
  packet : MQTTGWPacket
  network : ν

section Recv

variable {ν : Type} (networkRecv : ν → UInt16 → NetworkRead × ν)

-- a call that fails otherwise than with -1 leaves `c` as it is
def recvRemainingLength (c : UInt8) :
    Nat → Nat → Nat → Nat → ν → Except (Int × Nat) (Nat × Nat) × ν
  | 0, _, value, _, network => (.error (-2, value), network)
  | tries + 1, len, value, multiplier, network =>
    let (read, network) := networkRecv network 1
    if read.rc = -1 then (.error (-1, value), network)
    else
      let c := read.bytes.headD c
      let value := value + c.toNat % 128 * multiplier
      if 128 ≤ c.toNat then
        recvRemainingLength c tries (len + 1) value (multiplier * 128) network
      else (.ok (len + 1, value), network)

-- `Network::recv` takes the length to read as a `uint16_t`
def recvPayload (header : UInt8) (len remainingLength : Nat) (network : ν) : Received ν :=
  if 0 < remainingLength then
    let (read, network) := networkRecv network (UInt16.ofNat remainingLength)
    let packet : MQTTGWPacket :=
      ⟨header, remainingLength, store (List.replicate remainingLength 0) 0 read.bytes⟩
    if read.rc = -1 then ⟨-1, packet, network⟩
    else if read.rc ≠ remainingLength then ⟨-2, packet, network⟩
    else ⟨1 + len + remainingLength, packet, network⟩
  else ⟨1 + len + remainingLength, ⟨header, remainingLength, []⟩, network⟩

def MQTTGWPacket.recv (c : UInt8) (network : ν) : Received ν :=
  let (read, network) := networkRecv network 1
  let header := read.bytes.headD 0
  if read.rc ≤ 0 then ⟨read.rc, ⟨header, 0, []⟩, network⟩
  else
    match recvRemainingLength networkRecv c MAX_NO_OF_REMAINING_LENGTH_BYTES 0 0 1 network with
    | (.error (rc, remainingLength), network) => ⟨rc, ⟨header, remainingLength, []⟩, network⟩
    | (.ok (len, remainingLength), network) =>
      recvPayload networkRecv header len remainingLength network

end Recv

structure Delivers {ν : Type} (networkRecv : ν → UInt16 → NetworkRead × ν) (pending : ν → Bytes) :
    Prop where
  read : ∀ network n, n.toNat ≤ (pending network).length →
    (networkRecv network n).1 = ⟨n.toNat, (pending network).take n.toNat⟩
  rest : ∀ network n, n.toNat ≤ (pending network).length →
    pending (networkRecv network n).2 = (pending network).drop n.toNat

namespace Delivers

variable {ν : Type} {networkRecv : ν → UInt16 → NetworkRead × ν} {pending : ν → Bytes}

theorem byte (h : Delivers networkRecv pending) {network : ν} {b : UInt8} {bs : Bytes}
    (hpending : pending network = b :: bs) :
    (networkRecv network 1).1 = ⟨1, [b]⟩ ∧ pending (networkRecv network 1).2 = bs := by
  have hlen : (1 : UInt16).toNat ≤ (pending network).length := by
    rw [hpending]
    exact Nat.succ_le_succ (Nat.zero_le _)
  rw [h.read network 1 hlen, h.rest network 1 hlen, hpending]
  exact ⟨rfl, rfl⟩

theorem recvRemainingLength (h : Delivers networkRecv pending) {bs rest : Bytes}
    (hterminated : Base128.Terminated bs) {tries : Nat} (htries : bs.length ≤ tries)
    (c : UInt8) (len value multiplier : Nat) {network : ν}
    (hpending : pending network = bs ++ rest) :
    ∃ network', MQTTSNGW.recvRemainingLength networkRecv c tries len value multiplier network =
      (.ok (len + bs.length, value + Base128.value bs * multiplier), network') ∧
      pending network' = rest := by
  induction bs generalizing tries c len value multiplier network with
  | nil => exact hterminated.elim
  | cons b bs ih =>
    obtain ⟨tries, rfl⟩ : ∃ n, tries = n + 1 := ⟨tries - 1, by simp at htries; omega⟩
    obtain ⟨hread, hrest⟩ := h.byte hpending
    rw [MQTTSNGW.recvRemainingLength]
    simp only [hread, List.headD_cons]
    rw [if_neg (by decide)]
    rcases Base128.terminated_cons hterminated with ⟨hlast, rfl⟩ | ⟨hmore, hterminated'⟩
    · rw [if_neg (by omega)]
      exact ⟨_, by simp [Base128.value], hrest⟩
    · rw [if_pos hmore]
      obtain ⟨network', hloop, hpending'⟩ := ih hterminated' (by simpa using htries) b (len + 1)
        (value + b.toNat % 128 * multiplier) (multiplier * 128) hrest
      refine ⟨network', hloop.trans ?_, hpending'⟩
      rw [List.length_cons, Base128.value]
      congr 3
      · omega
      · ring

end Delivers

end MbedMqtt.MQTTSNGW
