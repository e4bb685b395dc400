import MbedMqtt.Packet.Wire

namespace MbedMqtt

abbrev MQTTPACKET_READ_ERROR : Int := -1

structure MQTTTransport (γ : Type) where
  sck : γ
  multiplier : Nat
  remLen : Nat
  len : Nat
  state : Nat

section Readers

variable {γ : Type} (getfn : γ → Nat → Option Bytes × γ)

def getcharfn (g : γ) : Option UInt8 × γ :=
  match getfn g 1 with
  | (some [c], g) => (some c, g)
  | (_, g) => (none, g)

def packetRead (buf : Bytes) (buflen : Nat) (g : γ) : Int × Bytes × γ :=
  match getfn g 1 with
  | (none, g) => (-1, buf, g)
  | (some header, g) =>
      let buf := store buf 0 header
      if header.length ≠ 1 then (-1, buf, g)
      else
        let decoded := packetDecode (getcharfn getfn) g
        let remLen := decoded.1.2
        let buf := store buf 1 (packetEncode remLen)
        let len := 1 + (packetEncode remLen).length
        if remLen + len > buflen then (-1, buf, decoded.2)
        else if remLen = 0 then (headerType (byteAt buf 0), buf, decoded.2)
        else
          match getfn decoded.2 remLen with
          | (none, g) => (-1, buf, g)
          | (some body, g) =>
              let buf := store buf len body
              if body.length ≠ remLen then (-1, buf, g)
              else (headerType (byteAt buf 0), buf, g)

def decodenbLoop : Nat → MQTTTransport γ → Int × MQTTTransport γ
  | 0, trp => (MQTTPACKET_READ_ERROR, trp)
  | tries + 1, trp =>
      match getfn trp.sck 1 with
      | (none, sck) => (MQTTPACKET_READ_ERROR, { trp with sck := sck })
      | (some [], sck) => (0, { trp with sck := sck })
      | (some (c :: _), sck) =>
          let trp := { trp with
            sck := sck
            len := trp.len + 1
            remLen := trp.remLen + c.toNat % 128 * trp.multiplier
            multiplier := trp.multiplier * 128 }
          if 128 ≤ c.toNat then decodenbLoop tries trp else (trp.len, trp)

def MQTTTransport.primed (trp : MQTTTransport γ) : MQTTTransport γ :=
  if trp.len = 0 then { trp with multiplier := 1, remLen := 0 } else trp

-- a byte of the field taken in
def MQTTTransport.added (trp : MQTTTransport γ) (b : UInt8) (sck : γ) : MQTTTransport γ :=
  { trp with
    sck := sck
    len := trp.len + 1
    remLen := trp.remLen + b.toNat % 128 * trp.multiplier
    multiplier := trp.multiplier * 128 }

def packetDecodenb (trp : MQTTTransport γ) : Int × MQTTTransport γ :=
  decodenbLoop getfn (maxNoOfRemainingLengthBytes - trp.len) trp.primed

def readnbBody (buf : Bytes) (trp : MQTTTransport γ) : Int × Bytes × MQTTTransport γ :=
  if trp.remLen = 0 then (headerType (byteAt buf 0), buf, { trp with state := 0 })
  else
    match getfn trp.sck trp.remLen with
    | (none, sck) => (-1, buf, { trp with sck := sck, state := 0 })
    | (some body, sck) =>
        if body.length = 0 then (0, buf, { trp with sck := sck })
        else
          let buf := store buf trp.len body
          let trp := { trp with
            sck := sck
            remLen := trp.remLen - body.length
            len := trp.len + body.length }
          if trp.remLen ≠ 0 then (0, buf, trp)
          else (headerType (byteAt buf 0), buf, { trp with state := 0 })

def readnbLength (buf : Bytes) (buflen : Nat) (trp : MQTTTransport γ) :
    Int × Bytes × MQTTTransport γ :=
  let decoded := packetDecodenb getfn trp
  let trp := decoded.2
  if decoded.1 = MQTTPACKET_READ_ERROR then (-1, buf, { trp with state := 0 })
  else if decoded.1 = 0 then (0, buf, trp)
  else
    let buf := store buf 1 (packetEncode trp.remLen)
    let trp := { trp with len := 1 + (packetEncode trp.remLen).length }
    if trp.remLen + trp.len > buflen then (-1, buf, { trp with state := 0 })
    else readnbBody getfn buf { trp with state := 2 }

def readnbHeader (buf : Bytes) (buflen : Nat) (trp : MQTTTransport γ) :
    Int × Bytes × MQTTTransport γ :=
  match getfn trp.sck 1 with
  | (none, sck) => (-1, buf, { trp with sck := sck, state := 0 })
  | (some header, sck) =>
      if header.length = 0 then (0, buf, { trp with sck := sck })
      else readnbLength getfn (store buf 0 header) buflen { trp with sck := sck, len := 0, state := 1 }

def packetReadnb (buf : Bytes) (buflen : Nat) (trp : MQTTTransport γ) :
    Int × Bytes × MQTTTransport γ :=
  match trp.state with
  | 0 => readnbHeader getfn buf buflen trp
  | 1 => readnbLength getfn buf buflen trp
  | 2 => readnbBody getfn buf trp
  | _ => readnbHeader getfn buf buflen { trp with state := 0 }

def readnbUntil (buflen : Nat) : Nat → Bytes → MQTTTransport γ →
    Option (Int × Bytes × MQTTTransport γ)
  | 0, _, _ => none
  | calls + 1, buf, trp =>
      let r := packetReadnb getfn buf buflen trp
      if r.1 = 0 then readnbUntil buflen calls r.2.1 r.2.2 else some r

variable {getfn} {trp : MQTTTransport γ} {tries : Nat} {b : UInt8} {sck : γ}

theorem decodenbLoop_again (hget : getfn trp.sck 1 = (some [], sck)) :
    decodenbLoop getfn (tries + 1) trp = (0, { trp with sck := sck }) := by
  simp only [decodenbLoop, hget]

theorem decodenbLoop_byte (hget : getfn trp.sck 1 = (some [b], sck)) :
    decodenbLoop getfn (tries + 1) trp =
      if 128 ≤ b.toNat then decodenbLoop getfn tries (trp.added b sck)
      else ((trp.added b sck).len, trp.added b sck) := by
  simp only [decodenbLoop, hget]
  rfl

theorem MQTTTransport.added_primed (trp : MQTTTransport γ) (b : UInt8) (sck : γ) :
    (trp.added b sck).primed = trp.added b sck := if_neg (Nat.succ_ne_zero _)

theorem primed_step (h : trp.primed = trp) :
    ({ trp with sck := sck } : MQTTTransport γ).primed = { trp with sck := sck } := by
  unfold MQTTTransport.primed at h ⊢
  split_ifs at h ⊢
  · have hmultiplier := congrArg MQTTTransport.multiplier h
    have hremLen := congrArg MQTTTransport.remLen h
    simp only at hmultiplier hremLen ⊢
    rw [hmultiplier, hremLen]
  · rfl

end Readers

end MbedMqtt
