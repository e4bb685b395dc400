import MbedMqtt.Network.XBee

namespace MbedMqtt.MQTTSNGW

structure Transmission where
  payload : Bytes
  addr : XBeeAddress
  awaited : UInt8 × UInt8
  bounded : payload.length ≤ 114
  deriving DecidableEq, Repr

def Transmission.frame (t : Transmission) (frameId : UInt8) : Bytes :=
  [API_XMITREQUEST, frameId] ++ t.addr.address64 ++ t.addr.address16 ++ [0, 0] ++ t.payload

theorem Transmission.frame_length (t : Transmission) (frameId : UInt8) :
    (t.frame frameId).length = 14 + t.payload.length := by
  simp only [frame, List.length_append, t.addr.long, t.addr.short, List.length_cons,
    List.length_nil]

namespace XBee

def transmit (xbee : XBee) (t : Transmission) : XBee × Bytes × Int :=
  xbee.send t.payload (UInt8.ofNat t.payload.length) t.addr t.awaited

def emitted (xbee : XBee) : List Transmission → Bytes
  | [] => []
  | t :: ts => (xbee.transmit t).2.1 ++ emitted (xbee.transmit t).1 ts

def framesSent (xbee : XBee) : List Transmission → List (Int × Bytes)
  | [] => []
  | t :: ts =>
      (14 + t.payload.length, t.frame (xbee.transmit t).1.frameId) ::
        framesSent (xbee.transmit t).1 ts

def readFrames (xbee : XBee) : Nat → Bytes → Option (List (Int × Bytes) × Bytes)
  | 0, port => some ([], port)
  | n + 1, port =>
      match xbee.readApiFrame port with
      | none => none
      | some (rc, recvData, port) =>
          (readFrames xbee n port).map fun more => ((rc, recvData) :: more.1, more.2)

end XBee

def xbeeStuffing : Stuffing UInt8 where
  esc := ESCAPE
  special c := c = START_BYTE ∨ c = ESCAPE ∨ c = XON ∨ c = XOFF
  mask c := c ^^^ 0x20
  special_esc := by decide
  mask_mask c := by rw [UInt8.xor_assoc, UInt8.xor_self, UInt8.xor_zero]

namespace XBee

variable {xbee : XBee}

theorem sendByte_eq (h : xbee.apiMode = 2) (c : UInt8) : xbee.sendByte c = xbeeStuffing.stuff c := by
  simp [sendByte, Stuffing.stuff, xbeeStuffing, h]

theorem recvByte_eq (h : xbee.apiMode = 2) {port rest : Bytes} {c : UInt8}
    (hnext : xbeeStuffing.next port = some (c, rest)) (buf : UInt8) :
    xbee.recvByte buf port = (0, c, rest) := by
  cases port with
  | nil => cases hnext
  | cons first port =>
    rcases Decidable.em (first = ESCAPE) with rfl | hplain
    · rw [recvByte, if_pos ⟨rfl, h⟩]
      cases port with
      | nil => cases hnext
      | cons d port =>
        obtain ⟨rfl, rfl⟩ := Prod.mk.inj (Option.some.inj hnext)
        simp only [xbeeStuffing, List.headD_cons, List.tail_cons, UInt8.xor_comm]
    · rw [xbeeStuffing.next_plain hplain] at hnext
      obtain ⟨rfl, rfl⟩ := Prod.mk.inj (Option.some.inj hnext)
      rw [recvByte, if_neg fun hescape => hplain hescape.1]

theorem recvByte_stuff (h : xbee.apiMode = 2) (buf c : UInt8) (rest : Bytes) :
    xbee.recvByte buf (xbeeStuffing.stuff c ++ rest) = (0, c, rest) :=
  recvByte_eq h (xbeeStuffing.next_stuff c rest) buf

theorem readData_eq (h : xbee.apiMode = 2) {n : Nat} {reading : Reading} {xs rest : Bytes}
    (htake : xbeeStuffing.take n reading.port = some (xs, rest))
    (hroom : reading.recvData.length + n ≤ recvDataSize) :
    ∃ buf, xbee.readData n reading =
      some (true, ⟨reading.recvData ++ xs, xs.foldl (· + ·) reading.checksum, buf, rest⟩) := by
  induction n generalizing reading xs with
  | zero =>
    obtain ⟨rfl, rfl⟩ := Prod.mk.inj (Option.some.inj htake)
    exact ⟨reading.buf, by rw [readData, List.append_nil]; rfl⟩
  | succ n ih =>
    rw [Stuffing.take] at htake
    cases hnext : xbeeStuffing.next reading.port with
    | none => simp [hnext] at htake
    | some read =>
      obtain ⟨c, port⟩ := read
      simp only [hnext] at htake
      obtain ⟨⟨ys, rest⟩, hrest, heq⟩ := Option.map_eq_some_iff.mp htake
      obtain ⟨rfl, rfl⟩ := Prod.mk.inj heq
      obtain ⟨buf, hread⟩ := @ih ⟨reading.recvData ++ [c], reading.checksum + c, c, port⟩ ys hrest
        (by simp only [List.length_append, List.length_singleton]; omega)
      refine ⟨buf, ?_⟩
      simp only [readData, recvByte_eq h hnext]
      rw [if_neg (by decide), if_pos (by omega), hread, List.append_assoc]
      rfl

theorem transmit_emitted (h : xbee.apiMode = 2) (t : Transmission) :
    (xbee.transmit t).2.1 = START_BYTE :: (xbeeStuffing.stuff 0 ++
      (xbeeStuffing.stuff (14 + UInt8.ofNat t.payload.length) ++
      ((t.frame (xbee.transmit t).1.frameId).flatMap xbeeStuffing.stuff ++ xbeeStuffing.stuff
        (0xff - (t.frame (xbee.transmit t).1.frameId).foldl (· + ·) 0)))) := by
  have hsend : xbee.sendByte = xbeeStuffing.stuff := funext (sendByte_eq h)
  have hlength : t.payload.length < 2 ^ 8 := Nat.lt_of_le_of_lt t.bounded (by decide)
  have htext : t.payload.take (UInt8.ofNat t.payload.length).toNat = t.payload := by
    rw [UInt8.toNat_ofNat_of_lt' hlength, List.take_length]
  have hrequest : xbeeStuffing.stuff API_XMITREQUEST = [API_XMITREQUEST] := by decide
  simp only [transmit, send, hsend, htext, Transmission.frame, List.flatMap_append,
    List.flatMap_cons, hrequest, List.append_assoc, List.cons_append, List.nil_append]

theorem readApiFrame_transmit {reader : XBee} (h : xbee.apiMode = 2) (hr : reader.apiMode = 2)
    (t : Transmission) (rest : Bytes) :
    reader.readApiFrame ((xbee.transmit t).2.1 ++ rest) =
      some ((14 + t.payload.length : Int), t.frame (xbee.transmit t).1.frameId, rest) := by
  have hlength := t.frame_length (xbee.transmit t).1.frameId
  have hbounded := t.bounded
  have hlen : (14 + UInt8.ofNat t.payload.length).toNat = 14 + t.payload.length := by
    rw [UInt8.toNat_add, UInt8.toNat_ofNat_of_lt' (Nat.lt_of_le_of_lt hbounded (by decide))]
    change (14 + t.payload.length) % 256 = _
    omega
  rw [transmit_emitted h]
  generalize t.frame (xbee.transmit t).1.frameId = frame at hlength
  have htaken := xbeeStuffing.take_stuffed frame
    (xbeeStuffing.stuff (0xff - frame.foldl (· + ·) 0) ++ rest)
  rw [hlength] at htaken
  obtain ⟨buf, hdata⟩ := @readData_eq reader hr _ ⟨[], 0, 14 + UInt8.ofNat t.payload.length, _⟩ _ _
    htaken (by rw [List.length_nil, recvDataSize]; omega)
  simp only [readApiFrame, List.cons_append, awaitStart, if_true, List.append_assoc,
    recvByte_stuff hr, hlen, hdata, List.nil_append]
  rw [hlength]
  rfl

end XBee

theorem xbee_frames_recovered {xbee reader : XBee} (h : xbee.apiMode = 2)
    (hr : reader.apiMode = 2) (ts : List Transmission) (rest : Bytes) :
    reader.readFrames ts.length (xbee.emitted ts ++ rest) = some (xbee.framesSent ts, rest) := by
  induction ts generalizing xbee with
  | nil => rfl
  | cons t ts ih =>
    have hmode : (xbee.transmit t).1.apiMode = 2 := h
    simp only [List.length_cons, XBee.readFrames, XBee.emitted, List.append_assoc,
      XBee.readApiFrame_transmit h hr, ih hmode, Option.map_some, XBee.framesSent]

def specialTransmissions : List Transmission :=
  [⟨[0x7e, 0x13], ⟨[0x7d, 0, 0, 0, 0, 0, 0, 0x11], [0x7e, 0x7d], rfl, rfl⟩, (0, 0), by decide⟩,
    ⟨[], ⟨[0, 0, 0, 0, 0, 0, 0, 1], [0, 0x13], rfl, rfl⟩, (0, 0), by decide⟩]

theorem xbee_frames_recovered_special :
    XBee.initial.readFrames specialTransmissions.length
        (XBee.emitted ⟨0x7c, 2, 0, 0⟩ specialTransmissions ++ [0x7e]) =
      some (XBee.framesSent ⟨0x7c, 2, 0, 0⟩ specialTransmissions, [0x7e]) :=
  xbee_frames_recovered rfl rfl specialTransmissions [0x7e]

end MbedMqtt.MQTTSNGW
