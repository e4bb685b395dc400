import MbedMqtt.Library.Stuffing
import MbedMqtt.Packet.Wire

namespace MbedMqtt.MQTTSNGW

def API_XMITREQUEST : UInt8 := 0x10
def START_BYTE : UInt8 := 0x7e
def ESCAPE : UInt8 := 0x7d
def XON : UInt8 := 0x11
def XOFF : UInt8 := 0x13

structure XBeeAddress where
  address64 : Bytes
  address16 : Bytes
  long : address64.length = 8
  short : address16.length = 2
  deriving DecidableEq, Repr

structure XBee where
  frameId : UInt8
  apiMode : UInt8
  respCd : UInt8
  respId : UInt8
  deriving DecidableEq, Repr

namespace XBee

def initial : XBee := ⟨0, 2, 0, 0⟩

def sendByte (xbee : XBee) (c : UInt8) : Bytes :=
  if xbee.apiMode = 2 ∧ (c = START_BYTE ∨ c = ESCAPE ∨ c = XON ∨ c = XOFF) then
    [ESCAPE, c ^^^ 0x20]
  else [c]

-- `awaited` is what the receiving thread has left in `_respCd` and `_respId` after the wait
def send (xbee : XBee) (payload : Bytes) (pLen : UInt8) (addr : XBeeAddress)
    (awaited : UInt8 × UInt8) : XBee × Bytes × Int :=
  let frameId := if xbee.frameId = 0 then 1 else xbee.frameId + 1
  let text := payload.take pLen.toNat
  let checksum := ([API_XMITREQUEST, frameId] ++ addr.address64 ++ addr.address16 ++ [0, 0] ++
    text).foldl (· + ·) 0
  let emitted :=
    [START_BYTE] ++ xbee.sendByte 0 ++ xbee.sendByte (14 + pLen) ++ [API_XMITREQUEST] ++
      xbee.sendByte frameId ++ addr.address64.flatMap xbee.sendByte ++
      addr.address16.flatMap xbee.sendByte ++ xbee.sendByte 0 ++ xbee.sendByte 0 ++
      text.flatMap xbee.sendByte ++ xbee.sendByte (0xff - checksum)
  ({ xbee with frameId := frameId, respCd := awaited.1, respId := awaited.2 }, emitted,
    if awaited.1 ≠ 0 ∨ frameId ≠ awaited.2 then -1 else pLen.toNat)

-- the port is the bytes still to arrive in time, none left a time-out
def recvByte (xbee : XBee) (buf : UInt8) : Bytes → Int × UInt8 × Bytes
  | [] => (-1, buf, [])
  | c :: port =>
      if c = ESCAPE ∧ xbee.apiMode = 2 then (0, 0x20 ^^^ port.headD c, port.tail)
      else (0, c, port)

def awaitStart : Bytes → Option Bytes
  | [] => none
  | c :: port => if c = START_BYTE then some port else awaitStart port

structure Reading where
  recvData : Bytes
  checksum : UInt8
  buf : UInt8
  port : Bytes
  deriving DecidableEq, Repr

-- `uint8_t data[128]` of the only caller
def recvDataSize : Nat := 128

def readData (xbee : XBee) : Nat → Reading → Option (Bool × Reading)
  | 0, reading => some (true, reading)
  | len + 1, reading =>
      match xbee.recvByte reading.buf reading.port with
      | (rc, buf, port) =>
          if rc < 0 then some (false, { reading with buf := buf, port := port })
          else if reading.recvData.length < recvDataSize then
            readData xbee len ⟨reading.recvData ++ [buf], reading.checksum + buf, buf, port⟩
          else none

-- what is returned, what stands in `recvData` and what is left to read; an error flushes the port
def readApiFrame (xbee : XBee) (port : Bytes) : Option (Int × Bytes × Bytes) :=
  match awaitStart port with
  | none => some (-1, [], [])
  | some port =>
      match xbee.recvByte START_BYTE port with
      | (rc, buf, port) =>
          if rc < 0 then some (-1, [], [])
          else
            match xbee.recvByte buf port with
            | (rc, len, port) =>
                if rc < 0 then some (-1, [], [])
                else
                  match xbee.readData len.toNat ⟨[], 0, len, port⟩ with
                  | none => none
                  | some (false, reading) => some (-1, reading.recvData, [])
                  | some (true, reading) =>
                      match xbee.recvByte reading.buf reading.port with
                      | (_, buf, port) =>
                          if 0xff - reading.checksum = buf then
                            some (reading.recvData.length, reading.recvData, port)
                          else some (-1, reading.recvData, [])

end XBee

end MbedMqtt.MQTTSNGW
