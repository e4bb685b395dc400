import Mathlib.Data.List.GetD
import MbedMqtt.Packet.Text
import MbedMqtt.Packet.Connect
import MbedMqtt.Packet.Subscribe

namespace MbedMqtt

structure Writer where
  ptr : Nat
  writes : List (Nat × UInt8)
  deriving DecidableEq, Repr

namespace Writer

def start : Writer := ⟨0, []⟩

def writeChar (w : Writer) (c : UInt8) : Writer := ⟨w.ptr + 1, w.writes ++ [(w.ptr, c)]⟩

def writeInt (w : Writer) (anInt : Nat) : Writer :=
  (w.writeChar (UInt8.ofNat (anInt / 256))).writeChar (UInt8.ofNat (anInt % 256))

def memcpy (w : Writer) (src : Bytes) (n : Nat) : Writer :=
  ⟨w.ptr + n, w.writes ++ (List.range n).map fun i => (w.ptr + i, byteAt src i)⟩

def writeCString (w : Writer) (text : Bytes) : Writer :=
  (w.writeInt text.length).memcpy text text.length

def writeMQTTString (w : Writer) (s : MQTTString) : Writer :=
  if 0 < s.len then (w.writeInt s.len).memcpy (s.data.getD []) s.len
  else match s.cstring with
    | some text => w.writeCString text
    | none => w.writeInt 0

def encodeLoop : Nat → Nat → Writer → Writer
  | 0, length, w => w.writeChar (UInt8.ofNat (length % 128))
  | fuel + 1, length, w =>
      if 0 < length / 128 then
        encodeLoop fuel (length / 128) (w.writeChar (UInt8.ofNat (length % 128 + 128)))
      else w.writeChar (UInt8.ofNat (length % 128))

def packetEncode (w : Writer) (length : Nat) : Writer := encodeLoop length length w

def result (w : Writer) : Int × List (Nat × UInt8) := (w.ptr, w.writes)

def tooShort : Int × List (Nat × UInt8) := (MQTTPACKET_BUFFER_TOO_SHORT, [])

def serializePublish (buflen : Int) (dup qos retained packetid : Nat) (topicName : MQTTString)
    (payload : Bytes) : Int × List (Nat × UInt8) :=
  let remLen := publishLength qos topicName payload.length
  if buflen < packetLen remLen then tooShort
  else
    let w := start.writeChar (headerByte PUBLISH dup qos retained)
    let w := w.packetEncode remLen
    let w := w.writeMQTTString topicName
    let w := if 0 < qos then w.writeInt packetid else w
    (w.memcpy payload payload.length).result

def serializeAck (buflen : Int) (packettype dup packetid : Nat) : Int × List (Nat × UInt8) :=
  if buflen < 4 then tooShort
  else
    let w := start.writeChar (headerByte packettype dup (if packettype = PUBREL then 1 else 0) 0)
    let w := w.packetEncode 2
    (w.writeInt packetid).result

def serializeZero (buflen : Int) (packettype : Nat) : Int × List (Nat × UInt8) :=
  if buflen < 2 then tooShort
  else
    let w := start.writeChar (headerByte packettype 0 0 0)
    (w.packetEncode 0).result

def serializeConnect (buflen : Int) (options : ConnectData) : Int × List (Nat × UInt8) :=
  let len := connectLength options
  if buflen < packetLen len then tooShort
  else
    let w := start.writeChar (headerByte CONNECT 0 0 0)
    let w := w.packetEncode len
    let w := if options.mqttVersion = 4 then (w.writeCString [77, 81, 84, 84]).writeChar 4
      else (w.writeCString [77, 81, 73, 115, 100, 112]).writeChar 3
    let w := w.writeChar (connectFlags options)
    let w := w.writeInt options.keepAliveInterval
    let w := w.writeMQTTString options.clientID
    let w := if options.willFlag then
        (w.writeMQTTString options.will.topicName).writeMQTTString options.will.message
      else w
    let w := if options.username.present then w.writeMQTTString options.username else w
    let w := if options.password.present then w.writeMQTTString options.password else w
    w.result

def serializeSubscribe (buflen : Int) (dup packetid : Nat) (topicFilters : List MQTTString)
    (requestedQoSs : List Nat) : Int × List (Nat × UInt8) :=
  let remLen := subscribeLength topicFilters
  if buflen < packetLen remLen then tooShort
  else
    let w := start.writeChar (headerByte SUBSCRIBE dup 1 0)
    let w := w.packetEncode remLen
    let w := w.writeInt packetid
    ((topicFilters.zip requestedQoSs).foldl
      (fun w tq => (w.writeMQTTString tq.1).writeChar (UInt8.ofNat tq.2)) w).result

def serializeUnsubscribe (buflen : Int) (dup packetid : Nat) (topicFilters : List MQTTString) :
    Int × List (Nat × UInt8) :=
  let remLen := unsubscribeLength topicFilters
  if buflen < packetLen remLen then tooShort
  else
    let w := start.writeChar (headerByte UNSUBSCRIBE dup 1 0)
    let w := w.packetEncode remLen
    let w := w.writeInt packetid
    (topicFilters.foldl writeMQTTString w).result

end Writer

def indexed (bs : Bytes) : List (Nat × UInt8) := (List.range bs.length).map fun i => (i, byteAt bs i)

theorem indexed_append (bs cs : Bytes) :
    indexed (bs ++ cs) =
      indexed bs ++ (List.range cs.length).map fun i => (bs.length + i, byteAt cs i) := by
  rw [indexed, List.length_append, List.range_add, List.map_append, List.map_map]
  congr 1
  · refine List.map_congr_left ?_
    intro i hi
    rw [byteAt, byteAt, List.getD_append _ _ _ _ (List.mem_range.mp hi)]
  · refine List.map_congr_left ?_
    intro i hi
    rw [Function.comp_apply, byteAt, byteAt, List.getD_append_right _ _ _ _ (by omega),
      Nat.add_sub_cancel_left]

def Wrote (w : Writer) (bs : Bytes) : Prop := w.ptr = bs.length ∧ w.writes = indexed bs

namespace Wrote

variable {w : Writer} {bs : Bytes}

theorem start : Wrote .start [] := ⟨rfl, rfl⟩

theorem result (h : Wrote w bs) : w.result = ((bs.length : Int), indexed bs) := by
  rw [Writer.result, h.1, h.2]

theorem memcpy (h : Wrote w bs) (src : Bytes) {n : Nat} (hn : n ≤ src.length) :
    Wrote (w.memcpy src n) (bs ++ src.take n) := by
  have hlen : (src.take n).length = n := List.length_take_of_le hn
  constructor
  · rw [Writer.memcpy, List.length_append, hlen, h.1]
  · simp only [Writer.memcpy, indexed_append, hlen, h.1, h.2]
    congr 1
    refine List.map_congr_left ?_
    intro i hi
    rw [byteAt, byteAt, List.getD_eq_getElem?_getD, List.getD_eq_getElem?_getD,
      List.getElem?_take_of_lt (List.mem_range.mp hi)]

theorem copy (h : Wrote w bs) (src : Bytes) : Wrote (w.memcpy src src.length) (bs ++ src) := by
  simpa using h.memcpy src le_rfl

theorem writeChar (h : Wrote w bs) (c : UInt8) : Wrote (w.writeChar c) (bs ++ [c]) := h.copy [c]

theorem writeInt (h : Wrote w bs) (anInt : Nat) :
    Wrote (w.writeInt anInt) (bs ++ MbedMqtt.writeInt anInt) := by
  have hbytes := (h.writeChar (UInt8.ofNat (anInt / 256))).writeChar (UInt8.ofNat (anInt % 256))
  simpa [Writer.writeInt, MbedMqtt.writeInt] using hbytes

theorem writeCString (h : Wrote w bs) (text : Bytes) :
    Wrote (w.writeCString text) (bs ++ MbedMqtt.writeCString text) := by
  have hbytes := (h.writeInt text.length).copy text
  simpa [Writer.writeCString, MbedMqtt.writeCString] using hbytes

theorem writeMQTTString (h : Wrote w bs) {s : MQTTString} (hs : s.Single) :
    Wrote (w.writeMQTTString s) (bs ++ MbedMqtt.writeMQTTString s) := by
  obtain ⟨cstring, len, data⟩ := s
  by_cases hlen : 0 < len
  · have hnone : cstring = none := by
      cases cstring with
      | none => rfl
      | some text =>
        have hzero : len = 0 := (hs.cstring rfl).1
        omega
    have hbytes := (h.writeInt len).memcpy (data.getD []) (hs.lenstring hnone)
    simpa [Writer.writeMQTTString, MbedMqtt.writeMQTTString, hlen] using hbytes
  · cases cstring with
    | none => simpa [Writer.writeMQTTString, MbedMqtt.writeMQTTString, hlen] using h.writeInt 0
    | some text =>
      simpa [Writer.writeMQTTString, MbedMqtt.writeMQTTString, hlen] using h.writeCString text

theorem encodeLoop (fuel length : Nat) (h : Wrote w bs) :
    Wrote (Writer.encodeLoop fuel length w) (bs ++ Base128.encodeLoop fuel length) := by
  induction fuel generalizing length w bs with
  | zero => exact h.writeChar _
  | succ fuel ih =>
    simp only [Writer.encodeLoop, Base128.encodeLoop]
    split
    · have hrest := ih (length / 128) (h.writeChar (UInt8.ofNat (length % 128 + 128)))
      simpa using hrest
    · exact h.writeChar _

theorem packetEncode (h : Wrote w bs) (length : Nat) :
    Wrote (w.packetEncode length) (bs ++ MbedMqtt.packetEncode length) :=
  h.encodeLoop length length

theorem ite {w' : Writer} {p : Prop} [Decidable p] (h : Wrote w bs) (cs : Bytes)
    (h' : p → Wrote w' (bs ++ cs)) :
    Wrote (if p then w' else w) (bs ++ if p then cs else []) := by
  split
  · rename_i hp
    exact h' hp
  · simpa using h

theorem foldl {α : Type} (h : Wrote w bs) (step : Writer → α → Writer) (enc : α → Bytes)
    {xs : List α} (hstep : ∀ x ∈ xs, ∀ {w bs}, Wrote w bs → Wrote (step w x) (bs ++ enc x)) :
    Wrote (xs.foldl step w) (bs ++ xs.flatMap enc) := by
  induction xs generalizing w bs with
  | nil => simpa using h
  | cons x xs ih =>
    rw [List.foldl_cons, List.flatMap_cons, ← List.append_assoc]
    exact ih (hstep x List.mem_cons_self h) fun y hy => hstep y (List.mem_cons_of_mem x hy)

end Wrote

end MbedMqtt
