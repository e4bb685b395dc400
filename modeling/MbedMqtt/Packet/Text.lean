import MbedMqtt.Library.Layout
import MbedMqtt.Packet.Publish

namespace MbedMqtt

structure MQTTString.Single (s : MQTTString) : Prop where
  cstring : s.cstring.isSome = true → s.len = 0 ∧ s.data = none
  lenstring : s.cstring = none → s.len ≤ (s.data.getD []).length

def MQTTString.text (s : MQTTString) : Bytes :=
  match s.cstring with
  | some text => text
  | none => (s.data.getD []).take s.len

def MQTTString.ofLenString (text : Bytes) : MQTTString := ⟨none, text.length, some text⟩

@[simp] theorem text_ofCString (text : Bytes) : (MQTTString.ofCString text).text = text := rfl

@[simp] theorem text_ofLenString (text : Bytes) : (MQTTString.ofLenString text).text = text := by
  simp [MQTTString.ofLenString, MQTTString.text]

theorem single_ofCString (text : Bytes) : (MQTTString.ofCString text).Single :=
  ⟨fun _ => ⟨rfl, rfl⟩, by simp [MQTTString.ofCString]⟩

theorem single_ofLenString (text : Bytes) : (MQTTString.ofLenString text).Single :=
  ⟨by simp [MQTTString.ofLenString], by simp [MQTTString.ofLenString]⟩

namespace MQTTString.Single

variable {s : MQTTString}

theorem strlen (h : s.Single) : mqttstrlen s = s.text.length := by
  obtain ⟨cstring, len, data⟩ := s
  cases cstring with
  | some text => rfl
  | none =>
    have hlen : len ≤ (data.getD []).length := h.lenstring rfl
    simp [mqttstrlen, text, hlen]

theorem write (h : s.Single) : writeMQTTString s = writeCString s.text := by
  obtain ⟨cstring, len, data⟩ := s
  cases cstring with
  | some text =>
    obtain ⟨rfl, -⟩ : len = 0 ∧ data = none := h.cstring rfl
    simp [writeMQTTString, MQTTString.text]
  | none =>
    have hlen : len ≤ (data.getD []).length := h.lenstring rfl
    by_cases hpos : 0 < len
    · simp [writeMQTTString, MQTTString.text, writeCString, hpos, hlen]
    · obtain rfl : len = 0 := by omega
      simp [writeMQTTString, MQTTString.text, writeCString]

end MQTTString.Single

theorem writeInt_length (n : Nat) : (writeInt n).length = 2 := rfl

theorem writeCString_length (text : Bytes) : (writeCString text).length = 2 + text.length := by
  simp [writeCString, writeInt_length]

theorem readInt_laidAt {buf : Bytes} {i n : Nat} (h : LaidAt buf i (writeInt n)) :
    readInt buf i = n % 65536 := by
  obtain ⟨h0, h1⟩ := LaidAt.cons.mp h
  have hhigh : byteAt buf i = UInt8.ofNat (n / 256) := h0.getD 0
  have hlow : byteAt buf (i + 1) = UInt8.ofNat (n % 256) := h1.getD 0
  rw [readInt, hhigh, hlow, UInt8.toNat_ofNat', UInt8.toNat_ofNat']
  omega

theorem readMQTTLenString_laidAt {buf text : Bytes} {curdata : Nat} (enddata : Nat)
    (h : LaidAt buf curdata (writeCString text)) (hlen : text.length ≤ 65535)
    (hend : curdata + 2 + text.length ≤ enddata) :
    readMQTTLenString buf curdata enddata =
      some (.ofLenString text, curdata + 2 + text.length) := by
  obtain ⟨hint, htext⟩ := LaidAt.append.mp h
  have hread : readInt buf curdata = text.length := by
    rw [readInt_laidAt hint, Nat.mod_eq_of_lt (by omega)]
  have hslice : (buf.drop (curdata + 2)).take text.length = text := htext.slice
  simp only [readMQTTLenString, hread, hslice]
  rw [if_pos (by omega), if_pos hend]
  rfl

theorem readMQTTLenString_next {buf text : Bytes} {curdata : Nat} (enddata : Nat)
    (h : LaidAt buf curdata (writeCString text)) (hlen : text.length ≤ 65535)
    (hend : curdata + (writeCString text).length ≤ enddata) :
    readMQTTLenString buf curdata enddata =
      some (.ofLenString text, curdata + (writeCString text).length) := by
  rw [writeCString_length, ← Nat.add_assoc] at hend ⊢
  exact readMQTTLenString_laidAt enddata h hlen hend

theorem readMQTTLenString_eq_some {buf : Bytes} {curdata enddata next : Nat} {s : MQTTString}
    (h : readMQTTLenString buf curdata enddata = some (s, next)) :
    s.text.length ≤ s.len ∧ s.len ≤ 65535 ∧ next = curdata + 2 + s.len ∧ next ≤ enddata := by
  unfold readMQTTLenString at h
  have hlt := readInt_lt buf curdata
  simp only at h
  split at h
  · split at h
    · rename_i hfit
      simp only [Option.some.injEq, Prod.mk.injEq] at h
      obtain ⟨rfl, rfl⟩ := h
      exact ⟨by simp [MQTTString.text], by simp only; omega, rfl, hfit⟩
    · simp at h
  · simp at h

theorem laidAt_framed (header : UInt8) (body tail : Bytes) :
    LaidAt (framed header body ++ tail) (1 + (packetEncode body.length).length) body := by
  have h := LaidAt.within (header :: packetEncode body.length) tail body
  rwa [List.length_cons, Nat.add_comm] at h

end MbedMqtt
