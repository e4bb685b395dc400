import MbedMqtt.Packet.SubscribeServer
import MbedMqtt.Packet.Connect

namespace MbedMqtt

def ByteInside (body : Bytes) (read : UInt8 → Int) (value : Int) : Prop :=
  ∃ i < body.length, read (byteAt body i) = value

def IntInside (body : Bytes) (value : Nat) : Prop :=
  ∃ i, i + 2 ≤ body.length ∧ readInt body i = value

def TextInside (body : Bytes) (s : MQTTString) : Prop :=
  s.cstring = none ∧ ∃ i, i + s.len ≤ body.length ∧ s.data = some ((body.drop i).take s.len)

inductive Deserializer where
  | connack
  | ack
  | suback
  | unsuback
  | subscribe
  | unsubscribe
  deriving DecidableEq, Repr

def Deserializer.Expects (header : UInt8) : Deserializer → Prop
  | connack => headerType header = CONNACK
  | ack => True
  | suback => headerType header = SUBACK
  | unsuback => headerType header = UNSUBACK
  | subscribe => headerType header = SUBSCRIBE
  | unsubscribe => headerType header = UNSUBSCRIBE

def Deserializer.Complete (charSigned : Bool) (maxcount : Nat) (body buf : Bytes) :
    Deserializer → Prop
  | connack => ∀ data, (deserializeConnack data buf).1 = 1 →
      ByteInside body (fun b => b.toNat) (deserializeConnack data buf).2.rc ∧
        ByteInside body (fun b => b.toNat % 2) (deserializeConnack data buf).2.sessionPresent.toNat
  | ack => ∀ packetid, (deserializeAck packetid buf).1 = 1 →
      IntInside body (deserializeAck packetid buf).2.packetid
  | suback => ∀ fields, (deserializeSuback charSigned maxcount fields buf).1 = 1 →
      IntInside body (deserializeSuback charSigned maxcount fields buf).2.packetid ∧
        ∀ q ∈ (deserializeSuback charSigned maxcount fields buf).2.grantedQoSs,
          ByteInside body (readChar charSigned) q
  | unsuback => ∀ packetid, (deserializeUnsuback packetid buf).1 = 1 →
      IntInside body (deserializeUnsuback packetid buf).2
  | subscribe => ∀ fields, (deserializeSubscribe charSigned maxcount fields buf).1 = 1 →
      IntInside body (deserializeSubscribe charSigned maxcount fields buf).2.packetid ∧
        (∀ s ∈ (deserializeSubscribe charSigned maxcount fields buf).2.topicFilters,
          TextInside body s) ∧
        ∀ q ∈ (deserializeSubscribe charSigned maxcount fields buf).2.requestedQoSs,
          ByteInside body (readChar charSigned) q
  | unsubscribe => ∀ fields, (deserializeUnsubscribe maxcount fields buf).1 = 1 →
      IntInside body (deserializeUnsubscribe maxcount fields buf).2.packetid ∧
        ∀ s ∈ (deserializeUnsubscribe maxcount fields buf).2.topicFilters, TextInside body s

section Bodies

variable (charSigned : Bool) (maxcount : Nat) {header : UInt8} {body : Bytes} (tail : Bytes)

def bodyStart (body : Bytes) : Nat := 1 + (packetEncode body.length).length

theorem packetEncode_length_small {n : Nat} (h : n < 128) : (packetEncode n).length = 1 := by
  rw [packetEncode, Base128.encode_small h]
  rfl

theorem intInside_length {value : Nat} (h : IntInside body value) : 2 ≤ body.length := by
  obtain ⟨i, hi, -⟩ := h
  omega

theorem readInt_inside (h : 2 ≤ body.length) :
    IntInside body (readInt (framed header body ++ tail) (bodyStart body)) :=
  ⟨0, h, (readInt_framed header body tail h).symm⟩

theorem readChar_inside {curdata : Nat} (hstart : bodyStart body ≤ curdata)
    (hend : curdata < bodyStart body + body.length) :
    ByteInside body (readChar charSigned)
      (readChar charSigned (byteAt (framed header body ++ tail) curdata)) := by
  obtain ⟨i, rfl⟩ : ∃ i, curdata = bodyStart body + i := ⟨curdata - bodyStart body, by omega⟩
  exact ⟨i, by omega, by rw [bodyStart, byteAt_framed_body header body tail i (by omega)]⟩

theorem readMQTTLenString_inside {curdata next : Nat} {s : MQTTString}
    (hstart : bodyStart body ≤ curdata)
    (h : readMQTTLenString (framed header body ++ tail) curdata (bodyStart body + body.length) =
      some (s, next)) :
    TextInside body s ∧ curdata + 2 ≤ next ∧ next ≤ bodyStart body + body.length := by
  obtain ⟨i, rfl⟩ : ∃ i, curdata = bodyStart body + i := ⟨curdata - bodyStart body, by omega⟩
  obtain ⟨-, -, hnext, hend⟩ := readMQTTLenString_eq_some h
  unfold readMQTTLenString at h
  simp only at h
  split at h
  · split at h
    · rename_i hfit
      simp only [Option.some.injEq, Prod.mk.injEq] at h
      obtain ⟨rfl, rfl⟩ := h
      refine ⟨⟨rfl, i + 2, by simp only; omega, ?_⟩, by omega, hend⟩
      rw [Nat.add_assoc, bodyStart, drop_framed, take_drop_body body tail (by
        rw [bodyStart] at hfit
        omega)]
    · simp at h
  · simp at h

theorem readSubscription_inside {curdata next : Nat} {entry : MQTTString × Int}
    (hstart : bodyStart body ≤ curdata)
    (h : readSubscription charSigned (framed header body ++ tail) (bodyStart body + body.length)
      curdata = some (entry, next)) :
    (TextInside body entry.1 ∧ ByteInside body (readChar charSigned) entry.2) ∧ curdata ≤ next := by
  unfold readSubscription at h
  split at h
  · simp at h
  · rename_i topicFilter after hread
    obtain ⟨htext, hafter, -⟩ := readMQTTLenString_inside tail hstart hread
    split at h
    · simp at h
    · rename_i hmore
      simp only [Option.some.injEq, Prod.mk.injEq] at h
      obtain ⟨rfl, rfl⟩ := h
      exact ⟨⟨htext, readChar_inside charSigned tail (by omega) (by omega)⟩, by omega⟩

theorem subackLoop_inside (fuel : Nat) {curdata : Nat} {granted : List Int}
    (hstart : bodyStart body ≤ curdata)
    (hacc : ∀ q ∈ granted, ByteInside body (readChar charSigned) q) :
    ∀ q ∈ (subackLoop charSigned maxcount (framed header body ++ tail)
      (bodyStart body + body.length) fuel curdata granted).2,
      ByteInside body (readChar charSigned) q := by
  induction fuel generalizing curdata granted with
  | zero => exact hacc
  | succ fuel ih =>
    simp only [subackLoop]
    split
    · rename_i hmore
      split
      · exact hacc
      · refine ih (by omega) ?_
        intro q hq
        rcases List.mem_append.mp hq with hq | hq
        · exact hacc q hq
        · rw [List.mem_singleton.mp hq]
          exact readChar_inside charSigned tail hstart hmore
    · exact hacc

variable (hlen : body.length < 268435456)

include hlen

theorem connack_complete (ht : headerType header = CONNACK) :
    Deserializer.Complete charSigned maxcount body (framed header body ++ tail) .connack ↔
      2 ≤ body.length := by
  constructor
  · intro h
    by_contra hshort
    have hrest := h ⟨256, false⟩
    rw [deserializeConnack_framed _ header body tail hlen ht, if_neg hshort] at hrest
    obtain ⟨i, -, hi⟩ := (hrest rfl).1
    have hbyte := (byteAt body i).toNat_lt
    simp only at hi
    omega
  · intro hb data _
    rw [deserializeConnack_framed data header body tail hlen ht, if_pos hb]
    refine ⟨⟨1, by omega, rfl⟩, 0, by omega, ?_⟩
    rcases Nat.mod_two_eq_zero_or_one (byteAt body 0).toNat with h | h
    · simp only [h, zero_ne_one, decide_false, Bool.toNat_false]
      omega
    · simp only [h, decide_true, Bool.toNat_true]
      omega

theorem ack_complete :
    Deserializer.Complete charSigned maxcount body (framed header body ++ tail) .ack ↔
      2 ≤ body.length := by
  constructor
  · intro h
    have hrest := h 0
    rw [deserializeAck_framed _ header body tail hlen] at hrest
    exact intInside_length (hrest rfl)
  · intro hb packetid _
    rw [deserializeAck_framed packetid header body tail hlen, ackId, if_pos hb]
    exact ⟨0, hb, rfl⟩

theorem unsuback_complete (ht : headerType header = UNSUBACK) :
    Deserializer.Complete charSigned maxcount body (framed header body ++ tail) .unsuback ↔
      2 ≤ body.length := by
  have hfields (packetid : Nat) : deserializeUnsuback packetid (framed header body ++ tail) =
      (1, ackId packetid body) := by
    simp [deserializeUnsuback, deserializeAck_framed packetid header body tail hlen, ht]
  constructor
  · intro h
    have hrest := h 0
    rw [hfields] at hrest
    exact intInside_length (hrest rfl)
  · intro hb packetid _
    rw [hfields, ackId, if_pos hb]
    exact ⟨0, hb, rfl⟩

theorem suback_complete (ht : headerType header = SUBACK) :
    Deserializer.Complete charSigned maxcount body (framed header body ++ tail) .suback ↔
      2 ≤ body.length := by
  constructor
  · intro h
    by_contra hshort
    have hrest := h ⟨0, []⟩
    have hfields : deserializeSuback charSigned maxcount ⟨0, []⟩ (framed header body ++ tail) =
        (1, ⟨0, []⟩) := by
      simp [deserializeSuback, byteAt_framed, ht, decodeBuf_framed header body tail hlen,
        show body.length < 2 by omega, packetEncode_length_small (show body.length < 128 by omega)]
    rw [hfields] at hrest
    exact hshort (intInside_length (hrest rfl).1)
  · intro hb fields _
    simp only [deserializeSuback, byteAt_framed, ht, decodeBuf_framed header body tail hlen, ne_eq,
      not_true_eq_false, if_false, if_neg (show ¬body.length < 2 by omega)]
    exact ⟨readInt_inside tail hb,
      subackLoop_inside charSigned maxcount tail body.length (by rw [bodyStart]; omega) (by simp)⟩

theorem subscribe_complete (ht : headerType header = SUBSCRIBE) :
    Deserializer.Complete charSigned maxcount body (framed header body ++ tail) .subscribe ↔
      2 ≤ body.length := by
  have hstart : 1 + (packetEncode body.length).length = bodyStart body := rfl
  simp only [Deserializer.Complete, deserializeSubscribe, byteAt_framed, ht,
    decodeBuf_framed header body tail hlen, ne_eq, not_true_eq_false, if_false, hstart]
  constructor
  · intro h
    by_contra hshort
    rw [readWhile_done _ (show bodyStart body + body.length ≤ bodyStart body + 2 by omega)] at h
    exact hshort (intInside_length (h ⟨0, 0, 0, [], []⟩ rfl).1)
  · intro hb _ _
    have hentries : ∀ e ∈ (readWhile (readSubscription charSigned (framed header body ++ tail)
        (bodyStart body + body.length)) (bodyStart body + body.length) body.length
        (bodyStart body + 2) []).2,
        TextInside body e.1 ∧ ByteInside body (readChar charSigned) e.2 :=
      readWhile_forall (bodyStart body) (readSubscription_inside charSigned tail) body.length
        (by omega) (by simp)
    refine ⟨readInt_inside tail hb, ?_, ?_⟩
    · intro s hs
      obtain ⟨e, he, rfl⟩ := List.mem_map.mp hs
      exact (hentries e he).1
    · intro q hq
      obtain ⟨e, he, rfl⟩ := List.mem_map.mp hq
      exact (hentries e he).2

theorem unsubscribe_complete (ht : headerType header = UNSUBSCRIBE) :
    Deserializer.Complete charSigned maxcount body (framed header body ++ tail) .unsubscribe ↔
      2 ≤ body.length := by
  have hstart : 1 + (packetEncode body.length).length = bodyStart body := rfl
  simp only [Deserializer.Complete, deserializeUnsubscribe, byteAt_framed, ht,
    decodeBuf_framed header body tail hlen, ne_eq, not_true_eq_false, if_false, hstart]
  constructor
  · intro h
    by_contra hshort
    rw [readWhile_done _ (show bodyStart body + body.length ≤ bodyStart body + 2 by omega)] at h
    exact hshort (intInside_length (h ⟨0, 0, 0, []⟩ rfl).1)
  · intro hb _ _
    refine ⟨readInt_inside tail hb, readWhile_forall (bodyStart body) ?_ body.length
      (by omega) (by simp)⟩
    intro curdata s next hle hread
    obtain ⟨htext, hnext, -⟩ := readMQTTLenString_inside tail hle hread
    exact ⟨htext, by omega⟩

omit hlen

end Bodies

theorem deserializer_complete_iff (d : Deserializer) (charSigned : Bool) (maxcount : Nat)
    (header : UInt8) (body tail : Bytes) (hlen : body.length < 268435456)
    (ht : d.Expects header) :
    d.Complete charSigned maxcount body (framed header body ++ tail) ↔ 2 ≤ body.length := by
  cases d with
  | connack => exact connack_complete charSigned maxcount tail hlen ht
  | ack => exact ack_complete charSigned maxcount tail hlen
  | suback => exact suback_complete charSigned maxcount tail hlen ht
  | unsuback => exact unsuback_complete charSigned maxcount tail hlen ht
  | subscribe => exact subscribe_complete charSigned maxcount tail hlen ht
  | unsubscribe => exact unsubscribe_complete charSigned maxcount tail hlen ht

theorem deserializer_complete_suback :
    Deserializer.Complete true 1 [0, 7, 2] [144, 3, 0, 7, 2] .suback :=
  (deserializer_complete_iff .suback true 1 144 [0, 7, 2] [] (by decide) rfl).mpr (by decide)

theorem deserializer_incomplete_connack :
    ¬Deserializer.Complete true 1 [] [32, 0] .connack := by
  intro h
  obtain ⟨i, hi, -⟩ := (h ⟨0, false⟩ (by decide)).1
  exact absurd hi (Nat.not_lt_zero i)

end MbedMqtt
