import MbedMqtt.Packet.SubscribeServer

namespace MbedMqtt

-- what a call returns, and the slots of the caller's arrays it writes
structure Slots where
  rc : Int
  topicFilters : List Nat
  qoss : List Nat
  deriving DecidableEq, Repr

namespace Slots

def subackLoop (maxcount enddata : Nat) : Nat → Nat → Nat → Int × List Nat
  | 0, _, _ => (1, [])
  | fuel + 1, curdata, count =>
      if curdata < enddata then
        if maxcount < count then (-1, [])
        else
          let (rc, slots) := subackLoop maxcount enddata fuel (curdata + 1) (count + 1)
          (rc, count :: slots)
      else (1, [])

def deserializeSuback (maxcount : Nat) (buf : Bytes) : Slots :=
  if headerType (byteAt buf 0) ≠ SUBACK then ⟨0, [], []⟩
  else
    let (rc, mylen) := decodeBuf buf 1
    if mylen < 2 then ⟨rc, [], []⟩
    else
      let curdata := 1 + rc
      let (rc, slots) := subackLoop maxcount (curdata + mylen) mylen (curdata + 2) 0
      ⟨rc, [], slots⟩

-- `readMQTTLenString` sets `cstring` of its slot also when it fails
def deserializeSubscribe (charSigned : Bool) (_maxcount : Nat) (buf : Bytes) : Slots :=
  if headerType (byteAt buf 0) ≠ SUBSCRIBE then ⟨-1, [], []⟩
  else
    let (rc, mylen) := decodeBuf buf 1
    let curdata := 1 + rc
    let enddata := curdata + mylen
    let (done, begun, ended) :=
      slotsWhile (readSubscription charSigned buf enddata) enddata mylen (curdata + 2) 0
    ⟨if done then 1 else rc, begun, ended⟩

def deserializeUnsubscribe (_maxcount : Nat) (buf : Bytes) : Slots :=
  if headerType (byteAt buf 0) ≠ UNSUBSCRIBE then ⟨0, [], []⟩
  else
    let (rc, mylen) := decodeBuf buf 1
    let curdata := 1 + rc
    let enddata := curdata + mylen
    let (done, begun, _) := slotsWhile (readTopicFilter buf enddata) enddata mylen (curdata + 2) 0
    ⟨if done then 1 else rc, begun, []⟩

theorem subackLoop_eq (charSigned : Bool) (maxcount : Nat) (buf : Bytes) (enddata fuel curdata : Nat)
    (granted : List Int) :
    (subackLoop maxcount enddata fuel curdata granted.length).1 =
        (MbedMqtt.subackLoop charSigned maxcount buf enddata fuel curdata granted).1 ∧
      granted.length + (subackLoop maxcount enddata fuel curdata granted.length).2.length =
        (MbedMqtt.subackLoop charSigned maxcount buf enddata fuel curdata granted).2.length := by
  induction fuel generalizing curdata granted with
  | zero => exact ⟨rfl, rfl⟩
  | succ fuel ih =>
    simp only [subackLoop, MbedMqtt.subackLoop]
    split_ifs
    · exact ⟨rfl, rfl⟩
    · obtain ⟨hrc, hlength⟩ :=
        ih (curdata + 1) (granted ++ [readChar charSigned (byteAt buf curdata)])
      rw [List.length_append, List.length_singleton] at hrc hlength
      exact ⟨hrc, (Nat.add_right_comm granted.length _ 1).trans hlength⟩
    · exact ⟨rfl, rfl⟩

theorem deserializeSuback_rc (charSigned : Bool) (maxcount : Nat) (fields : SubackFields)
    (buf : Bytes) :
    (deserializeSuback maxcount buf).rc =
      (MbedMqtt.deserializeSuback charSigned maxcount fields buf).1 := by
  simp only [deserializeSuback, MbedMqtt.deserializeSuback]
  split_ifs
  · rfl
  · rfl
  · exact (subackLoop_eq charSigned maxcount buf _ _ _ []).1

theorem deserializeSubscribe_rc (charSigned : Bool) (maxcount : Nat) (fields : SubscribeFields)
    (buf : Bytes) :
    (deserializeSubscribe charSigned maxcount buf).rc =
      (MbedMqtt.deserializeSubscribe charSigned maxcount fields buf).1 := by
  rw [deserializeSubscribe, MbedMqtt.deserializeSubscribe]
  by_cases htype : headerType (byteAt buf 0) ≠ SUBSCRIBE
  · rw [if_pos htype, if_pos htype]
  · have hdone := (slotsWhile_readWhile
      (readSubscription charSigned buf (1 + (decodeBuf buf 1).1 + (decodeBuf buf 1).2))
      (1 + (decodeBuf buf 1).1 + (decodeBuf buf 1).2) (decodeBuf buf 1).2
      (1 + (decodeBuf buf 1).1 + 2) []).1
    rw [if_neg htype, if_neg htype]
    simp only [← hdone, List.length_nil]

theorem deserializeUnsubscribe_rc (maxcount : Nat) (fields : UnsubscribeFields) (buf : Bytes) :
    (deserializeUnsubscribe maxcount buf).rc =
      (MbedMqtt.deserializeUnsubscribe maxcount fields buf).1 := by
  rw [deserializeUnsubscribe, MbedMqtt.deserializeUnsubscribe]
  by_cases htype : headerType (byteAt buf 0) ≠ UNSUBSCRIBE
  · rw [if_pos htype, if_pos htype]
  · have hdone := (slotsWhile_readWhile
      (readTopicFilter buf (1 + (decodeBuf buf 1).1 + (decodeBuf buf 1).2))
      (1 + (decodeBuf buf 1).1 + (decodeBuf buf 1).2) (decodeBuf buf 1).2
      (1 + (decodeBuf buf 1).1 + 2) []).1
    rw [if_neg htype, if_neg htype]
    simp only [← hdone, List.length_nil]

-- the slots of the complete entries are the `count` first ones
theorem deserializeSubscribe_count (charSigned : Bool) (maxcount : Nat) (fields : SubscribeFields)
    {buf : Bytes} (h : headerType (byteAt buf 0) = SUBSCRIBE) :
    (deserializeSubscribe charSigned maxcount buf).qoss.length =
      (MbedMqtt.deserializeSubscribe charSigned maxcount fields buf).2.count := by
  have hcount := (slotsWhile_readWhile
    (readSubscription charSigned buf (1 + (decodeBuf buf 1).1 + (decodeBuf buf 1).2))
    (1 + (decodeBuf buf 1).1 + (decodeBuf buf 1).2) (decodeBuf buf 1).2
    (1 + (decodeBuf buf 1).1 + 2) []).2
  rw [List.length_nil, Nat.zero_add] at hcount
  simp only [deserializeSubscribe, MbedMqtt.deserializeSubscribe, h, ne_eq, not_true_eq_false,
    if_false]
  exact hcount

end Slots

end MbedMqtt
