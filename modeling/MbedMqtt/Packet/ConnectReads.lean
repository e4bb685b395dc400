import MbedMqtt.Library.Fetch
import MbedMqtt.Packet.ConnectServer

namespace MbedMqtt.Fetched

def readInt (i : Nat) : Fetch UInt8 Nat := do
  let high ← Fetch.item i
  let low ← Fetch.item (i + 1 : Nat)
  pure (256 * high.toNat + low.toNat)

def decodeLoop : Nat → Nat → Nat → Fetch UInt8 Nat
  | 0, len, _ => pure (len + 1)
  | tries + 1, len, i => do
      let c ← Fetch.item i
      if 128 ≤ c.toNat then decodeLoop tries (len + 1) (i + 1) else pure (len + 1)

def decodeBuf (start : Nat) : Fetch UInt8 Nat := decodeLoop maxNoOfRemainingLengthBytes 0 start

-- the length of the string and the position behind it
def readMQTTLenString (curdata enddata : Nat) : Fetch UInt8 (Option (Nat × Nat)) :=
  if 1 < enddata - curdata then do
    let len ← readInt curdata
    if curdata + 2 + len ≤ enddata then pure (some (len, curdata + 2 + len)) else pure none
  else pure none

def readBytes (start : Nat) : Nat → Fetch UInt8 Bytes
  | 0 => pure []
  | n + 1 => do
      let b ← Fetch.item start
      let bytes ← readBytes (start + 1) n
      pure (b :: bytes)

def memcmpName (start len : Nat) (name : Bytes) : Fetch UInt8 Bool := do
  let bytes ← readBytes start (min name.length len)
  pure (bytes = name.take (min name.length len))

def checkVersion (start len : Nat) (version : Int) : Fetch UInt8 Bool :=
  if version = 3 then memcmpName start len [77, 81, 73, 115, 100, 112]
  else if version = 4 then memcmpName start len [77, 81, 84, 84]
  else pure false

def readWill (flags : UInt8) (curdata enddata : Nat) : Fetch UInt8 (Option Nat) :=
  if flagsWill flags then
    (readMQTTLenString curdata enddata).andThen fun topicName =>
      (readMQTTLenString topicName.2 enddata).andThen fun message => pure (some message.2)
  else pure (some curdata)

def readCredential (curdata enddata : Nat) : Fetch UInt8 (Option (Nat × Nat)) :=
  if enddata - curdata < 3 then pure none else readMQTTLenString curdata enddata

def readCredentials (flags : UInt8) (curdata enddata : Nat) : Fetch UInt8 (Option Nat) :=
  if flagsUsername flags then
    (readCredential curdata enddata).andThen fun username =>
      if flagsPassword flags then
        (readCredential username.2 enddata).andThen fun password => pure (some password.2)
      else pure (some username.2)
  else if flagsPassword flags then pure none
  else pure (some curdata)

def readConnectFields (curdata enddata : Nat) : Fetch UInt8 (Option Nat) := do
  let flags ← Fetch.item curdata
  let _keepAliveInterval ← readInt (curdata + 1)
  (readMQTTLenString (curdata + 1 + 2) enddata).andThen fun clientID =>
    (readWill flags clientID.2 enddata).andThen fun next => readCredentials flags next enddata

-- the bytes the parser asks for, up to the position where it succeeds
def deserializeConnect (charSigned : Bool) (len : Nat) : Fetch UInt8 (Option Nat) := do
  let header ← Fetch.item 0
  if headerType header ≠ CONNECT then pure none
  else do
    let rc ← decodeBuf 1
    (readMQTTLenString (1 + rc) len).andThen fun protocol =>
      if len < protocol.2 then pure none
      else do
        let version ← Fetch.item protocol.2
        let checked ← checkVersion (1 + rc + 2) protocol.1 (readChar charSigned version)
        if checked then readConnectFields (protocol.2 + 1) len else pure none

section Value

variable (buf : Bytes)

theorem memoryOf_byteAt (i : Nat) : memoryOf 0 buf i = byteAt buf i := rfl

theorem readInt_value (i : Nat) : (readInt i).value (memoryOf 0 buf) = MbedMqtt.readInt buf i := rfl

theorem decodeLoop_value (tries len value multiplier i : Nat) :
    (decodeLoop tries len i).value (memoryOf 0 buf) =
      (Base128.decode (bufchar buf) tries len value multiplier i).1.1 := by
  induction tries generalizing len value multiplier i with
  | zero => rfl
  | succ tries ih =>
    rw [decodeLoop, Fetch.value_bind, Fetch.value_ite, Fetch.value_item, memoryOf_byteAt]
    simp only [Base128.decode, bufchar]
    split_ifs
    · exact ih _ _ _ _
    · rfl

theorem decodeBuf_value (start : Nat) :
    (decodeBuf start).value (memoryOf 0 buf) = (MbedMqtt.decodeBuf buf start).1 :=
  decodeLoop_value buf _ _ _ _ _

theorem readMQTTLenString_value (curdata enddata : Nat) :
    (readMQTTLenString curdata enddata).value (memoryOf 0 buf) =
      (MbedMqtt.readMQTTLenString buf curdata enddata).map fun r => (r.1.len, r.2) := by
  rw [readMQTTLenString, MbedMqtt.readMQTTLenString, Fetch.value_ite, Fetch.value_bind,
    Fetch.value_ite, readInt_value]
  simp only
  split_ifs <;> rfl

theorem readBytes_value {start n : Nat} (h : start + n ≤ buf.length) :
    (readBytes start n).value (memoryOf 0 buf) = (buf.drop start).take n := by
  induction n generalizing start with
  | zero => rfl
  | succ n ih =>
    have hstart : start < buf.length := by omega
    simp only [readBytes, Fetch.value_bind, Fetch.value_item, Fetch.value_pure, memoryOf_byteAt,
      ih (show start + 1 + n ≤ buf.length by omega)]
    rw [List.drop_eq_getElem_cons hstart, List.take_succ_cons, byteAt,
      List.getD_eq_getElem?_getD, List.getElem?_eq_getElem hstart, Option.getD_some]

theorem memcmpName_value {start len : Nat} (h : start + len ≤ buf.length) (name : Bytes) :
    (memcmpName start len name).value (memoryOf 0 buf) =
      MbedMqtt.memcmpName ⟨none, len, some ((buf.drop start).take len)⟩ name := by
  have hmin : min name.length len ≤ len := Nat.min_le_right _ _
  simp only [memcmpName, MbedMqtt.memcmpName, Fetch.value_bind, Fetch.value_pure,
    readBytes_value buf (show start + min name.length len ≤ buf.length by omega),
    Option.getD_some, List.take_take, Nat.min_eq_left hmin]

theorem checkVersion_value {start len : Nat} (h : start + len ≤ buf.length) (version : Int) :
    (checkVersion start len version).value (memoryOf 0 buf) =
      MbedMqtt.checkVersion ⟨none, len, some ((buf.drop start).take len)⟩ version := by
  simp only [checkVersion, MbedMqtt.checkVersion, Fetch.value_ite, memcmpName_value buf h,
    Fetch.value_pure]
  by_cases h3 : version = 3
  · simp [h3]
  · by_cases h4 : version = 4
    · simp [h4]
    · simp [h3, h4]

theorem readWill_value (flags : UInt8) (will : WillOptions) (curdata enddata : Nat) :
    (readWill flags curdata enddata).value (memoryOf 0 buf) =
      (MbedMqtt.readWill flags will buf curdata enddata).map Prod.snd := by
  rw [readWill, MbedMqtt.readWill, Fetch.value_ite]
  split_ifs
  · simp only [Fetch.value_andThen, readMQTTLenString_value, Fetch.value_pure]
    cases MbedMqtt.readMQTTLenString buf curdata enddata with
    | none => rfl
    | some topicName =>
      simp only [Option.map_some, Option.bind_some]
      cases MbedMqtt.readMQTTLenString buf topicName.2 enddata <;> rfl
  · rfl

theorem readCredential_value (curdata enddata : Nat) :
    (readCredential curdata enddata).value (memoryOf 0 buf) =
      (MbedMqtt.readCredential buf curdata enddata).map fun r => (r.1.len, r.2) := by
  rw [readCredential, MbedMqtt.readCredential, Fetch.value_ite, readMQTTLenString_value]
  split_ifs <;> rfl

theorem readCredentials_value (flags : UInt8) (username password : MQTTString)
    (curdata enddata : Nat) :
    ((readCredentials flags curdata enddata).value (memoryOf 0 buf)).isSome =
      (MbedMqtt.readCredentials flags username password buf curdata enddata).isSome := by
  rw [readCredentials, MbedMqtt.readCredentials, Fetch.value_ite, Fetch.value_andThen,
    readCredential_value, Fetch.value_ite]
  split_ifs with husername hpassword
  · cases MbedMqtt.readCredential buf curdata enddata with
    | none => rfl
    | some name =>
      simp only [Option.map_some, Option.bind_some, Fetch.value_andThen, readCredential_value]
      cases MbedMqtt.readCredential buf name.2 enddata <;> rfl
  · cases MbedMqtt.readCredential buf curdata enddata <;> rfl
  · rfl
  · rfl

theorem readConnectFields_value (data : ConnectData) (curdata enddata : Nat) :
    ((readConnectFields curdata enddata).value (memoryOf 0 buf)).isSome =
      (MbedMqtt.readConnectFields data buf curdata enddata).isSome := by
  simp only [readConnectFields, MbedMqtt.readConnectFields, Fetch.value_bind, Fetch.value_item,
    Fetch.value_andThen, readMQTTLenString_value, memoryOf_byteAt]
  cases MbedMqtt.readMQTTLenString buf (curdata + 1 + 2) enddata with
  | none => rfl
  | some clientID =>
    simp only [Option.map_some, Option.bind_some, readWill_value buf _ data.will]
    cases MbedMqtt.readWill (byteAt buf curdata) data.will buf clientID.2 enddata with
    | none => rfl
    | some will =>
      simp only [Option.map_some, Option.bind_some,
        readCredentials_value buf _ data.username data.password]
      cases MbedMqtt.readCredentials (byteAt buf curdata) data.username data.password buf will.2
        enddata <;> rfl

theorem readMQTTLenString_shape {curdata enddata next : Nat} {s : MQTTString}
    (h : MbedMqtt.readMQTTLenString buf curdata enddata = some (s, next)) :
    s = ⟨none, s.len, some ((buf.drop (curdata + 2)).take s.len)⟩ ∧ next = curdata + 2 + s.len ∧
      next ≤ enddata := by
  rw [MbedMqtt.readMQTTLenString] at h
  simp only at h
  split_ifs at h with _ hfits
  cases h
  exact ⟨rfl, rfl, hfits⟩

theorem deserializeConnect_value (charSigned : Bool) (data : ConnectData) {len : Nat}
    (hlen : len ≤ buf.length) :
    ((deserializeConnect charSigned len).value (memoryOf 0 buf)).isSome =
      (MbedMqtt.deserializeConnect charSigned data buf len).isSome := by
  rw [deserializeConnect, MbedMqtt.deserializeConnect, Fetch.value_bind, Fetch.value_item,
    Fetch.value_ite, show memoryOf 0 buf 0 = byteAt buf 0 from rfl]
  by_cases htype : headerType (byteAt buf 0) ≠ CONNECT
  · rw [if_pos htype, if_pos htype]
    rfl
  rw [if_neg htype, if_neg htype]
  simp only [Fetch.value_bind, Fetch.value_andThen, decodeBuf_value, readMQTTLenString_value]
  cases hprotocol : MbedMqtt.readMQTTLenString buf (1 + (MbedMqtt.decodeBuf buf 1).1) len with
  | none => rfl
  | some r =>
    obtain ⟨protocol, next⟩ := r
    obtain ⟨hshape, hnext, hle⟩ := readMQTTLenString_shape buf hprotocol
    have hroom : 1 + (MbedMqtt.decodeBuf buf 1).1 + 2 + protocol.len ≤ buf.length := by omega
    have hversion := checkVersion_value buf hroom (readChar charSigned (byteAt buf next))
    rw [← hshape] at hversion
    simp only [Option.map_some, Option.bind_some, if_neg (Nat.not_lt.mpr hle), Fetch.value_bind,
      Fetch.value_item, Fetch.value_ite, memoryOf_byteAt, hversion]
    split_ifs
    · exact readConnectFields_value buf data _ _
    · rfl

end Value

end MbedMqtt.Fetched
