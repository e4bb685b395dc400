import MbedMqtt.Packet.ConnectReads

namespace MbedMqtt

section Bounds

variable {buf : Bytes} {curdata enddata limit : Nat}

theorem item_inside (i : Nat) :
    Fetch.Inside (memoryOf 0 buf) limit (Fetch.item i) ↔ i < limit := by
  rw [Fetch.inside_item]
  omega

theorem fetchedInt_inside (i : Nat) :
    Fetch.Inside (memoryOf 0 buf) limit (Fetched.readInt i) ↔ i + 1 < limit := by
  rw [Fetched.readInt, Fetch.inside_bind, Fetch.inside_bind, item_inside, item_inside]
  constructor
  · exact fun h => h.2.1
  · exact fun h => ⟨by omega, h, Fetch.inside_pure _ _⟩

theorem fetchedString_inside (curdata enddata : Nat) :
    Fetch.Inside (memoryOf 0 buf) enddata (Fetched.readMQTTLenString curdata enddata) := by
  rw [Fetched.readMQTTLenString]
  split_ifs
  · rw [Fetch.inside_bind, fetchedInt_inside]
    refine ⟨by omega, ?_⟩
    split_ifs
    · exact Fetch.inside_pure _ _
    · exact Fetch.inside_pure _ _
  · exact Fetch.inside_pure _ _

theorem fetchedBytes_inside {start n : Nat} (h : start + n ≤ limit) :
    Fetch.Inside (memoryOf 0 buf) limit (Fetched.readBytes start n) := by
  induction n generalizing start with
  | zero => exact Fetch.inside_pure _ _
  | succ n ih =>
    rw [Fetched.readBytes, Fetch.inside_bind, Fetch.inside_bind, item_inside]
    exact ⟨by omega, ih (by omega), Fetch.inside_pure _ _⟩

theorem fetchedVersion_inside {start len : Nat} (h : start + len ≤ limit) (version : Int) :
    Fetch.Inside (memoryOf 0 buf) limit (Fetched.checkVersion start len version) := by
  have hname (name : Bytes) :
      Fetch.Inside (memoryOf 0 buf) limit (Fetched.memcmpName start len name) := by
    rw [Fetched.memcmpName, Fetch.inside_bind]
    exact ⟨fetchedBytes_inside (by omega), Fetch.inside_pure _ _⟩
  rw [Fetched.checkVersion]
  split_ifs
  · exact hname _
  · exact hname _
  · exact Fetch.inside_pure _ _

theorem fetchedWill_inside (flags : UInt8) (curdata enddata : Nat) :
    Fetch.Inside (memoryOf 0 buf) enddata (Fetched.readWill flags curdata enddata) := by
  rw [Fetched.readWill]
  split_ifs
  · refine Fetch.inside_andThen.mpr ⟨fetchedString_inside _ _, fun topicName _ => ?_⟩
    exact Fetch.inside_andThen.mpr ⟨fetchedString_inside _ _, fun _ _ => Fetch.inside_pure _ _⟩
  · exact Fetch.inside_pure _ _

theorem fetchedCredential_inside (curdata enddata : Nat) :
    Fetch.Inside (memoryOf 0 buf) enddata (Fetched.readCredential curdata enddata) := by
  rw [Fetched.readCredential]
  split_ifs
  · exact Fetch.inside_pure _ _
  · exact fetchedString_inside _ _

theorem fetchedCredentials_inside (flags : UInt8) (curdata enddata : Nat) :
    Fetch.Inside (memoryOf 0 buf) enddata (Fetched.readCredentials flags curdata enddata) := by
  rw [Fetched.readCredentials]
  split_ifs
  · refine Fetch.inside_andThen.mpr ⟨fetchedCredential_inside _ _, fun username _ => ?_⟩
    exact Fetch.inside_andThen.mpr ⟨fetchedCredential_inside _ _, fun _ _ => Fetch.inside_pure _ _⟩
  · exact Fetch.inside_andThen.mpr ⟨fetchedCredential_inside _ _, fun _ _ => Fetch.inside_pure _ _⟩
  · exact Fetch.inside_pure _ _
  · exact Fetch.inside_pure _ _

-- the flags and the two bytes of the keep alive interval are read unchecked
theorem fetchedFields_inside (curdata enddata : Nat) :
    Fetch.Inside (memoryOf 0 buf) enddata (Fetched.readConnectFields curdata enddata) ↔
      curdata + 2 < enddata := by
  rw [Fetched.readConnectFields, Fetch.inside_bind, Fetch.inside_bind, item_inside,
    fetchedInt_inside]
  constructor
  · exact fun h => h.2.1
  · refine fun h => ⟨by omega, h, ?_⟩
    refine Fetch.inside_andThen.mpr ⟨fetchedString_inside _ _, fun clientID _ => ?_⟩
    exact Fetch.inside_andThen.mpr
      ⟨fetchedWill_inside _ _ _, fun _ _ => fetchedCredentials_inside _ _ _⟩

-- how many bytes `MQTTPacket_decode` takes from `i` on
def lengthBytes (buf : Bytes) : Nat → Nat → Nat
  | 0, _ => 0
  | tries + 1, i => if 128 ≤ (byteAt buf i).toNat then lengthBytes buf tries (i + 1) + 1 else 1

theorem fetchedDecode_inside (tries len : Nat) {i : Nat} (hi : i ≤ limit) :
    Fetch.Inside (memoryOf 0 buf) limit (Fetched.decodeLoop tries len i) ↔
      i + lengthBytes buf tries i ≤ limit := by
  induction tries generalizing len i with
  | zero => exact iff_of_true (Fetch.inside_pure _ _) hi
  | succ tries ih =>
    rw [Fetched.decodeLoop, Fetch.inside_bind, item_inside, Fetch.value_item, lengthBytes,
      Fetched.memoryOf_byteAt]
    by_cases hmore : 128 ≤ (byteAt buf i).toNat
    · rw [if_pos hmore, if_pos hmore]
      constructor
      · rintro ⟨hlt, hrest⟩
        have hbound := (ih (len + 1) (show i + 1 ≤ limit by omega)).mp hrest
        omega
      · intro hle
        exact ⟨by omega, (ih (len + 1) (by omega)).mpr (by omega)⟩
    · rw [if_neg hmore, if_neg hmore]
      exact and_iff_left (Fetch.inside_pure _ _)

end Bounds

def protocolAt (buf : Bytes) (len : Nat) : Option (MQTTString × Nat) :=
  readMQTTLenString buf (1 + (decodeBuf buf 1).1) len

theorem protocolAt_room {buf : Bytes} {len next : Nat} {protocol : MQTTString}
    (h : protocolAt buf len = some (protocol, next)) :
    protocol = ⟨none, protocol.len,
        some ((buf.drop (1 + (decodeBuf buf 1).1 + 2)).take protocol.len)⟩ ∧
      next = 1 + (decodeBuf buf 1).1 + 2 + protocol.len ∧ next ≤ len :=
  Fetched.readMQTTLenString_shape buf h

theorem fetchedProtocol_inside (charSigned : Bool) {buf : Bytes} {len next : Nat}
    {protocol : MQTTString} (hbuf : len ≤ buf.length)
    (h : protocolAt buf len = some (protocol, next)) :
    Fetch.Inside (memoryOf 0 buf) len
        (do
          let version ← Fetch.item (next : Int)
          let checked ← Fetched.checkVersion (1 + (decodeBuf buf 1).1 + 2) protocol.len
            (readChar charSigned version)
          if checked then Fetched.readConnectFields (next + 1) len else pure none) ↔
      next < len ∧
        (checkVersion protocol (readChar charSigned (byteAt buf next)) = true → next + 3 < len) := by
  obtain ⟨hshape, hnext, hle⟩ := protocolAt_room h
  have hroom : 1 + (decodeBuf buf 1).1 + 2 + protocol.len ≤ buf.length := by omega
  have hversion := Fetched.checkVersion_value buf hroom (readChar charSigned (byteAt buf next))
  rw [← hshape] at hversion
  rw [Fetch.inside_bind, Fetch.inside_bind, item_inside, Fetch.value_item,
    Fetched.memoryOf_byteAt, hversion]
  refine and_congr_right fun _ => ?_
  rw [and_iff_right (fetchedVersion_inside (by omega) _)]
  by_cases hchecked : checkVersion protocol (readChar charSigned (byteAt buf next)) = true
  · rw [if_pos hchecked, fetchedFields_inside, forall_prop_of_true hchecked]
  · rw [if_neg hchecked]
    exact iff_of_true (Fetch.inside_pure _ _) fun h => absurd h hchecked

theorem deserializeConnect_inside (charSigned : Bool) {buf : Bytes} {len : Nat} (hpos : 1 ≤ len)
    (hbuf : len ≤ buf.length) :
    Fetch.Inside (memoryOf 0 buf) len (Fetched.deserializeConnect charSigned len) ↔
      (headerType (byteAt buf 0) = CONNECT →
        1 + lengthBytes buf maxNoOfRemainingLengthBytes 1 ≤ len ∧
        ∀ protocol next, protocolAt buf len = some (protocol, next) → next < len ∧
          (checkVersion protocol (readChar charSigned (byteAt buf next)) = true →
            next + 3 < len)) := by
  have hheader : Fetch.Inside (memoryOf 0 buf) len (Fetch.item (0 : Int)) :=
    (item_inside 0).mpr hpos
  rw [Fetched.deserializeConnect, Fetch.inside_bind, and_iff_right hheader, Fetch.value_item,
    show memoryOf 0 buf 0 = byteAt buf 0 from rfl]
  by_cases htype : headerType (byteAt buf 0) = CONNECT
  · rw [if_neg (not_not.mpr htype), forall_prop_of_true htype, Fetch.inside_bind,
      Fetched.decodeBuf_value, Fetched.decodeBuf, fetchedDecode_inside _ _ hpos,
      Fetch.inside_andThen, and_iff_right (fetchedString_inside _ _),
      Fetched.readMQTTLenString_value]
    refine and_congr_right fun _ => ?_
    constructor
    · intro hall protocol next hprotocol
      have hinside := hall (protocol.len, next) (by rw [← protocolAt, hprotocol, Option.map_some])
      have hle := (protocolAt_room hprotocol).2.2
      rw [if_neg (Nat.not_lt.mpr hle)] at hinside
      exact (fetchedProtocol_inside charSigned hbuf hprotocol).mp hinside
    · rintro hall b hb
      obtain ⟨⟨protocol, next⟩, hprotocol, rfl⟩ := Option.map_eq_some_iff.mp hb
      have hle := (protocolAt_room hprotocol).2.2
      rw [if_neg (Nat.not_lt.mpr hle)]
      exact (fetchedProtocol_inside charSigned hbuf hprotocol).mpr (hall protocol next hprotocol)
  · rw [if_pos htype]
    exact iff_of_true (Fetch.inside_pure _ _) fun h => absurd h htype

def ExactProtocol (protocol : MQTTString) (version : Int) : Prop :=
  protocol.text = [77, 81, 73, 115, 100, 112] ∧ version = 3 ∨
    protocol.text = [77, 81, 84, 84] ∧ version = 4

instance (protocol : MQTTString) (version : Int) : Decidable (ExactProtocol protocol version) :=
  inferInstanceAs (Decidable (_ ∨ _))

-- the comparison passes over a shorter name and over a longer one
theorem memcmpName_exact {text name : Bytes}
    (h : memcmpName ⟨none, text.length, some text⟩ name = true) :
    text = name ↔ text.length = name.length := by
  have hcommon := of_decide_eq_true h
  simp only [Option.getD_some] at hcommon
  constructor
  · rintro rfl
    rfl
  · intro hlength
    rwa [hlength, Nat.min_self, List.take_length, ← hlength, List.take_length] at hcommon

theorem exactProtocol_iff {text : Bytes} {version : Int}
    (h : checkVersion ⟨none, text.length, some text⟩ version = true) :
    ExactProtocol ⟨none, text.length, some text⟩ version ↔
      text.length = if version = 3 then 6 else 4 := by
  have htext : (⟨none, text.length, some text⟩ : MQTTString).text = text := List.take_length
  rw [checkVersion, Bool.or_eq_true, Bool.and_eq_true, Bool.and_eq_true, decide_eq_true_eq,
    decide_eq_true_eq] at h
  rw [ExactProtocol, htext]
  rcases h with ⟨rfl, hname⟩ | ⟨rfl, hname⟩
  · rw [memcmpName_exact hname]
    simp
  · rw [memcmpName_exact hname]
    simp

theorem deserializeConnect_isSome (charSigned : Bool) (data : ConnectData) (buf : Bytes)
    (len : Nat) :
    (deserializeConnect charSigned data buf len).isSome = true ↔
      headerType (byteAt buf 0) = CONNECT ∧
        ∃ protocol next, protocolAt buf len = some (protocol, next) ∧
          checkVersion protocol (readChar charSigned (byteAt buf next)) = true ∧
          (readConnectFields data buf (next + 1) len).isSome = true := by
  rw [deserializeConnect]
  by_cases htype : headerType (byteAt buf 0) = CONNECT
  · rw [if_neg (not_not.mpr htype), and_iff_right htype, ← protocolAt]
    cases hprotocol : protocolAt buf len with
    | none => simp
    | some r =>
      obtain ⟨protocol, next⟩ := r
      have hle := (protocolAt_room hprotocol).2.2
      simp only [if_neg (Nat.not_lt.mpr hle)]
      constructor
      · intro h
        split_ifs at h with hchecked
        · exact ⟨protocol, next, rfl, hchecked, h⟩
        · cases h
      · rintro ⟨protocol', next', hsame, hchecked, hfields⟩
        cases hsame
        rw [if_pos hchecked]
        exact hfields
  · rw [if_pos htype]
    exact iff_of_false (by simp) fun h => htype h.1

structure Validates (charSigned : Bool) (data : ConnectData) (buf : Bytes) (len : Nat) : Prop where
  exact : (deserializeConnect charSigned data buf len).isSome = true →
    ∃ protocol next, protocolAt buf len = some (protocol, next) ∧
      ExactProtocol protocol (readChar charSigned (byteAt buf next))
  inside : Fetch.Inside (memoryOf 0 buf) len (Fetched.deserializeConnect charSigned len)

-- what the parser leaves unchecked holds of the packet
structure Vetted (charSigned : Bool) (data : ConnectData) (buf : Bytes) (len : Nat)
    (protocol : MQTTString) (next : Nat) : Prop where
  version : next < len
  fixed : checkVersion protocol (readChar charSigned (byteAt buf next)) = true → next + 3 < len
  name : checkVersion protocol (readChar charSigned (byteAt buf next)) = true →
    (readConnectFields data buf (next + 1) len).isSome = true →
      protocol.len = if readChar charSigned (byteAt buf next) = 3 then 6 else 4

theorem protocolAt_text {buf : Bytes} {len next : Nat} {protocol : MQTTString}
    (hbuf : len ≤ buf.length) (h : protocolAt buf len = some (protocol, next)) :
    protocol = ⟨none, protocol.text.length, some protocol.text⟩ ∧
      protocol.text.length = protocol.len := by
  obtain ⟨hshape, hnext, hle⟩ := protocolAt_room h
  have hlength : ((buf.drop (1 + (decodeBuf buf 1).1 + 2)).take protocol.len).length =
      protocol.len := by
    rw [List.length_take, List.length_drop]
    omega
  have htext : protocol.text = (buf.drop (1 + (decodeBuf buf 1).1 + 2)).take protocol.len := by
    rw [hshape, MQTTString.text]
    simp only [Option.getD_some]
    rw [List.take_take, Nat.min_self]
  rw [htext, hlength]
  exact ⟨hshape, rfl⟩

theorem deserializeConnect_validates_iff (charSigned : Bool) (data : ConnectData) {buf : Bytes}
    {len : Nat} (hpos : 1 ≤ len) (hbuf : len ≤ buf.length) :
    Validates charSigned data buf len ↔
      (headerType (byteAt buf 0) = CONNECT →
        1 + lengthBytes buf maxNoOfRemainingLengthBytes 1 ≤ len ∧
        ∀ protocol next, protocolAt buf len = some (protocol, next) →
          Vetted charSigned data buf len protocol next) := by
  have hexact {protocol : MQTTString} {next : Nat}
      (h : protocolAt buf len = some (protocol, next))
      (hchecked : checkVersion protocol (readChar charSigned (byteAt buf next)) = true) :
      ExactProtocol protocol (readChar charSigned (byteAt buf next)) ↔
        protocol.len = if readChar charSigned (byteAt buf next) = 3 then 6 else 4 := by
    obtain ⟨hshape, hlength⟩ := protocolAt_text hbuf h
    rw [hshape] at hchecked
    rw [← hlength, ← exactProtocol_iff hchecked, ← hshape]
  constructor
  · rintro ⟨hname, hinside⟩ htype
    obtain ⟨hlength, hbounds⟩ := (deserializeConnect_inside charSigned hpos hbuf).mp hinside htype
    refine ⟨hlength, fun protocol next hprotocol => ?_⟩
    obtain ⟨hversion, hfixed⟩ := hbounds protocol next hprotocol
    refine ⟨hversion, hfixed, fun hchecked hfields => ?_⟩
    obtain ⟨protocol', next', hprotocol', hexact'⟩ :=
      hname ((deserializeConnect_isSome charSigned data buf len).mpr
        ⟨htype, protocol, next, hprotocol, hchecked, hfields⟩)
    cases hprotocol.symm.trans hprotocol'
    exact (hexact hprotocol hchecked).mp hexact'
  · intro hall
    constructor
    · intro hreturned
      obtain ⟨htype, protocol, next, hprotocol, hchecked, hfields⟩ :=
        (deserializeConnect_isSome charSigned data buf len).mp hreturned
      have hcond := (hall htype).2 protocol next hprotocol
      exact ⟨protocol, next, hprotocol, (hexact hprotocol hchecked).mpr (hcond.name hchecked hfields)⟩
    · rw [deserializeConnect_inside charSigned hpos hbuf]
      intro htype
      obtain ⟨hlength, hcond⟩ := hall htype
      refine ⟨hlength, fun protocol next hprotocol => ?_⟩
      exact ⟨(hcond protocol next hprotocol).version, (hcond protocol next hprotocol).fixed⟩

def unnamedConnect : Bytes := [16, 8, 0, 0, 4, 2, 0, 60, 0, 0]

def namedConnect : Bytes := [16, 12, 0, 4, 77, 81, 84, 84, 4, 2, 0, 60, 0, 0]

theorem namedConnect_validates : Validates true ConnectData.initializer namedConnect 14 := by
  refine (deserializeConnect_validates_iff true .initializer (by decide) (by decide)).mpr
    fun _ => ⟨by decide, fun protocol next hprotocol => ?_⟩
  obtain ⟨rfl, rfl⟩ : protocol = ⟨none, 4, some [77, 81, 84, 84]⟩ ∧ next = 8 := by
    cases hprotocol
    decide
  exact ⟨by decide, by decide, fun _ _ => by decide⟩

-- an empty protocol name is taken, and a packet that ends behind its name is read past its end
theorem unnamedConnect_taken :
    (deserializeConnect true ConnectData.initializer unnamedConnect 10).isSome = true ∧
      ¬Validates true ConnectData.initializer unnamedConnect 10 ∧
      ¬Validates true ConnectData.initializer namedConnect 8 := by
  refine ⟨by decide, fun h => ?_, fun h => ?_⟩
  · obtain ⟨protocol, next, hprotocol, hexact⟩ := h.exact (by decide)
    cases hprotocol
    exact absurd hexact (by decide)
  · exact absurd (h.inside 8 (by decide)) (by decide)

end MbedMqtt
