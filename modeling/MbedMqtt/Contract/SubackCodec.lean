import MbedMqtt.Packet.SubscribeServer
import MbedMqtt.Client.Calls
import MbedMqtt.Network.Script
import MbedMqtt.Contract.HandlerTable

namespace MbedMqtt

def IsReturnCode (code : Int) : Prop := code = 0 ∨ code = 1 ∨ code = 2 ∨ code = 128

def subackBody (packetid : Nat) (codes : List Int) : Bytes :=
  writeInt packetid ++ codes.map writeChar

theorem subackBody_length (packetid : Nat) (codes : List Int) :
    (subackBody packetid codes).length = 2 + codes.length := by
  simp [subackBody, writeInt_length]

theorem serializeSuback_framed {buflen packetid : Nat} {codes : List Int}
    (h : 0 < (serializeSuback buflen packetid codes).1) :
    (serializeSuback buflen packetid codes).2 =
      framed (headerByte SUBACK 0 0 0) (subackBody packetid codes) := by
  unfold serializeSuback at h ⊢
  split
  · rename_i hshort
    rw [if_pos hshort] at h
    simp at h
  · simp only [framed, subackBody_length]
    simp [subackBody]

theorem readChar_writeChar (charSigned : Bool) {code : Int} (h : IsReturnCode code) :
    readChar charSigned (writeChar code) = code ↔ charSigned = false ∨ code ≠ 128 := by
  cases charSigned with
  | false => rcases h with rfl | rfl | rfl | rfl <;> decide
  | true => rcases h with rfl | rfl | rfl | rfl <;> decide

theorem readChars_writeChars (charSigned : Bool) {codes : List Int}
    (h : ∀ code ∈ codes, IsReturnCode code) :
    (codes.map writeChar).map (readChar charSigned) = codes ↔
      charSigned = false ∨ (128 : Int) ∉ codes := by
  have hmap : (codes.map writeChar).map (readChar charSigned) = codes ↔
      ∀ code ∈ codes, readChar charSigned (writeChar code) = code := by
    rw [List.map_map]
    conv_lhs => rw [← List.map_id codes, List.map_map]
    rw [List.map_inj_left]
    rfl
  rw [hmap]
  constructor
  · intro hsame
    cases hsigned : charSigned with
    | false => exact .inl rfl
    | true =>
      right
      intro hmem
      have hcode := (readChar_writeChar charSigned (h 128 hmem)).mp (hsame 128 hmem)
      simp [hsigned] at hcode
  · rintro hor code hcode
    apply (readChar_writeChar charSigned (h code hcode)).mpr
    refine hor.imp_right fun hnot => ?_
    rintro rfl
    exact hnot hcode

theorem subackLoop_laidAt (charSigned : Bool) {maxcount : Nat} {buf bytes : Bytes}
    {fuel curdata : Nat} (granted : List Int) (hlaid : LaidAt buf curdata bytes)
    (hfuel : bytes.length ≤ fuel) (hmax : granted.length + bytes.length ≤ maxcount) :
    subackLoop charSigned maxcount buf (curdata + bytes.length) fuel curdata granted =
      (1, granted ++ bytes.map (readChar charSigned)) := by
  induction bytes generalizing fuel curdata granted with
  | nil =>
    cases fuel with
    | zero => simp [subackLoop]
    | succ fuel => simp [subackLoop]
  | cons b bytes ih =>
    obtain ⟨fuel, rfl⟩ : ∃ k, fuel = k + 1 := ⟨fuel - 1, by simp at hfuel; omega⟩
    have hb : byteAt buf curdata = b := hlaid.getD 0
    rw [List.length_cons] at hfuel hmax
    have hrest := ih (granted ++ [readChar charSigned b]) (LaidAt.cons.mp hlaid).2
      (show bytes.length ≤ fuel by omega) (by rw [List.length_append, List.length_singleton]; omega)
    simp only [subackLoop, List.length_cons, hb]
    rw [if_pos (by omega), if_neg (by omega), show curdata + (bytes.length + 1) =
      curdata + 1 + bytes.length by omega, hrest]
    simp

theorem subackLoop_length (charSigned : Bool) (maxcount : Nat) (buf : Bytes) (enddata : Nat)
    (fuel curdata : Nat) (granted : List Int) :
    (subackLoop charSigned maxcount buf enddata fuel curdata granted).2.length ≤
      granted.length + (enddata - curdata) := by
  induction fuel generalizing curdata granted with
  | zero => simp [subackLoop]
  | succ fuel ih =>
    simp only [subackLoop]
    split
    · split
      · simp
      · refine (ih (curdata + 1) _).trans ?_
        rw [List.length_append, List.length_singleton]
        omega
    · simp

theorem deserializeSuback_framed (charSigned : Bool) {maxcount : Nat} (fields : SubackFields)
    {packetid : Nat} {codes : List Int} (tail : Bytes) (hid : packetid < 65536)
    (hmax : codes.length ≤ maxcount) (hlen : codes.length + 2 < 268435456) :
    deserializeSuback charSigned maxcount fields
        (framed (headerByte SUBACK 0 0 0) (subackBody packetid codes) ++ tail) =
      (1, ⟨packetid, (codes.map writeChar).map (readChar charSigned)⟩) := by
  have hbody := subackBody_length packetid codes
  have hlaid := laidAt_framed (headerByte SUBACK 0 0 0) (subackBody packetid codes) tail
  obtain ⟨hint, hcodes⟩ := LaidAt.append.mp hlaid
  rw [writeInt_length] at hcodes
  have hfuel : (codes.map writeChar).length ≤ (subackBody packetid codes).length := by
    rw [List.length_map]
    omega
  have hroom : ([] : List Int).length + (codes.map writeChar).length ≤ maxcount := by
    rw [List.length_map, List.length_nil]
    omega
  have hloop := subackLoop_laidAt charSigned [] hcodes hfuel hroom
  rw [List.length_map, Nat.add_assoc, ← hbody] at hloop
  simp only [deserializeSuback, byteAt_framed, headerType_headerByte,
    decodeBuf_framed _ (subackBody packetid codes) tail (by omega)]
  rw [if_neg (by decide), if_neg (by omega), readInt_laidAt hint, Nat.mod_eq_of_lt hid, hloop]
  simp

def SubackRoundTrips (charSigned : Bool) (maxcount buflen packetid : Nat) (codes : List Int) :
    Prop :=
  ∀ fields tail, deserializeSuback charSigned maxcount fields
    ((serializeSuback buflen packetid codes).2 ++ tail) = (1, ⟨packetid, codes⟩)

theorem packetEncode_length_big {n : Nat} (h : 128 ≤ n) : (packetEncode n).length ≠ 1 := by
  rw [packetEncode, Base128.encode_step h, List.length_cons]
  have hrest := Base128.encode_terminated (n / 128)
  cases hbytes : Base128.encode (n / 128) with
  | nil => exact absurd hrest (by simp [hbytes, Base128.Terminated])
  | cons b bs => simp

theorem deserializeSuback_short (charSigned : Bool) (maxcount : Nat) (fields : SubackFields)
    {buf : Bytes} (ht : headerType (byteAt buf 0) = SUBACK) (h : (decodeBuf buf 1).2 < 2) :
    (deserializeSuback charSigned maxcount fields buf).1 = (decodeBuf buf 1).1 := by
  simp only [deserializeSuback, ht]
  rw [if_neg (not_not_intro rfl), if_pos h]

theorem deserializeSuback_granted (charSigned : Bool) (maxcount : Nat) (fields : SubackFields)
    {buf : Bytes} (ht : headerType (byteAt buf 0) = SUBACK) (h : ¬(decodeBuf buf 1).2 < 2) :
    (deserializeSuback charSigned maxcount fields buf).2.grantedQoSs.length + 2 ≤
      (decodeBuf buf 1).2 := by
  have hle := subackLoop_length charSigned maxcount buf
    (1 + (decodeBuf buf 1).1 + (decodeBuf buf 1).2) (decodeBuf buf 1).2
    (1 + (decodeBuf buf 1).1 + 2) []
  rw [List.length_nil] at hle
  simp only [deserializeSuback, ht]
  rw [if_neg (not_not_intro rfl), if_neg h]
  simp only
  omega

theorem deserializeSuback_long (charSigned : Bool) (maxcount : Nat) (fields : SubackFields)
    {packetid : Nat} {codes : List Int} (hlong : 268435456 ≤ codes.length + 2)
    (hint : codes.length + 2 < 2147483648) :
    deserializeSuback charSigned maxcount fields
      (framed (headerByte SUBACK 0 0 0) (subackBody packetid codes) ++ []) ≠
        (1, ⟨packetid, codes⟩) := by
  have hbody := subackBody_length packetid codes
  have hlength := decodeBuf_encode_length [headerByte SUBACK 0 0 0]
    (subackBody packetid codes ++ []) (show (subackBody packetid codes).length < 34359738368 by omega)
  have hframed : [headerByte SUBACK 0 0 0] ++ packetEncode (subackBody packetid codes).length ++
      (subackBody packetid codes ++ []) =
      framed (headerByte SUBACK 0 0 0) (subackBody packetid codes) ++ [] := by
    simp [framed]
  have htype : headerType (byteAt (framed (headerByte SUBACK 0 0 0) (subackBody packetid codes) ++ [])
      0) = SUBACK := by
    rw [byteAt_framed, headerType_headerByte]
    rfl
  rw [hframed, List.length_singleton] at hlength
  generalize framed (headerByte SUBACK 0 0 0) (subackBody packetid codes) ++ [] = buf at *
  intro h
  by_cases hshort : (decodeBuf buf 1).2 < 2
  · have hrc := deserializeSuback_short charSigned maxcount fields htype hshort
    rw [h, hlength] at hrc
    have hone : (1 : Int) = (packetEncode (subackBody packetid codes).length).length := hrc
    exact packetEncode_length_big (show 128 ≤ (subackBody packetid codes).length by omega)
      (by exact_mod_cast hone.symm)
  · have hgranted := deserializeSuback_granted charSigned maxcount fields htype hshort
    have hbound := decodeBuf_bound buf 1
    rw [h] at hgranted
    simp only at hgranted
    omega

theorem suback_roundTrips_iff {charSigned : Bool} {maxcount buflen packetid : Nat}
    {codes : List Int} (hcodes : ∀ code ∈ codes, IsReturnCode code) (hmax : codes.length ≤ maxcount)
    (hint : codes.length + 2 < 2147483648) (hid : packetid < 65536)
    (hok : 0 < (serializeSuback buflen packetid codes).1) :
    SubackRoundTrips charSigned maxcount buflen packetid codes ↔
      (charSigned = false ∨ (128 : Int) ∉ codes) ∧ codes.length + 2 < 268435456 := by
  rw [SubackRoundTrips, serializeSuback_framed hok]
  by_cases hlen : codes.length + 2 < 268435456
  · rw [← readChars_writeChars charSigned hcodes]
    constructor
    · intro h
      have hfields := h ⟨0, []⟩ []
      rw [deserializeSuback_framed charSigned _ [] hid hmax hlen] at hfields
      exact ⟨congrArg (fun r => SubackFields.grantedQoSs r.2) hfields, hlen⟩
    · rintro ⟨hsame, -⟩ fields tail
      rw [deserializeSuback_framed charSigned fields tail hid hmax hlen, hsame]
  · constructor
    · intro h
      exact absurd (h ⟨0, []⟩ []) (deserializeSuback_long charSigned maxcount _ (by omega) hint)
    · rintro ⟨-, h⟩
      exact absurd h hlen

section Rejection

variable {σ τ κ : Type} [Network σ] [Timer τ κ]

structure SubackRead (cfg : Config) (c : Client τ) (w : World σ τ κ) (topicFilter : Bytes)
    (qos : QoS) (v : Outcome σ τ κ) : Prop where
  connected : c.isconnected = true
  serialized : 0 < (serializeSubscribe cfg.maxPacketSize 0 (getNext c.packetid)
    [.ofCString topicFilter] [qos.toInt]).1
  sent : (sendPacket ({ c with toSession := c.numbered }.fillSendbuf
      (serializeSubscribe cfg.maxPacketSize 0 (getNext c.packetid)
        [.ofCString topicFilter] [qos.toInt]).2) w.tick
      (serializeSubscribe cfg.maxPacketSize 0 (getNext c.packetid)
        [.ofCString topicFilter] [qos.toInt]).1.toNat (w.countdownMs c.commandTimeoutMs)).rc = SUCCESS
  waited : waitfor cfg (sendPacket ({ c with toSession := c.numbered }.fillSendbuf
      (serializeSubscribe cfg.maxPacketSize 0 (getNext c.packetid)
        [.ofCString topicFilter] [qos.toInt]).2) w.tick
      (serializeSubscribe cfg.maxPacketSize 0 (getNext c.packetid)
        [.ofCString topicFilter] [qos.toInt]).1.toNat (w.countdownMs c.commandTimeoutMs)).client
    (sendPacket ({ c with toSession := c.numbered }.fillSendbuf
      (serializeSubscribe cfg.maxPacketSize 0 (getNext c.packetid)
        [.ofCString topicFilter] [qos.toInt]).2) w.tick
      (serializeSubscribe cfg.maxPacketSize 0 (getNext c.packetid)
        [.ofCString topicFilter] [qos.toInt]).1.toNat (w.countdownMs c.commandTimeoutMs)).world
    SUBACK (w.countdownMs c.commandTimeoutMs) = v
  suback : v.rc = SUBACK

theorem SubackRead.answer {cfg : Config} {c : Client τ} {w : World σ τ κ} {topicFilter : Bytes}
    {qos : QoS} {v : Outcome σ τ κ} (h : SubackRead cfg c w topicFilter qos v) (mh : Option Nat)
    (grantedQoS : Int) : (subscribe cfg c w topicFilter qos mh grantedQoS).toOutcome =
      subscribeAnswer cfg topicFilter mh grantedQoS v := by
  rw [subscribe_eq_request]
  simp only [requestOutcome, h.connected, not_true_eq_false, if_false, h.sent, ne_eq]
  rw [if_neg (Int.not_le.mpr h.serialized), h.waited]

def RejectionHandled (before : List MessageHandlers) (r : Outcome σ τ κ) : Prop :=
  r.rc ≠ SUCCESS ∧ ∀ slot ∈ r.client.messageHandlers, slot.topicFilter = none ∨ slot ∈ before

theorem setMessageHandler_fails_iff {slots : List MessageHandlers} {f : Bytes} {mh : Option Nat} :
    (setMessageHandler slots f mh).1 = FAILURE ↔
      (∀ slot ∈ slots, slot.topicFilter ≠ some f) ∧
        (mh = none ∨ ∀ slot ∈ slots, slot.topicFilter ≠ none) := by
  have hfilter := @findIdx_lt_iff slots (some f)
  have hfree := @findIdx_lt_iff slots none
  simp only [setMessageHandler]
  by_cases hmem : ∃ slot ∈ slots, slot.topicFilter = some f
  · rw [if_pos (hfilter.mpr hmem)]
    obtain ⟨slot, hslot, hf⟩ := hmem
    refine ⟨fun h => ?_, fun h => absurd hf (h.1 slot hslot)⟩
    cases mh with
    | none => cases h
    | some mh => cases h
  · rw [if_neg (mt hfilter.mp hmem)]
    have habsent : ∀ slot ∈ slots, slot.topicFilter ≠ some f := fun slot hslot hf =>
      hmem ⟨slot, hslot, hf⟩
    cases mh with
    | none => simpa using habsent
    | some mh =>
      by_cases hroom : ∃ slot ∈ slots, slot.topicFilter = none
      · simp only [if_pos (hfree.mpr hroom)]
        obtain ⟨slot, hslot, hf⟩ := hroom
        refine ⟨fun h => (by cases h), fun h => ?_⟩
        exact absurd hf (h.2.resolve_left (by simp) slot hslot)
      · simp only [if_neg (mt hfree.mp hroom), true_iff]
        exact ⟨habsent, .inr fun slot hslot hf => hroom ⟨slot, hslot, hf⟩⟩

omit [Network σ] [Timer τ κ] in
theorem subscribeAck_rejected (cfg : Config) {v : Outcome σ τ κ} {packetid : Nat} {tail : Bytes}
    (hid : packetid < 65536) (hrc : v.rc = SUBACK)
    (hbuf : v.client.readbuf =
      framed (headerByte SUBACK 0 0 0) (subackBody packetid [128]) ++ tail)
    (topicFilter : Bytes) (mh : Option Nat) (grantedQoS : Int) :
    (subscribeAck cfg v topicFilter mh grantedQoS).rc =
        (if cfg.charSigned then (setMessageHandler v.client.messageHandlers topicFilter mh).1
          else SUCCESS) ∧
      (subscribeAck cfg v topicFilter mh grantedQoS).client.messageHandlers =
        (if cfg.charSigned then (setMessageHandler v.client.messageHandlers topicFilter mh).2
          else v.client.messageHandlers) := by
  have hfields := deserializeSuback_framed cfg.charSigned ⟨v.world.uninitialised, []⟩ tail hid
    (show ([128] : List Int).length ≤ 1 by decide) (by decide)
  simp only [subscribeAck, hrc, if_true, hbuf, hfields]
  cases cfg.charSigned with
  | false => simp [readChar, writeChar]
  | true => simp [readChar, writeChar]

omit [Network σ] [Timer τ κ] in
theorem closeOn_handlers (cfg : Config) (failed : Bool) (r : Outcome σ τ κ) :
    ∀ slot ∈ (closeOn cfg failed r).client.messageHandlers,
      slot.topicFilter = none ∨ slot ∈ r.client.messageHandlers := by
  intro slot hslot
  cases failed with
  | false => exact .inr hslot
  | true =>
    have hsession : (closeOn cfg true r).client.messageHandlers =
      (r.client.toSession.close cfg).messageHandlers := rfl
    rw [hsession, Session.close] at hslot
    cases hclean : r.client.cleansession with
    | false =>
      simp only [hclean, Bool.false_eq_true, if_false] at hslot
      exact .inr hslot
    | true =>
      simp only [hclean, if_true, Session.cleanSession] at hslot
      obtain ⟨old, -, rfl⟩ := List.mem_map.mp hslot
      exact .inl rfl

omit [Network σ] [Timer τ κ] in
theorem closeOn_rc (cfg : Config) (failed : Bool) (r : Outcome σ τ κ) :
    (closeOn cfg failed r).rc = r.rc := by
  cases failed with
  | false => rfl
  | true => rfl

theorem rejection_handled_iff {cfg : Config} {c : Client τ} {w : World σ τ κ} {topicFilter : Bytes}
    {qos : QoS} {v : Outcome σ τ κ} {packetid : Nat} {tail : Bytes}
    (hread : SubackRead cfg c w topicFilter qos v) (hid : packetid < 65536)
    (hbuf : v.client.readbuf =
      framed (headerByte SUBACK 0 0 0) (subackBody packetid [128]) ++ tail)
    (mh : Option Nat) (grantedQoS : Int) :
    RejectionHandled v.client.messageHandlers
        (subscribe cfg c w topicFilter qos mh grantedQoS).toOutcome ↔
      cfg.charSigned = true ∧
        (∀ slot ∈ v.client.messageHandlers, slot.topicFilter ≠ some topicFilter) ∧
        (mh = none ∨ ∀ slot ∈ v.client.messageHandlers, slot.topicFilter ≠ none) := by
  rw [← setMessageHandler_fails_iff]
  obtain ⟨hrc, hslots⟩ := subscribeAck_rejected cfg hid hread.suback hbuf topicFilter mh
    grantedQoS
  rw [hread.answer mh grantedQoS, RejectionHandled, subscribeAnswer, closeOn_rc, hrc]
  cases hsigned : cfg.charSigned with
  | false => simp
  | true =>
    rw [hsigned, if_pos rfl] at hslots
    simp only [if_true, true_and]
    constructor
    · rintro ⟨hne, -⟩
      exact (setMessageHandler_rc v.client.messageHandlers topicFilter mh).resolve_left hne
    · intro hfails
      refine ⟨by rw [hfails]; decide, fun slot hslot => ?_⟩
      have h := closeOn_handlers cfg _ _ slot hslot
      rwa [hslots, setMessageHandler_failure hfails] at h

end Rejection

theorem suback_contract {σ τ κ : Type} [Network σ] [Timer τ κ] :
    (∀ (charSigned : Bool) (maxcount buflen packetid : Nat) (codes : List Int), codes ≠ [] →
      (∀ code ∈ codes, IsReturnCode code) → codes.length ≤ maxcount →
      codes.length + 2 < 2147483648 → packetid < 65536 →
      0 < (serializeSuback buflen packetid codes).1 →
      (SubackRoundTrips charSigned maxcount buflen packetid codes ↔
        (charSigned = false ∨ (128 : Int) ∉ codes) ∧ codes.length + 2 < 268435456)) ∧
    (∀ (cfg : Config) (c : Client τ) (w : World σ τ κ) (topicFilter : Bytes) (qos : QoS)
      (v : Outcome σ τ κ) (packetid : Nat) (tail : Bytes) (mh : Option Nat) (grantedQoS : Int),
      SubackRead cfg c w topicFilter qos v → packetid < 65536 →
      v.client.readbuf = framed (headerByte SUBACK 0 0 0) (subackBody packetid [128]) ++ tail →
      (RejectionHandled v.client.messageHandlers
          (subscribe cfg c w topicFilter qos mh grantedQoS).toOutcome ↔
        cfg.charSigned = true ∧
          (∀ slot ∈ v.client.messageHandlers, slot.topicFilter ≠ some topicFilter) ∧
          (mh = none ∨ ∀ slot ∈ v.client.messageHandlers, slot.topicFilter ≠ none))) :=
  ⟨fun _ _ _ _ _ _ hcodes hmax hint hid hok => suback_roundTrips_iff hcodes hmax hint hid hok,
    fun _ _ _ _ _ _ _ _ mh grantedQoS hread hid hbuf =>
      rejection_handled_iff hread hid hbuf mh grantedQoS⟩

def tinyConfig : Config := ⟨.qos0, 16, 1, 0, true⟩

def tinyClient : Client OracleTimer :=
  { Client.construct tinyConfig 1000 .oracle with
    isconnected := true
    messageHandlers := [⟨some [98], some 1⟩] }

def tinyWorld : World Script OracleTimer Bool := World.calm [144, 3, 0, 1, 128] 12

def tinySent : Outcome Script OracleTimer Bool :=
  sendPacket ({ tinyClient with toSession := tinyClient.numbered }.fillSendbuf
    [130, 6, 0, 1, 0, 1, 97, 1]) tinyWorld.tick 8 .oracle

def tinyRead : Outcome Script OracleTimer Bool :=
  waitfor tinyConfig tinySent.client tinySent.world SUBACK .oracle

theorem suback_contract_small :
    SubackRoundTrips true 2 8 7 [0, 2] ∧
      RejectionHandled [⟨some [98], some 1⟩]
        (subscribe tinyConfig tinyClient tinyWorld [97] .QOS1 (some 2) 0).toOutcome := by
  have hcontract := @suback_contract Script OracleTimer Bool _ _
  constructor
  · exact (hcontract.1 true 2 8 7 [0, 2] (by decide) (by simp [IsReturnCode]) (by decide)
      (by decide) (by decide) (by decide)).mpr (by decide)
  · have hread : SubackRead tinyConfig tinyClient tinyWorld [97] .QOS1 tinyRead :=
      ⟨by decide, by decide, by decide, rfl, by decide⟩
    have h := (hcontract.2 tinyConfig tinyClient tinyWorld [97] .QOS1 tinyRead 1
      (List.replicate 11 0) (some 2) 0 hread (by decide) (by decide)).mpr (by decide)
    exact h

theorem suback_rejection_misread :
    0 < (serializeSuback 5 7 [128]).1 ∧ ¬SubackRoundTrips true 1 5 7 [128] := by
  refine ⟨by decide, fun h => ?_⟩
  exact absurd (h ⟨0, []⟩ []) (by decide)

end MbedMqtt
