import MbedMqtt.Packet.Reader
import MbedMqtt.Packet.Store

namespace MbedMqtt

def window (stream : Nat → UInt8) (pos count : Nat) : Bytes := (List.range' pos count).map stream

@[simp] theorem window_length (stream : Nat → UInt8) (pos count : Nat) :
    (window stream pos count).length = count := by
  simp [window]

@[simp] theorem window_zero (stream : Nat → UInt8) (pos : Nat) : window stream pos 0 = [] := rfl

theorem window_succ (stream : Nat → UInt8) (pos count : Nat) :
    window stream pos (count + 1) = stream pos :: window stream (pos + 1) count := by
  simp [window, List.range'_succ]

theorem window_append (stream : Nat → UInt8) (pos m n : Nat) :
    window stream pos m ++ window stream (pos + m) n = window stream pos (m + n) := by
  simp [window, ← List.map_append, List.range'_append_1]

def exactly (stream : Nat → UInt8) (pos count : Nat) : Option Bytes × Nat :=
  (some (window stream pos count), pos + count)

structure Fragmenting (stream : Nat → UInt8) where
  Sck : Type
  getfn : Sck → Nat → Option Bytes × Sck
  pos : Sck → Nat
  serves : ∀ sck count, ∃ k ≤ count, ∃ next,
    getfn sck count = (some (window stream (pos sck) k), next) ∧ pos next = pos sck + k

namespace Fragmenting

variable {stream : Nat → UInt8} (F : Fragmenting stream)

inductive Delivers (count : Nat) : F.Sck → Prop
  | now {sck next : F.Sck} {bytes : Bytes} :
      F.getfn sck count = (some bytes, next) → bytes ≠ [] → Delivers count sck
  | again {sck next : F.Sck} :
      F.getfn sck count = (some [], next) → Delivers count next → Delivers count sck

def Fair : Prop := ∀ count sck, 0 < count → F.Delivers count sck

def seen (trp : MQTTTransport F.Sck) : MQTTTransport Nat :=
  ⟨F.pos trp.sck, trp.multiplier, trp.remLen, trp.len, trp.state⟩

def Advances (trp trp' : MQTTTransport F.Sck) (count : Nat) : Prop :=
  F.pos trp.sck < F.pos trp'.sck ∨ F.getfn trp.sck count = (some [], trp'.sck)

theorem serves_one (sck : F.Sck) :
    (∃ next, F.getfn sck 1 = (some [], next) ∧ F.pos next = F.pos sck) ∨
      ∃ next, F.getfn sck 1 = (some [stream (F.pos sck)], next) ∧
        F.pos next = F.pos sck + 1 := by
  obtain ⟨k, hk, next, hget, hpos⟩ := F.serves sck 1
  match k, hk with
  | 0, _ => exact .inl ⟨next, by simpa using hget, by simpa using hpos⟩
  | 1, _ => exact .inr ⟨next, by simpa [window_succ] using hget, hpos⟩

theorem pos_le {sck next : F.Sck} {count : Nat} {r : Option Bytes}
    (h : F.getfn sck count = (r, next)) : F.pos sck ≤ F.pos next := by
  obtain ⟨k, -, next', hget, hpos⟩ := F.serves sck count
  rw [h] at hget
  have hnext : next = next' := congrArg Prod.snd hget
  rw [hnext, hpos]
  exact Nat.le_add_right _ _

end Fragmenting

theorem exactly_one (stream : Nat → UInt8) (pos : Nat) :
    exactly stream pos 1 = (some [stream pos], pos + 1) := by
  simp [exactly, window_succ]

structure Midway (stream : Nat → UInt8) (buflen : Nat) (buf : Bytes) (trp : MQTTTransport Nat) :
    Prop where
  fits : buflen ≤ buf.length
  room : 5 ≤ buflen
  typed : headerType (if trp.state = 0 then stream trp.sck else byteAt buf 0) ≠ 0
  body : trp.state = 2 → 1 ≤ trp.len ∧ trp.remLen + trp.len ≤ buflen
  known : trp.state ≤ 2

section Resumption

variable {stream : Nat → UInt8} (F : Fragmenting stream)

theorem primed_primed {γ : Type} (trp : MQTTTransport γ) : trp.primed.primed = trp.primed := by
  by_cases h : trp.len = 0
  · simp [MQTTTransport.primed, h]
  · simp [MQTTTransport.primed, h]

@[simp] theorem primed_len {γ : Type} (trp : MQTTTransport γ) : trp.primed.len = trp.len := by
  unfold MQTTTransport.primed
  split <;> rfl

@[simp] theorem primed_sck {γ : Type} (trp : MQTTTransport γ) : trp.primed.sck = trp.sck := by
  unfold MQTTTransport.primed
  split <;> rfl

@[simp] theorem primed_state {γ : Type} (trp : MQTTTransport γ) :
    trp.primed.state = trp.state := by
  unfold MQTTTransport.primed
  split <;> rfl

theorem seen_primed (trp : MQTTTransport F.Sck) : F.seen trp.primed = (F.seen trp).primed := by
  unfold MQTTTransport.primed
  cases h : trp.len with
  | zero => simp [Fragmenting.seen, h]
  | succ n => simp [Fragmenting.seen, h]

inductive DecodenbResumes (trp : MQTTTransport F.Sck) (ideal : Int × MQTTTransport Nat) :
    Int × MQTTTransport F.Sck → Prop
  | again {trp' : MQTTTransport F.Sck} :
      trp'.primed = trp' → trp'.state = trp.state →
      decodenbLoop (exactly stream) (maxNoOfRemainingLengthBytes - trp'.len) (F.seen trp') = ideal →
      F.Advances trp trp' 1 → DecodenbResumes trp ideal (0, trp')
  | done {rc : Int} {trp' : MQTTTransport F.Sck} :
      rc ≠ 0 → ideal = (rc, F.seen trp') → trp'.state = trp.state →
      rc = MQTTPACKET_READ_ERROR ∨ F.pos trp.sck < F.pos trp'.sck →
      DecodenbResumes trp ideal (rc, trp')

theorem DecodenbResumes.earlier {F : Fragmenting stream} {trp₀ trp : MQTTTransport F.Sck}
    {ideal : Int × MQTTTransport Nat} {r : Int × MQTTTransport F.Sck}
    (h : DecodenbResumes F trp ideal r) (hstate : trp.state = trp₀.state)
    (hpos : F.pos trp₀.sck < F.pos trp.sck) : DecodenbResumes F trp₀ ideal r := by
  cases h with
  | again hprimed hs hideal hadv =>
    refine .again hprimed (hs.trans hstate) hideal (.inl ?_)
    rcases hadv with hlt | hget
    · exact hpos.trans hlt
    · exact hpos.trans_le (F.pos_le hget)
  | done hrc hideal hs hle => exact .done hrc hideal (hs.trans hstate) (hle.imp_right hpos.trans)

theorem decodenbLoop_resumes {tries : Nat} (trp : MQTTTransport F.Sck)
    (htries : tries = maxNoOfRemainingLengthBytes - trp.len) (hprimed : trp.primed = trp) :
    DecodenbResumes F trp (decodenbLoop (exactly stream) tries (F.seen trp))
      (decodenbLoop F.getfn tries trp) := by
  induction tries generalizing trp with
  | zero => exact .done (by decide) rfl rfl (.inl rfl)
  | succ tries ih =>
    rcases F.serves_one trp.sck with ⟨next, hget, hpos⟩ | ⟨next, hget, hpos⟩
    · rw [decodenbLoop_again hget]
      refine .again (primed_step hprimed) rfl ?_ (.inr hget)
      rw [← htries]
      simp only [Fragmenting.seen, hpos]
    · have hexact : exactly stream (F.seen trp).sck 1 =
          (some [stream (F.pos trp.sck)], F.pos trp.sck + 1) := exactly_one stream _
      have hseen : (F.seen trp).added (stream (F.pos trp.sck)) (F.pos trp.sck + 1) =
          F.seen (trp.added (stream (F.pos trp.sck)) next) := by
        simp only [Fragmenting.seen, MQTTTransport.added, hpos]
      have hlater : F.pos trp.sck < F.pos (trp.added (stream (F.pos trp.sck)) next).sck := by
        simp only [MQTTTransport.added, hpos]
        omega
      rw [decodenbLoop_byte hget, decodenbLoop_byte hexact, hseen]
      split
      · have hnext := ih (trp.added (stream (F.pos trp.sck)) next)
          (by simp only [MQTTTransport.added]; omega) (trp.added_primed _ next)
        exact hnext.earlier rfl hlater
      · refine .done ?_ rfl rfl (.inr hlater)
        simp only [MQTTTransport.added]
        omega

def request {γ : Type} (trp : MQTTTransport γ) : Nat := if trp.state = 2 then trp.remLen else 1

inductive ReadnbResumes (buflen : Nat) (trp : MQTTTransport F.Sck)
    (ideal : Int × Bytes × MQTTTransport Nat) : Int × Bytes × MQTTTransport F.Sck → Prop
  | again {buf' : Bytes} {trp' : MQTTTransport F.Sck} :
      Midway stream buflen buf' (F.seen trp') →
      packetReadnb (exactly stream) buf' buflen (F.seen trp') = ideal → 0 < request trp' →
      F.pos trp.sck < F.pos trp'.sck ∨
        (F.getfn trp.sck (request trp) = (some [], trp'.sck) ∧ request trp' = request trp) →
      ReadnbResumes buflen trp ideal (0, buf', trp')
  | done {rc : Int} {buf' : Bytes} {trp' : MQTTTransport F.Sck} :
      rc ≠ 0 → ideal = (rc, buf', F.seen trp') → trp'.state = 0 →
      ReadnbResumes buflen trp ideal (rc, buf', trp')

theorem ReadnbResumes.earlier {F : Fragmenting stream} {buflen : Nat}
    {trp₀ trp : MQTTTransport F.Sck} {ideal : Int × Bytes × MQTTTransport Nat}
    {r : Int × Bytes × MQTTTransport F.Sck} (h : ReadnbResumes F buflen trp ideal r)
    (hpos : F.pos trp₀.sck < F.pos trp.sck) : ReadnbResumes F buflen trp₀ ideal r := by
  cases h with
  | again hmid hideal hreq hadv =>
    refine .again hmid hideal hreq (.inl ?_)
    rcases hadv with hlt | ⟨hget, -⟩
    · exact hpos.trans hlt
    · exact hpos.trans_le (F.pos_le hget)
  | done hrc hideal hs => exact .done hrc hideal hs

theorem store_window {buf : Bytes} {len pos k n : Nat} (hlen : len ≤ buf.length) (hk : k ≤ n) :
    store (store buf len (window stream pos k)) (len + k) (window stream (pos + k) (n - k)) =
      store buf len (window stream pos n) := by
  have hjoin := store_store hlen (window stream pos k) (window stream (pos + k) (n - k))
  rwa [window_length, window_append, Nat.add_sub_cancel' hk] at hjoin

theorem readnbBody_whole {buf : Bytes} {trp : MQTTTransport Nat} (hrem : trp.remLen ≠ 0)
    (hlen : 0 < trp.len) (hbuf : 0 < buf.length) :
    readnbBody (exactly stream) buf trp =
      ((headerType (byteAt buf 0) : Int), store buf trp.len (window stream trp.sck trp.remLen),
        ⟨trp.sck + trp.remLen, trp.multiplier, 0, trp.len + trp.remLen, 0⟩) := by
  simp [readnbBody, exactly, hrem, byteAt_store hlen hbuf]

theorem packetReadnb_body {buf : Bytes} {buflen : Nat} {trp : MQTTTransport Nat}
    (hstate : trp.state = 2) :
    packetReadnb (exactly stream) buf buflen trp = readnbBody (exactly stream) buf trp := by
  simp [packetReadnb, hstate]

theorem readnbBody_resumes (buflen : Nat) (buf : Bytes) (trp : MQTTTransport F.Sck)
    (hstate : trp.state = 2) (hmid : Midway stream buflen buf (F.seen trp)) :
    ReadnbResumes F buflen trp (readnbBody (exactly stream) buf (F.seen trp))
      (readnbBody F.getfn buf trp) := by
  have htype : headerType (byteAt buf 0) ≠ 0 := by
    simpa [Fragmenting.seen, hstate] using hmid.typed
  have hbuf := hmid.fits
  have hroom := hmid.room
  obtain ⟨hlen, hfits⟩ := hmid.body (by simpa [Fragmenting.seen] using hstate)
  simp only [Fragmenting.seen] at hlen hfits
  have hreq : request trp = trp.remLen := by rw [request, if_pos hstate]
  by_cases hrem : trp.remLen = 0
  · simp only [readnbBody, Fragmenting.seen, hrem, if_true]
    exact .done (by simpa using htype) (by simp [Fragmenting.seen]) rfl
  obtain ⟨k, hk, next, hget, hpos⟩ := F.serves trp.sck trp.remLen
  simp only [readnbBody.eq_def F.getfn, if_neg hrem, hget, window_length]
  by_cases hnone : k = 0
  · subst hnone
    simp only [if_true]
    have hsame : F.seen { trp with sck := next } = F.seen trp := by
      simp [Fragmenting.seen, hpos]
    refine .again (hsame ▸ hmid) ?_ (by simp only [request, hstate, if_true]; omega)
      (.inr ⟨by simpa [hreq] using hget, by simp [request, hstate]⟩)
    rw [hsame, packetReadnb_body (by simpa [Fragmenting.seen] using hstate)]
  · rw [if_neg hnone]
    have htype' : byteAt (store buf trp.len (window stream (F.pos trp.sck) k)) 0 = byteAt buf 0 :=
      byteAt_store (by omega) (by omega) _
    have hlength : (store buf trp.len (window stream (F.pos trp.sck) k)).length = buf.length :=
      store_length (by simp only [window_length]; omega)
    have hwhole : readnbBody (exactly stream) buf (F.seen trp) = _ :=
      readnbBody_whole hrem (by simp only [Fragmenting.seen]; omega) (by omega)
    by_cases hmore : trp.remLen - k = 0
    · obtain rfl : k = trp.remLen := by omega
      simp only [Nat.sub_self, ne_eq, not_true_eq_false, if_false, htype', hwhole]
      exact .done (by simpa using htype) (by simp [Fragmenting.seen, hpos]) rfl
    · simp only [ne_eq, hmore, not_false_eq_true, if_true]
      refine .again ⟨by rw [hlength]; exact hbuf, hroom, ?_, ?_, by simp [Fragmenting.seen, hstate]⟩
        ?_ (by simp only [request, hstate, if_true]; omega) (.inl (by simp only; omega))
      · simpa [Fragmenting.seen, hstate, htype'] using htype
      · intro _
        simp only [Fragmenting.seen]
        omega
      · have hend : F.pos trp.sck + k + (trp.remLen - k) = F.pos trp.sck + trp.remLen := by omega
        have hlast : trp.len + k + (trp.remLen - k) = trp.len + trp.remLen := by omega
        rw [hwhole, packetReadnb_body (by simpa [Fragmenting.seen] using hstate),
          readnbBody_whole (by simpa [Fragmenting.seen] using hmore)
            (by simp only [Fragmenting.seen]; omega) (by omega)]
        simp only [Fragmenting.seen, hpos, htype', store_window (show trp.len ≤ buf.length by omega) hk,
          hend, hlast]

theorem packetDecodenb_seen (trp : MQTTTransport F.Sck) :
    packetDecodenb (exactly stream) (F.seen trp) =
      decodenbLoop (exactly stream) (maxNoOfRemainingLengthBytes - trp.len) (F.seen trp.primed) := by
  rw [packetDecodenb, seen_primed]
  rfl

theorem packetDecodenb_resumes (trp : MQTTTransport F.Sck) :
    DecodenbResumes F trp.primed (packetDecodenb (exactly stream) (F.seen trp))
      (packetDecodenb F.getfn trp) := by
  rw [packetDecodenb_seen]
  exact decodenbLoop_resumes F trp.primed (by rw [primed_len]) (primed_primed trp)

theorem readnbLength_resumes (buflen : Nat) (buf : Bytes) (trp : MQTTTransport F.Sck)
    (hstate : trp.state = 1) (hmid : Midway stream buflen buf (F.seen trp)) :
    ReadnbResumes F buflen trp (readnbLength (exactly stream) buf buflen (F.seen trp))
      (readnbLength F.getfn buf buflen trp) := by
  have htype : headerType (byteAt buf 0) ≠ 0 := by
    simpa [Fragmenting.seen, hstate] using hmid.typed
  have hbuf := hmid.fits
  have hroom := hmid.room
  have hresumes := packetDecodenb_resumes F trp
  simp only [readnbLength]
  generalize packetDecodenb F.getfn trp = decoded at hresumes ⊢
  cases hresumes with
  | @again trp' hprimed hs hideal hadv =>
    rw [primed_state, hstate] at hs
    simp only [if_true, if_neg (show (0 : Int) ≠ MQTTPACKET_READ_ERROR by decide)]
    refine .again ⟨hbuf, hroom, ?_, ?_, by simp [Fragmenting.seen, hs]⟩ ?_ (by simp [request, hs]) ?_
    · simpa [Fragmenting.seen, hs] using htype
    · intro h
      simp [Fragmenting.seen, hs] at h
    · have hsame : packetDecodenb (exactly stream) (F.seen trp') =
          packetDecodenb (exactly stream) (F.seen trp) := by
        rw [packetDecodenb_seen, hprimed, hideal]
      have hone : (F.seen trp').state = 1 := hs
      simp only [packetReadnb, hone, readnbLength, hsame]
    · refine hadv.imp (by simp) fun hget => ⟨?_, by simp [request, hs, hstate]⟩
      simpa [request, hstate] using hget
  | @done rc trp' hrc hideal hs hadv =>
    rw [primed_state, hstate] at hs
    simp only [hideal]
    split
    · exact .done (by decide) rfl rfl
    · rename_i hok
      have hpos : F.pos trp.sck < F.pos trp'.sck := by
        simpa using hadv.resolve_left hok
      have hseen : (F.seen trp').remLen = trp'.remLen := rfl
      rw [hseen]
      have hone : byteAt (store buf 1 (packetEncode trp'.remLen)) 0 = byteAt buf 0 :=
        byteAt_store (by decide) (by omega) _
      split
      · exact .done (by decide) rfl rfl
      · rename_i hfits
        have hlength : (store buf 1 (packetEncode trp'.remLen)).length = buf.length :=
          store_length (by omega)
        have hbody := readnbBody_resumes F buflen (store buf 1 (packetEncode trp'.remLen))
          { trp' with len := 1 + (packetEncode trp'.remLen).length, state := 2 } rfl
          ⟨by rw [hlength]; exact hbuf, hroom, by simpa [Fragmenting.seen, hone] using htype,
            fun _ => by simp only [Fragmenting.seen]; omega, by simp [Fragmenting.seen]⟩
        exact hbody.earlier hpos

theorem readnbHeader_resumes (buflen : Nat) (buf : Bytes) (trp : MQTTTransport F.Sck)
    (hstate : trp.state = 0) (hmid : Midway stream buflen buf (F.seen trp)) :
    ReadnbResumes F buflen trp (readnbHeader (exactly stream) buf buflen (F.seen trp))
      (readnbHeader F.getfn buf buflen trp) := by
  have htype : headerType (stream (F.pos trp.sck)) ≠ 0 := by
    simpa [Fragmenting.seen, hstate] using hmid.typed
  have hbuf := hmid.fits
  have hroom := hmid.room
  rcases F.serves_one trp.sck with ⟨next, hget, hpos⟩ | ⟨next, hget, hpos⟩
  · have hsame : F.seen { trp with sck := next } = F.seen trp := by
      simp [Fragmenting.seen, hpos]
    simp only [readnbHeader, hget, List.length_nil, if_true]
    refine .again (hsame ▸ hmid) ?_ (by simp [request, hstate])
      (.inr ⟨by simpa [request, hstate] using hget, by simp [request, hstate]⟩)
    rw [hsame, packetReadnb]
    simp [Fragmenting.seen, hstate, readnbHeader]
  · have hexact : exactly stream (F.seen trp).sck 1 =
        (some [stream (F.pos trp.sck)], F.pos trp.sck + 1) := exactly_one stream _
    have hlength : (store buf 0 [stream (F.pos trp.sck)]).length = buf.length :=
      store_length (by simp only [List.length_singleton]; omega)
    simp only [readnbHeader, hget, hexact, List.length_singleton, one_ne_zero, if_false]
    have hrest := readnbLength_resumes F buflen (store buf 0 [stream (F.pos trp.sck)])
      { trp with sck := next, len := 0, state := 1 } rfl
      ⟨by rw [hlength]; exact hbuf, hroom, ?_, ?_, by simp [Fragmenting.seen]⟩
    · simp only [Fragmenting.seen, hpos] at hrest
      exact hrest.earlier (by simp only; omega)
    · simpa [Fragmenting.seen, store, byteAt] using htype
    · intro h
      simp [Fragmenting.seen] at h

theorem packetReadnb_resumes (buflen : Nat) (buf : Bytes) (trp : MQTTTransport F.Sck)
    (hmid : Midway stream buflen buf (F.seen trp)) :
    ReadnbResumes F buflen trp (packetReadnb (exactly stream) buf buflen (F.seen trp))
      (packetReadnb F.getfn buf buflen trp) := by
  have hknown : trp.state ≤ 2 := hmid.known
  match h : trp.state, hknown with
  | 0, _ => simpa [packetReadnb, Fragmenting.seen, h] using readnbHeader_resumes F buflen buf trp h hmid
  | 1, _ => simpa [packetReadnb, Fragmenting.seen, h] using readnbLength_resumes F buflen buf trp h hmid
  | 2, _ => simpa [packetReadnb, Fragmenting.seen, h] using readnbBody_resumes F buflen buf trp h hmid

end Resumption

section Consumption

variable (stream : Nat → UInt8)

theorem decodenbLoop_exactly_le (tries : Nat) (trp : MQTTTransport Nat) :
    trp.sck ≤ (decodenbLoop (exactly stream) tries trp).2.sck := by
  induction tries generalizing trp with
  | zero => exact le_rfl
  | succ tries ih =>
    rw [decodenbLoop_byte (exactly_one stream trp.sck)]
    split
    · exact Nat.le_of_succ_le (ih (trp.added (stream trp.sck) (trp.sck + 1)))
    · exact Nat.le_succ _

theorem readnbBody_exactly_le (buf : Bytes) (trp : MQTTTransport Nat) :
    trp.sck ≤ (readnbBody (exactly stream) buf trp).2.2.sck := by
  by_cases hrem : trp.remLen = 0
  · simp [readnbBody, hrem]
  · simp [readnbBody, exactly, hrem]

theorem packetDecodenb_exactly_le (trp : MQTTTransport Nat) :
    trp.sck ≤ (packetDecodenb (exactly stream) trp).2.sck := by
  have h := decodenbLoop_exactly_le stream (maxNoOfRemainingLengthBytes - trp.len) trp.primed
  rwa [primed_sck] at h

theorem readnbLength_exactly_le (buf : Bytes) (buflen : Nat) (trp : MQTTTransport Nat) :
    trp.sck ≤ (readnbLength (exactly stream) buf buflen trp).2.2.sck := by
  have hdecode := packetDecodenb_exactly_le stream trp
  simp only [readnbLength]
  generalize packetDecodenb (exactly stream) trp = decoded at hdecode ⊢
  split
  · exact hdecode
  · split
    · exact hdecode
    · split
      · exact hdecode
      · exact hdecode.trans (readnbBody_exactly_le stream (store buf 1 (packetEncode decoded.2.remLen))
          { decoded.2 with len := 1 + (packetEncode decoded.2.remLen).length, state := 2 })

theorem readnbHeader_exactly_le (buf : Bytes) (buflen : Nat) (trp : MQTTTransport Nat) :
    trp.sck ≤ (readnbHeader (exactly stream) buf buflen trp).2.2.sck := by
  simp only [readnbHeader, exactly_one, List.length_singleton, one_ne_zero, if_false]
  exact Nat.le_of_succ_le (readnbLength_exactly_le stream (store buf 0 [stream trp.sck]) buflen
    { trp with sck := trp.sck + 1, len := 0, state := 1 })

theorem packetReadnb_exactly_le (buf : Bytes) (buflen : Nat) (trp : MQTTTransport Nat) :
    trp.sck ≤ (packetReadnb (exactly stream) buf buflen trp).2.2.sck := by
  unfold packetReadnb
  split
  · exact readnbHeader_exactly_le stream buf buflen trp
  · exact readnbLength_exactly_le stream buf buflen trp
  · exact readnbBody_exactly_le stream buf trp
  · exact readnbHeader_exactly_le stream buf buflen { trp with state := 0 }

end Consumption

section Runs

variable {stream : Nat → UInt8} {F : Fragmenting stream} {buflen : Nat}

theorem readnbUntil_whole {calls : Nat} {buf : Bytes} {trp : MQTTTransport F.Sck}
    {r : Int × Bytes × MQTTTransport F.Sck} (hmid : Midway stream buflen buf (F.seen trp))
    (h : readnbUntil F.getfn buflen calls buf trp = some r) :
    packetReadnb (exactly stream) buf buflen (F.seen trp) = (r.1, r.2.1, F.seen r.2.2) ∧
      r.1 ≠ 0 ∧ r.2.2.state = 0 := by
  induction calls generalizing buf trp with
  | zero => simp [readnbUntil] at h
  | succ calls ih =>
    have hresumes := packetReadnb_resumes F buflen buf trp hmid
    simp only [readnbUntil] at h
    generalize packetReadnb F.getfn buf buflen trp = call at hresumes h
    cases hresumes with
    | again hmid' hideal _ _ =>
      simp only [if_true] at h
      rw [← hideal]
      exact ih hmid' h
    | done hrc hideal hstate =>
      rw [if_neg hrc] at h
      cases h
      exact ⟨hideal, hrc, hstate⟩

def left (stream : Nat → UInt8) (buflen : Nat) (buf : Bytes) (trp : MQTTTransport Nat) : Nat :=
  (packetReadnb (exactly stream) buf buflen trp).2.2.sck - trp.sck

theorem readnbUntil_call {buf : Bytes} {trp : MQTTTransport F.Sck}
    (hmid : Midway stream buflen buf (F.seen trp)) :
    (∃ r, readnbUntil F.getfn buflen 1 buf trp = some r) ∨
      ∃ buf' trp', Midway stream buflen buf' (F.seen trp') ∧ 0 < request trp' ∧
        (∀ calls, readnbUntil F.getfn buflen (calls + 1) buf trp =
          readnbUntil F.getfn buflen calls buf' trp') ∧
        (left stream buflen buf' (F.seen trp') < left stream buflen buf (F.seen trp) ∨
          F.getfn trp.sck (request trp) = (some [], trp'.sck) ∧ request trp' = request trp ∧
            left stream buflen buf' (F.seen trp') ≤ left stream buflen buf (F.seen trp)) := by
  have hresumes := packetReadnb_resumes F buflen buf trp hmid
  rcases hcall : packetReadnb F.getfn buf buflen trp with ⟨rc, buf', trp'⟩
  rw [hcall] at hresumes
  cases hresumes with
  | again hmid' hideal hreq hadv =>
    have hend := packetReadnb_exactly_le stream buf' buflen (F.seen trp')
    refine .inr ⟨buf', trp', hmid', hreq, fun calls => by simp [readnbUntil, hcall], ?_⟩
    simp only [left, hideal] at hend ⊢
    rcases hadv with hlt | ⟨hget, hsame⟩
    · left
      have hlt' : (F.seen trp).sck < (F.seen trp').sck := hlt
      omega
    · right
      have hle : (F.seen trp).sck ≤ (F.seen trp').sck := F.pos_le hget
      exact ⟨hget, hsame, by omega⟩
  | done hrc _ _ =>
    left
    exact ⟨(rc, buf', trp'), by simp [readnbUntil, hcall, hrc]⟩

theorem readnbUntil_returns (hfair : F.Fair) {n : Nat} {buf : Bytes} {trp : MQTTTransport F.Sck}
    (hmid : Midway stream buflen buf (F.seen trp)) (hreq : 0 < request trp)
    (hn : left stream buflen buf (F.seen trp) < n) :
    ∃ calls r, readnbUntil F.getfn buflen calls buf trp = some r := by
  induction n generalizing buf trp with
  | zero => omega
  | succ n outer =>
    have hdelivers := hfair (request trp) trp.sck hreq
    generalize hcount : request trp = count at hdelivers
    generalize hsck : trp.sck = sck at hdelivers
    induction hdelivers generalizing buf trp with
    | @now sck next bytes hget hsome =>
      rcases readnbUntil_call hmid with ⟨r, hr⟩ | ⟨buf', trp', hmid', hreq', hnext, hleft⟩
      · exact ⟨1, r, hr⟩
      · rcases hleft with hlt | ⟨hstall, -, -⟩
        · obtain ⟨calls, r, hr⟩ := outer hmid' hreq' (by omega)
          exact ⟨calls + 1, r, by rw [hnext, hr]⟩
        · rw [hcount, hsck, hget] at hstall
          cases hstall
          exact absurd rfl hsome
    | @again sck next hget _ inner =>
      rcases readnbUntil_call hmid with ⟨r, hr⟩ | ⟨buf', trp', hmid', hreq', hnext, hleft⟩
      · exact ⟨1, r, hr⟩
      · have hmore : ∃ calls r, readnbUntil F.getfn buflen calls buf' trp' = some r := by
          rcases hleft with hlt | ⟨hstall, hsame, hle⟩
          · exact outer hmid' hreq' (by omega)
          · rw [hcount, hsck, hget] at hstall
            exact inner hmid' hreq' (by omega) (hsame.trans hcount) (by cases hstall; rfl)
        obtain ⟨calls, r, hr⟩ := hmore
        exact ⟨calls + 1, r, by rw [hnext, hr]⟩

end Runs

section Fragmentation

variable {stream : Nat → UInt8}

def wholly (stream : Nat → UInt8) : Fragmenting stream where
  Sck := Nat
  getfn := exactly stream
  pos := id
  serves := fun sck count => ⟨count, le_rfl, sck + count, rfl, rfl⟩

theorem wholly_fair : (wholly stream).Fair := by
  intro count sck hcount
  have hget : (wholly stream).getfn sck count =
      (some (window stream sck count), Nat.add sck count) := rfl
  refine .now hget fun h => ?_
  have hlen := window_length stream sck count
  rw [h, List.length_nil] at hlen
  omega

theorem midway_of_fresh {buflen : Nat} {buf : Bytes} {trp : MQTTTransport Nat}
    (hroom : 5 ≤ buflen) (hbuf : buflen ≤ buf.length) (hstate : trp.state = 0)
    (htype : headerType (stream trp.sck) ≠ 0) : Midway stream buflen buf trp where
  fits := hbuf
  room := hroom
  typed := by rwa [if_pos hstate]
  body := by
    intro h
    omega
  known := by omega

theorem packetReadnb_exactly_returns {buflen : Nat} {buf : Bytes} {trp : MQTTTransport Nat}
    (hmid : Midway stream buflen buf trp) (hstate : trp.state = 0) :
    (packetReadnb (exactly stream) buf buflen trp).1 ≠ 0 := by
  have hreq : 0 < request trp := by simp [request, hstate]
  obtain ⟨calls, r, hr⟩ := readnbUntil_returns (F := wholly stream) wholly_fair hmid hreq
    (Nat.lt_succ_self _)
  obtain ⟨hwhole, hrc, -⟩ := readnbUntil_whole (F := wholly stream) hmid hr
  have hseen : (wholly stream).seen trp = trp := rfl
  rw [hseen] at hwhole
  rwa [hwhole]

theorem packetReadnb_fragmentation (F : Fragmenting stream) (buflen : Nat) (buf : Bytes)
    (trp : MQTTTransport F.Sck) (hroom : 5 ≤ buflen) (hbuf : buflen ≤ buf.length)
    (hstate : trp.state = 0) (htype : headerType (stream (F.pos trp.sck)) ≠ 0) :
    (packetReadnb (exactly stream) buf buflen (F.seen trp)).1 ≠ 0 ∧
      (∀ calls r, readnbUntil F.getfn buflen calls buf trp = some r →
        r.1 = (packetReadnb (exactly stream) buf buflen (F.seen trp)).1 ∧
        r.2.1 = (packetReadnb (exactly stream) buf buflen (F.seen trp)).2.1 ∧
        F.pos r.2.2.sck = (packetReadnb (exactly stream) buf buflen (F.seen trp)).2.2.sck ∧
        r.2.2.state = 0) ∧
      (F.Fair → ∃ calls r, readnbUntil F.getfn buflen calls buf trp = some r) := by
  have hmid : Midway stream buflen buf (F.seen trp) := midway_of_fresh hroom hbuf hstate htype
  refine ⟨packetReadnb_exactly_returns hmid hstate, ?_, ?_⟩
  · intro calls r hr
    obtain ⟨hwhole, -, hend⟩ := readnbUntil_whole hmid hr
    rw [hwhole]
    exact ⟨rfl, rfl, rfl, hend⟩
  · intro hfair
    exact readnbUntil_returns hfair hmid (by simp [request, hstate]) (Nat.lt_succ_self _)

def dribbling (stream : Nat → UInt8) : Fragmenting stream where
  Sck := Nat × Bool
  getfn := fun sck count =>
    if sck.2 then (some (window stream sck.1 (min 1 count)), (sck.1 + min 1 count, false))
    else (some [], (sck.1, true))
  pos := Prod.fst
  serves := by
    rintro ⟨pos, ready⟩ count
    cases ready with
    | false => exact ⟨0, Nat.zero_le _, (pos, true), rfl, rfl⟩
    | true => exact ⟨min 1 count, Nat.min_le_right _ _, (pos + min 1 count, false), rfl, rfl⟩

theorem dribbling_fair : (dribbling stream).Fair := by
  intro count sck hcount
  obtain ⟨pos, ready⟩ := sck
  have hone : min 1 count = 1 := by omega
  have hready : (dribbling stream).Delivers count (pos, true) := by
    have hget : (dribbling stream).getfn (pos, true) count =
        (some [stream pos], (pos + 1, false)) := by
      simp [dribbling, hone, window_succ]
    exact .now hget (by simp)
  cases ready with
  | false => exact .again rfl hready
  | true => exact hready

def pubackStream (i : Nat) : UInt8 := [64, 2, 0, 7].getD i 0

theorem packetReadnb_fragmentation_puback :
    ∃ calls r, readnbUntil (dribbling pubackStream).getfn 5 calls [0, 0, 0, 0, 0]
      ⟨(0, false), 9, 9, 9, 0⟩ = some r ∧ r.1 = PUBACK ∧ r.2.1 = [64, 2, 0, 7, 0] := by
  obtain ⟨-, hsame, hreturns⟩ := packetReadnb_fragmentation (dribbling pubackStream)
    5 [0, 0, 0, 0, 0] ⟨(0, false), 9, 9, 9, 0⟩ (by decide) (by decide) rfl (by decide)
  obtain ⟨calls, r, hr⟩ := hreturns dribbling_fair
  obtain ⟨hrc, hbuf, -, -⟩ := hsame calls r hr
  exact ⟨calls, r, hr, hrc.trans (by decide), hbuf.trans (by decide)⟩

end Fragmentation

end MbedMqtt
