import MbedMqtt.Client.Twin

namespace MbedMqtt

theorem heard_none {ev : List Event} (h : heard ev = []) :
    ∀ header body, .received header body ∈ ev → headerType header ≠ PINGRESP := by
  intro header body hmem
  rw [← mem_heard, h] at hmem
  cases hmem

variable {σ τ κ : Type} [Network σ] [Timer τ κ]

section Cycle

variable {cfg cfg' : Config} (hk : Kin cfg cfg') {c : Client τ}

include hk

theorem sendPing_eq (st : Storage) (w : World σ τ κ) (p : τ) :
    ∃ p₁, sendPing cfg' (c.twin st) (w.timed p) = (sendPing cfg c w).twin st p₁ ∧
      (p₁ = p ∧ (sendPing cfg c w).world.pingSent = w.pingSent ∧
          (sendPing cfg c w).client.pingOutstanding = c.pingOutstanding ∨
        p₁ = (sendPing cfg c w).world.pingSent ∧ 2 ≤ cfg.maxPacketSize ∧
          (sendPing cfg c w).rc = SUCCESS) := by
  simp only [sendPing, hk.maxPacketSize, Client.twin_fillSendbuf, World.timed_tick,
    World.timed_countdownMs, sendPacket_twin]
  split
  · rename_i hsize
    have hping := sendPacket_pingSent (c.fillSendbuf (serializePingreq cfg.maxPacketSize).2) w.tick
      (serializePingreq cfg.maxPacketSize).1.toNat (w.countdownMs 1000)
    have hout : (sendPacket (c.fillSendbuf (serializePingreq cfg.maxPacketSize).2) w.tick
        (serializePingreq cfg.maxPacketSize).1.toNat (w.countdownMs 1000)).client.pingOutstanding =
        c.pingOutstanding :=
      sendPacket_pingOutstanding _ _ _ _
    generalize sendPacket (c.fillSendbuf (serializePingreq cfg.maxPacketSize).2) w.tick
      (serializePingreq cfg.maxPacketSize).1.toNat (w.countdownMs 1000) = r at hping hout ⊢
    rw [Outcome.twin_rc]
    split
    · refine ⟨_, rfl, .inr ⟨rfl, ?_, rfl⟩⟩
      by_contra hsmall
      rw [serializePingreq_eq, if_pos (by omega)] at hsize
      cases hsize
    · exact ⟨p, rfl, .inl ⟨rfl, hping, hout⟩⟩
  · exact ⟨p, rfl, .inl ⟨rfl, rfl, rfl⟩⟩

omit hk in
theorem sendPing_storage (w : World σ τ κ) : (sendPing cfg c w).client.storage = c.storage := by
  rcases sendPing_cases cfg c w with ⟨-, h⟩ | ⟨-, t, ⟨-, hcl, -⟩ | ⟨-, hcl, -⟩⟩
  · rw [h]
    rfl
  · rw [hcl]
    rfl
  · rw [hcl]
    rfl

theorem sendPing_twin (st : Storage) (w : World σ τ κ) (p : τ) :
    ∃ p₁, sendPing cfg' (c.twin st) (w.timed p) = (sendPing cfg c w).twin st p₁ ∧
      Elapsed c.pingOutstanding w p (sendPing cfg c w).client.pingOutstanding
        (sendPing cfg c w).world p₁ := by
  obtain ⟨p₁, heq, hp₁⟩ := sendPing_eq hk st w p
  refine ⟨p₁, heq, ?_⟩
  have hlog : ∃ ev, (sendPing cfg c w).world.log = w.log ++ ev ∧ heard ev = [] := by
    obtain ⟨ev, hspec⟩ := sendPing_spec cfg c w
    exact ⟨ev, hspec.log, hspec.quiet⟩
  rcases hp₁ with ⟨rfl, hping, hout⟩ | ⟨hp₁, hsize, hrc⟩
  · obtain ⟨ev, hlog, hquiet⟩ := hlog
    refine .still hping hlog ?_ p₁
    rw [hout]
    exact fun h => ⟨h, heard_none hquiet⟩
  · rcases sendPing_cases cfg c w with ⟨hsmall, -⟩ | ⟨-, t, ⟨-, hcl, hsent⟩ | ⟨hfail, -, -⟩⟩
    · omega
    · have hsince := World.since_eq hsent
      have htype : packetType pingreqPacket = PINGREQ := packetType_pingreqPacket
      refine ⟨⟨_, hsent.symm⟩, ?_, .inr ⟨hp₁, ?_⟩⟩
      · intro _
        simp [hsince, awaiting, htype]
      · exact ⟨.sent pingreqPacket, by simp [hsince], by simp [sentOf, htype]⟩
    · rw [hrc] at hfail
      cases hfail

theorem keepalive_twin (st : Storage) (w : World σ τ κ) {p : τ}
    (hp : c.pingOutstanding = true → p = w.pingSent) :
    ∃ p₁, keepalive cfg' (c.twin st) (w.timed p) = (keepalive cfg c w).twin st p₁ ∧
      (keepalive cfg c w).client.storage = c.storage ∧
      Elapsed c.pingOutstanding w p (keepalive cfg c w).client.pingOutstanding
        (keepalive cfg c w).world p₁ := by
  have hstill (w₁ : World σ τ κ) (hlog : w₁.log = w.log ++ []) (hping : w₁.pingSent = w.pingSent) :
      Elapsed c.pingOutstanding w p c.pingOutstanding w₁ p :=
    .still hping hlog (fun h => ⟨h, by simp⟩) p
  have hquiet : w.log = w.log ++ [] := (List.append_nil _).symm
  simp only [keepalive, Client.twin_keepAliveInterval, Client.twin_pingOutstanding,
    Client.twin_lastSent, Client.twin_lastReceived, World.timed_expired, World.timed_tick]
  split
  · exact ⟨p, rfl, rfl, hstill _ hquiet rfl⟩
  split
  · rename_i hout
    obtain rfl := hp hout
    exact ⟨_, rfl, rfl, hstill _ hquiet rfl⟩
  split
  · obtain ⟨p₁, heq, hel⟩ := sendPing_twin hk st w.tick p
    exact ⟨p₁, heq, sendPing_storage w.tick, (hstill w.tick hquiet rfl).trans hel⟩
  split
  · obtain ⟨p₁, heq, hel⟩ := sendPing_twin hk st w.tick.tick p
    exact ⟨p₁, heq, sendPing_storage w.tick.tick, (hstill w.tick.tick hquiet rfl).trans hel⟩
  · exact ⟨p, rfl, rfl, hstill _ hquiet rfl⟩

omit hk in
theorem cyclePublish_outstanding (cfg : Config) (c : Client τ) (w : World σ τ κ) (timer : τ)
    (h : (cyclePublish cfg c w timer).client.pingOutstanding = true) :
    c.pingOutstanding = true := by
  cases hq : cfg.qos1 with
  | true => rwa [cyclePublish_pingOutstanding hq] at h
  | false =>
    unfold cyclePublish at h
    cases hf : deserializePublish c.readbuf with
    | none => simpa only [hf] using h
    | some fields => simp [hf, hq] at h

omit hk in
theorem cycleSwitch_outstanding (cfg : Config) (packetType : Int) (c : Client τ) (w : World σ τ κ)
    (timer : τ) (h : (cycleSwitch cfg packetType c w timer).client.pingOutstanding = true) :
    c.pingOutstanding = true ∧ packetType ≠ PINGRESP := by
  unfold cycleSwitch at h
  split at h
  · rename_i ht
    refine ⟨h, ?_⟩
    rcases ht with rfl | rfl | rfl | rfl | rfl <;> decide
  split at h
  · rename_i ht
    refine ⟨cyclePublish_outstanding cfg c w timer h, ?_⟩
    rw [ht]
    decide
  split at h
  · rename_i ht
    rw [cycleAck_pingOutstanding] at h
    refine ⟨h, ?_⟩
    rcases ht.2 with rfl | rfl <;> decide
  split at h
  · rename_i ht
    refine ⟨h, ?_⟩
    rw [ht.2]
    decide
  split at h
  · cases h
  · rename_i ht
    exact ⟨h, ht⟩

omit hk in
theorem cycleCheck_elapsed (cfg : Config) (c : Client τ) (w : World σ τ κ) (timer p : τ) :
    Elapsed c.pingOutstanding w p (cycleCheck cfg c w timer).client.pingOutstanding
      (cycleCheck cfg c w timer).world p := by
  have hping : (cycleCheck cfg c w timer).world.pingSent = w.pingSent :=
    (cycleSwitch_pingSent cfg _ _ _ timer).trans (readPacket_pingSent cfg c w)
  have hout (h : (cycleCheck cfg c w timer).client.pingOutstanding = true) :
      c.pingOutstanding = true ∧ (readPacket cfg c w).rc ≠ PINGRESP := by
    have hswitch := cycleSwitch_outstanding cfg _ _ _ timer h
    rwa [readPacket_pingOutstanding] at hswitch
  rcases readPacket_cases cfg c w with ⟨header, body, net, -, hb, hread⟩ | ⟨hrc, hlog⟩
  · obtain ⟨hrc, -, hbuf, hlog⟩ := received_spec c { w with net := net } header body
    rw [← hread] at hrc hbuf hlog
    obtain ⟨ev, hsw⟩ := cycleSwitch_spec cfg (readPacket cfg c w).world timer hbuf hb
    rw [← hrc] at hsw
    have hall : (cycleCheck cfg c w timer).world.log = w.log ++ .received header body :: ev := by
      rw [cycleCheck, hsw.log, hlog, List.append_assoc, List.singleton_append]
    refine .still hping hall ?_ p
    intro h
    obtain ⟨hpo, htype⟩ := hout h
    rw [hrc, ne_eq, Nat.cast_inj] at htype
    refine ⟨hpo, ?_⟩
    intro header' body' hmem
    rcases List.mem_cons.mp hmem with heq | hmem
    · cases heq
      exact htype
    · exact heard_none hsw.quiet header' body' hmem
  · have hall : (cycleCheck cfg c w timer).world.log = w.log ++ [] := by
      simp [cycleCheck, cycleSwitch_idle cfg hrc, hlog]
    exact .still hping hall (fun h => ⟨(hout h).1, by simp⟩) p

omit hk in
theorem cyclePublish_qos0 (cfg : Config) {c : Client τ} {fields : PublishFields} (w : World σ τ κ)
    (timer : τ) (hf : deserializePublish c.readbuf = some fields) (hqos : fields.qos = 0)
    (hpo : c.pingOutstanding = false) :
    cyclePublish cfg c w timer =
      ⟨⟨SUCCESS, c,
        (deliverMessage c w.pop fields.topicName (fields.message w.uninitialised)).world⟩, false⟩ := by
  have hmsg : (fields.message w.uninitialised).qos = .QOS0 := by
    rw [PublishFields.message, hqos]
    rfl
  have hdeliver : cycleDeliver cfg c w.pop fields.topicName (fields.message w.uninitialised) =
      deliverMessage c w.pop fields.topicName (fields.message w.uninitialised) := by
    simp [cycleDeliver, hmsg]
  simp only [cyclePublish, hf, hdeliver, hmsg]
  cases cfg.qos1 with
  | true => rfl
  | false =>
    obtain ⟨s, sendbuf, readbuf, lastSent, lastReceived, po⟩ := c
    obtain rfl : po = false := hpo
    rfl

omit hk in
theorem cyclePublish_plain (cfg cfg' : Config) {c : Client τ} {header : UInt8} {body tail : Bytes} (st : Storage)
    (w : World σ τ κ) (timer p : τ) (hbuf : c.readbuf = framed header body ++ tail)
    (hb : body.length < 268435456) (hq : headerQoS header = 0)
    (hun : prompted c.pingOutstanding header body = false) :
    cyclePublish cfg' (c.twin st) (w.timed p) timer = (cyclePublish cfg c w timer).twin st p ∧
      (cyclePublish cfg c w timer).client = c := by
  cases hf : deserializePublish c.readbuf with
  | none =>
    simp only [cyclePublish, Client.twin_readbuf, hf]
    exact ⟨rfl, trivial⟩
  | some fields =>
    have hparse := hf
    rw [hbuf] at hparse
    obtain ⟨-, hqos, -⟩ := deserializePublish_eq_some hparse
    rw [byteAt_framed, hq] at hqos
    have hpo : c.pingOutstanding = false := by
      rw [deserializePublish_framed_eq tail hb] at hparse
      split at hparse
      · rename_i hok
        simpa [prompted, hok] using hun
      · cases hparse
    rw [cyclePublish_qos0 cfg w timer hf hqos hpo,
      cyclePublish_qos0 cfg' (c := c.twin st) (w.timed p) timer hf hqos hpo]
    exact ⟨rfl, rfl⟩

omit hk in
theorem cycleSwitch_plain (cfg cfg' : Config) {c : Client τ} {header : UInt8} {body tail : Bytes} (st : Storage)
    (w : World σ τ κ) (timer p : τ) (hbuf : c.readbuf = framed header body ++ tail)
    (hb : body.length < 268435456) (hplain : plainHeader header = true)
    (hun : prompted c.pingOutstanding header body = false) :
    cycleSwitch cfg' (headerType header) (c.twin st) (w.timed p) timer =
        (cycleSwitch cfg (headerType header) c w timer).twin st p ∧
      (cycleSwitch cfg (headerType header) c w timer).client.storage = c.storage := by
  simp only [plainHeader, Bool.or_eq_true, Bool.and_eq_true, decide_eq_true_eq] at hplain
  rcases hplain with (((ht | ht) | ht) | ht) | ⟨ht, hq⟩
  · simp only [cycleSwitch, ht, true_or, or_true, if_true]
    exact ⟨rfl, trivial⟩
  · simp only [cycleSwitch, ht, true_or, or_true, if_true]
    exact ⟨rfl, trivial⟩
  · simp only [cycleSwitch, ht, or_true, if_true]
    exact ⟨rfl, trivial⟩
  · have hswitch (cfg : Config) (c : Client τ) (w : World σ τ κ) :
        cycleSwitch cfg (PINGRESP : Nat) c w timer =
          ⟨⟨SUCCESS, { c with pingOutstanding := false }, w⟩, false⟩ := by
      simp [cycleSwitch]
    rw [ht, hswitch, hswitch]
    exact ⟨rfl, rfl⟩
  · have hswitch (cfg : Config) (c : Client τ) (w : World σ τ κ) :
        cycleSwitch cfg (PUBLISH : Nat) c w timer = cyclePublish cfg c w timer := by
      simp [cycleSwitch]
    obtain ⟨heq, hclient⟩ := cyclePublish_plain cfg cfg' st w timer p hbuf hb hq hun
    rw [ht, hswitch, hswitch, hclient]
    exact ⟨heq, rfl⟩

theorem cycleCheck_twin {st : Storage} (hh : StoredAs cfg cfg' c.toSession st) (w : World σ τ κ)
    (timer p : τ)
    (hfine : cfg' = cfg ∨
      plain c.pingOutstanding (w.since (cycleCheck cfg c w timer).world) = true) :
    ∃ st', cycleCheck cfg' (c.twin st) (w.timed p) timer =
        (cycleCheck cfg c w timer).twin st' p ∧
      StoredAs cfg cfg' (cycleCheck cfg c w timer).client.toSession st' := by
  have hread := readPacket_twin hk.maxPacketSize c w st p
  have hst : (readPacket cfg c w).client.storage = c.storage := by
    obtain ⟨buf, t, h⟩ := readPacket_frame cfg c w
    rw [h]
  rcases hfine with rfl | hplain
  · obtain rfl := hh.same rfl
    refine ⟨_, ?_, ⟨fun _ => rfl, fun _ => rfl⟩⟩
    have hself : (readPacket cfg' c w).client.twin c.storage = (readPacket cfg' c w).client := by
      rw [← hst, twin_storage]
    simp only [cycleCheck, hread, Outcome.twin, hself]
    exact cycleSwitch_timed cfg' (readPacket cfg' c w).rc (readPacket cfg' c w).client
      (readPacket cfg' c w).world timer p
  · simp only [cycleCheck, hread]
    rcases readPacket_cases cfg c w with ⟨header, body, net, -, hb, hrec⟩ | ⟨hrc, hlog⟩
    · obtain ⟨hrc, -, hbuf, hlog⟩ := received_spec c { w with net := net } header body
      rw [← hrec] at hrc hbuf hlog
      obtain ⟨ev, hsw⟩ := cycleSwitch_spec cfg (readPacket cfg c w).world timer hbuf hb
      have hall : (cycleCheck cfg c w timer).world.log = w.log ++ .received header body :: ev := by
        rw [cycleCheck, hrc, hsw.log, hlog, List.append_assoc, List.singleton_append]
      rw [World.since_eq hall, plain, Bool.and_eq_true, Bool.and_eq_true, Bool.not_eq_true'] at hplain
      have hpo := readPacket_pingOutstanding cfg c w
      obtain ⟨heq, hst'⟩ := cycleSwitch_plain cfg cfg' st (readPacket cfg c w).world timer p hbuf hb
        hplain.1.1 (by rw [hpo]; exact hplain.1.2)
      rw [hrc]
      refine ⟨st, ?_, hh.congr (hst'.trans hst)⟩
      rw [← heq, Outcome.twin, hrc]
    · have hidle := cycleSwitch_idle cfg' hrc ((readPacket cfg c w).client.twin st)
        ((readPacket cfg c w).world.timed p) timer
      rw [cycleSwitch_idle cfg hrc]
      exact ⟨st, hidle, hh.congr hst⟩

omit [Network σ] [Timer τ κ] in
theorem cycleExit_twin {r : Outcome σ τ κ} {st : Storage}
    (hh : StoredAs cfg cfg' r.client.toSession st) (packetType : Int) (p : τ) :
    ∃ st', cycleExit cfg' packetType (r.twin st p) = (cycleExit cfg packetType r).twin st' p ∧
      StoredAs cfg cfg' (cycleExit cfg packetType r).client.toSession st' := by
  simp only [cycleExit, Outcome.twin_rc, Outcome.twin_client, Client.twin_isconnected]
  split
  · exact ⟨st, rfl, hh⟩
  split
  · obtain ⟨st', heq, hh'⟩ := closeSession_twin hk hh
    refine ⟨st', ?_, hh'⟩
    simp only [Outcome.twin, ← heq]
  · exact ⟨st, rfl, hh⟩

omit hk [Network σ] [Timer τ κ] in
theorem cycleExit_world (cfg : Config) (packetType : Int) (r : Outcome σ τ κ) :
    (cycleExit cfg packetType r).world = r.world ∧
      ((cycleExit cfg packetType r).client.pingOutstanding = true →
        r.client.pingOutstanding = true) := by
  unfold cycleExit
  split
  · exact ⟨rfl, id⟩
  split
  · exact ⟨rfl, fun h => by cases h⟩
  · exact ⟨rfl, id⟩

theorem cycleKeepalive_twin {b : Branch σ τ κ} {st : Storage}
    (hh : StoredAs cfg cfg' b.client.toSession st) {p : τ}
    (hp : b.client.pingOutstanding = true → p = b.world.pingSent) :
    ∃ p₁, cycleKeepalive cfg' (b.twin st p) = (cycleKeepalive cfg b).twin st p₁ ∧
      StoredAs cfg cfg' (cycleKeepalive cfg b).client.toSession st ∧
      Elapsed b.client.pingOutstanding b.world p (cycleKeepalive cfg b).client.pingOutstanding
        (cycleKeepalive cfg b).world p₁ := by
  have hleave : (b.twin st p).leave = b.leave := rfl
  simp only [cycleKeepalive, hleave]
  split
  · exact ⟨p, rfl, hh, .refl _ _ _⟩
  · obtain ⟨p₁, heq, hst, hel⟩ := keepalive_twin hk st b.world hp
    have hk' : keepalive cfg' (b.twin st p).client (b.twin st p).world = _ := heq
    rw [hk']
    generalize keepalive cfg b.client b.world = k at hst hel
    rw [Outcome.twin_rc]
    split
    · exact ⟨p₁, rfl, hh.congr hst, hel⟩
    · exact ⟨p₁, rfl, hh.congr hst, hel⟩

def Fine (cfg cfg' : Config) (po : Bool) (w w₁ : World σ τ κ) : Prop :=
  cfg' = cfg ∨ plain po (w.since w₁) = true

omit hk [Network σ] [Timer τ κ] in
theorem Fine.before {po : Bool} {w w₁ w₂ : World σ τ κ} (h : Fine cfg cfg' po w w₂)
    (hlog : w.log <+: w₁.log) (hlog' : w₁.log <+: w₂.log) : Fine cfg cfg' po w w₁ := by
  rcases h with rfl | h
  · exact .inl rfl
  · rw [Elapsed.since_append hlog hlog', plain_append, Bool.and_eq_true] at h
    exact .inr h.1

omit hk [Network σ] [Timer τ κ] in
theorem Fine.after {po po₁ : Bool} {w w₁ w₂ : World σ τ κ} {p p₁ : τ}
    (h : Fine cfg cfg' po w w₂) (hel : Elapsed po w p po₁ w₁ p₁) (hlog : w₁.log <+: w₂.log) :
    Fine cfg cfg' po₁ w₁ w₂ := by
  rcases h with rfl | h
  · exact .inl rfl
  · rw [Elapsed.since_append hel.log hlog, plain_append, Bool.and_eq_true] at h
    exact .inr (plain_mono hel.awaits _ h.2)

theorem cycle_twin {st : Storage} (hh : StoredAs cfg cfg' c.toSession st) (w : World σ τ κ) {p : τ}
    (hp : c.pingOutstanding = true → p = w.pingSent) (timer : τ)
    (hfine : Fine cfg cfg' c.pingOutstanding w (cycle cfg c w timer).world) :
    Twin cfg cfg' c.pingOutstanding w p (cycle cfg c w timer)
      (cycle cfg' (c.twin st) (w.timed p) timer) := by
  obtain ⟨hworld, hout⟩ := cycleExit_world cfg (readPacket cfg c w).rc
    (cycleKeepalive cfg (cycleCheck cfg c w timer))
  have hcheck := cycleCheck_elapsed cfg c w timer p
  rw [cycle_eq, hworld] at hfine
  obtain ⟨ev, hkeep, -⟩ := cycleKeepalive_spec cfg (cycleCheck cfg c w timer)
  obtain ⟨st₁, heq₁, hh₁⟩ := cycleCheck_twin hk hh w timer p
    (hfine.before hcheck.log ⟨ev, hkeep.symm⟩)
  obtain ⟨p₂, heq₂, hh₂, hel₂⟩ := cycleKeepalive_twin hk hh₁ (hcheck.near hp)
  obtain ⟨st₃, heq₃, hh₃⟩ := cycleExit_twin hk hh₂ (readPacket cfg c w).rc p₂
  refine ⟨st₃, p₂, ?_, hh₃, ?_⟩
  · rw [cycle_eq, cycle_eq, heq₁, heq₂, readPacket_twin hk.maxPacketSize]
    exact heq₃
  · rw [cycle_eq, hworld]
    exact (hcheck.trans hel₂).drop hout

end Cycle

section Loops

variable {cfg cfg' : Config} (hk : Kin cfg cfg')

omit [Network σ] [Timer τ κ] in
theorem Elapsed.tick (po : Bool) (w : World σ τ κ) (p : τ) : Elapsed po w p po w.tick p := by
  have hping : w.tick.pingSent = w.pingSent := rfl
  have hlog : w.tick.log = w.log ++ [] := (List.append_nil w.log).symm
  exact .still hping hlog (fun h => ⟨h, by simp⟩) p

omit [Network σ] [Timer τ κ] in
theorem Twin.of_elapsed {po : Bool} {w w₁ : World σ τ κ} {p p₁ : τ} {c : Client τ} {st : Storage}
    (hh : StoredAs cfg cfg' c.toSession st) (hel : Elapsed po w p c.pingOutstanding w₁ p₁) (rc : Int) :
    Twin cfg cfg' po w p ⟨rc, c, w₁⟩ ⟨rc, c.twin st, w₁.timed p₁⟩ :=
  ⟨st, p₁, rfl, hh, hel⟩

omit [Network σ] [Timer τ κ] in
theorem Twin.after {po po₁ : Bool} {w w₁ : World σ τ κ} {p p₁ : τ} {r r' : Outcome σ τ κ}
    (h : Twin cfg cfg' po₁ w₁ p₁ r r') (hel : Elapsed po w p po₁ w₁ p₁) :
    Twin cfg cfg' po w p r r' := by
  obtain ⟨st, p₂, heq, hh, hel₂⟩ := h
  exact ⟨st, p₂, heq, hh, hel.trans hel₂⟩

omit [Network σ] [Timer τ κ] in
theorem Twin.withRc {po : Bool} {w : World σ τ κ} {p : τ} {r r' : Outcome σ τ κ}
    (h : Twin cfg cfg' po w p r r') (rc : Int) :
    Twin cfg cfg' po w p { r with rc := rc } { r' with rc := rc } := by
  obtain ⟨st, p₁, rfl, hh, hel⟩ := h
  exact ⟨st, p₁, rfl, hh, hel⟩

theorem cycle_log (cfg : Config) (c : Client τ) (w : World σ τ κ) (timer : τ) :
    w.log <+: (cycle cfg c w timer).world.log := by
  obtain ⟨ev, hturn⟩ := cycle_turn cfg c w timer
  exact ⟨ev, hturn.log.symm⟩

theorem waitforLoop_log (cfg : Config) (packetType : Int) (timer : τ) (fuel : Nat) (rc : Int)
    (c : Client τ) (w : World σ τ κ) :
    w.log <+: (waitforLoop cfg packetType timer fuel rc c w).world.log := by
  induction fuel generalizing rc c w with
  | zero => exact List.prefix_refl _
  | succ fuel ih =>
    simp only [waitforLoop]
    split
    · exact List.prefix_refl _
    · have hturn := cycle_log cfg c w.tick timer
      split
      · exact hturn.trans (ih _ _ _)
      · exact hturn

theorem yieldLoop_log (cfg : Config) (timer : τ) (fuel : Nat) (c : Client τ) (w : World σ τ κ) :
    w.log <+: (yieldLoop cfg timer fuel c w).world.log := by
  obtain ⟨ev, h⟩ := yieldLoop_yield cfg timer fuel c w
  exact ⟨ev, h.log.symm⟩

include hk

theorem turn_twin {c : Client τ} {st : Storage} (hh : StoredAs cfg cfg' c.toSession st)
    {w w₂ : World σ τ κ} {p : τ} (hp : c.pingOutstanding = true → p = w.pingSent) (timer : τ)
    (hrest : (cycle cfg c w.tick timer).world.log <+: w₂.log)
    (hfine : Fine cfg cfg' c.pingOutstanding w w₂) :
    ∃ st₁ p₁, cycle cfg' (c.twin st) (w.tick.timed p) timer =
        (cycle cfg c w.tick timer).twin st₁ p₁ ∧
      StoredAs cfg cfg' (cycle cfg c w.tick timer).client.toSession st₁ ∧
      Elapsed c.pingOutstanding w p (cycle cfg c w.tick timer).client.pingOutstanding
        (cycle cfg c w.tick timer).world p₁ ∧
      Fine cfg cfg' (cycle cfg c w.tick timer).client.pingOutstanding
        (cycle cfg c w.tick timer).world w₂ := by
  have hlog := cycle_log cfg c w.tick timer
  obtain ⟨st₁, p₁, heq, hh₁, hel⟩ := cycle_twin hk hh w.tick hp timer (hfine.before hlog hrest)
  have hstart := (Elapsed.tick c.pingOutstanding w p).trans hel
  exact ⟨st₁, p₁, heq, hh₁, hstart, hfine.after hstart hrest⟩

theorem waitforLoop_twin (packetType : Int) (timer : τ) (fuel : Nat) (rc : Int) {c : Client τ}
    {st : Storage} (hh : StoredAs cfg cfg' c.toSession st) {w : World σ τ κ} {p : τ}
    (hp : c.pingOutstanding = true → p = w.pingSent)
    (hfine : Fine cfg cfg' c.pingOutstanding w
      (waitforLoop cfg packetType timer fuel rc c w).world) :
    Twin cfg cfg' c.pingOutstanding w p (waitforLoop cfg packetType timer fuel rc c w)
      (waitforLoop cfg' packetType timer fuel rc (c.twin st) (w.timed p)) := by
  induction fuel generalizing rc c st w p with
  | zero => exact .of_elapsed hh (.refl _ _ _) rc
  | succ fuel ih =>
    simp only [waitforLoop, World.timed_expired, World.timed_tick] at hfine ⊢
    split
    · exact .of_elapsed hh (.tick _ _ _) rc
    · rename_i hlive
      rw [if_neg hlive] at hfine
      have hrest : (cycle cfg c w.tick timer).world.log <+:
          (if (cycle cfg c w.tick timer).rc ≠ packetType ∧ 0 ≤ (cycle cfg c w.tick timer).rc then
            waitforLoop cfg packetType timer fuel (cycle cfg c w.tick timer).rc
              (cycle cfg c w.tick timer).client (cycle cfg c w.tick timer).world
          else cycle cfg c w.tick timer).world.log := by
        split
        · exact waitforLoop_log _ _ _ _ _ _ _
        · exact List.prefix_refl _
      obtain ⟨st₁, p₁, heq, hh₁, hel, hfine₁⟩ := turn_twin hk hh hp timer hrest hfine
      rw [heq]
      generalize cycle cfg c w.tick timer = r at hh₁ hel hfine₁ ⊢
      rw [Outcome.twin_rc]
      split
      · rename_i hmore
        rw [if_pos hmore] at hfine₁
        exact (ih r.rc hh₁ (hel.near hp) hfine₁).after hel
      · exact ⟨st₁, p₁, rfl, hh₁, hel⟩

theorem waitfor_twin (packetType : Int) (timer : τ) {c : Client τ} {st : Storage}
    (hh : StoredAs cfg cfg' c.toSession st) {w : World σ τ κ} {p : τ}
    (hp : c.pingOutstanding = true → p = w.pingSent)
    (hfine : Fine cfg cfg' c.pingOutstanding w (waitfor cfg c w packetType timer).world) :
    Twin cfg cfg' c.pingOutstanding w p (waitfor cfg c w packetType timer)
      (waitfor cfg' (c.twin st) (w.timed p) packetType timer) :=
  waitforLoop_twin hk packetType timer (w.clock.length + 1) FAILURE hh hp hfine

theorem yieldLoop_twin (timer : τ) (fuel : Nat) {c : Client τ} {st : Storage}
    (hh : StoredAs cfg cfg' c.toSession st) {w : World σ τ κ} {p : τ}
    (hp : c.pingOutstanding = true → p = w.pingSent)
    (hfine : Fine cfg cfg' c.pingOutstanding w (yieldLoop cfg timer fuel c w).world) :
    Twin cfg cfg' c.pingOutstanding w p (yieldLoop cfg timer fuel c w)
      (yieldLoop cfg' timer fuel (c.twin st) (w.timed p)) := by
  induction fuel generalizing c st w p with
  | zero => exact .of_elapsed hh (.refl _ _ _) SUCCESS
  | succ fuel ih =>
    simp only [yieldLoop, World.timed_expired, World.timed_tick] at hfine ⊢
    split
    · exact .of_elapsed hh (.tick _ _ _) SUCCESS
    · rename_i hlive
      rw [if_neg hlive] at hfine
      have hrest : (cycle cfg c w.tick timer).world.log <+:
          (if (cycle cfg c w.tick timer).rc < 0 then
            ⟨FAILURE, (cycle cfg c w.tick timer).client, (cycle cfg c w.tick timer).world⟩
          else yieldLoop cfg timer fuel (cycle cfg c w.tick timer).client
            (cycle cfg c w.tick timer).world : Outcome σ τ κ).world.log := by
        split
        · exact List.prefix_refl _
        · exact yieldLoop_log _ _ _ _ _
      obtain ⟨st₁, p₁, heq, hh₁, hel, hfine₁⟩ := turn_twin hk hh hp timer hrest hfine
      rw [heq]
      generalize cycle cfg c w.tick timer = r at hh₁ hel hfine₁ ⊢
      rw [Outcome.twin_rc]
      split
      · exact ⟨st₁, p₁, rfl, hh₁, hel⟩
      · rename_i hmore
        rw [if_neg hmore] at hfine₁
        exact (ih hh₁ (hel.near hp) hfine₁).after hel

theorem yield_twin (timeoutMs : Nat) {c : Client τ} {st : Storage}
    (hh : StoredAs cfg cfg' c.toSession st) {w : World σ τ κ} {p : τ}
    (hp : c.pingOutstanding = true → p = w.pingSent)
    (hfine : Fine cfg cfg' c.pingOutstanding w (yield cfg c w timeoutMs).world) :
    Twin cfg cfg' c.pingOutstanding w p (yield cfg c w timeoutMs)
      (yield cfg' (c.twin st) (w.timed p) timeoutMs) :=
  (yieldLoop_twin hk (w.countdownMs timeoutMs) (w.clock.length + 1) hh (w := w.tick) hp hfine).after
    (.tick _ w p)

end Loops

end MbedMqtt
