import MbedMqtt.Client.Acts

namespace MbedMqtt

variable {σ τ κ : Type} [Network σ] [Timer τ κ]

def expected (cfg : Config) (packetType : Nat) : Bool :=
  packetType = 0 || packetType = CONNACK || packetType = PUBACK || packetType = SUBACK ||
    packetType = UNSUBACK || packetType = PUBLISH || packetType = PINGRESP ||
    (cfg.qos2 && (packetType = PUBREC || packetType = PUBREL || packetType = PUBCOMP))

def allExpected (cfg : Config) (packets : List (UInt8 × Bytes)) : Bool :=
  packets.all fun p => expected cfg (headerType p.1)

@[simp] theorem allExpected_append (cfg : Config) (ps qs : List (UInt8 × Bytes)) :
    allExpected cfg (ps ++ qs) = (allExpected cfg ps && allExpected cfg qs) := by
  simp [allExpected]

structure SwitchSpec (cfg : Config) (header : UInt8) (body : Bytes) (c : Client τ)
    (w : World σ τ κ) (b : Branch σ τ κ) (ev : List Event) : Prop where
  log : b.world.log = w.log ++ ev
  act : CycleAct cfg c.toSession (.received header body :: ev) b.client.toSession
  quiet : heard ev = []
  table : ∃ table, b.client.toSession = { c.toSession with incomingQoS2messages := table }
  readbuf : b.client.readbuf = c.readbuf
  result : expected cfg (headerType header) = true ∧
      (b.rc = SUCCESS ∨ b.rc = FAILURE ∧ b.leave = true) ∨
    expected cfg (headerType header) = false ∧ b.rc = headerType header ∧ b.leave = true

omit [Network σ] [Timer τ κ] in
theorem SwitchSpec.of_quiet {cfg : Config} {header : UInt8} {body : Bytes} {c c' : Client τ}
    {w : World σ τ κ} {rc : Int} {leave : Bool} (hs : c'.toSession = c.toSession)
    (hr : c'.readbuf = c.readbuf) (hunread : Unread header body)
    (hrc : expected cfg (headerType header) = true ∧
        (rc = SUCCESS ∨ rc = FAILURE ∧ leave = true) ∨
      expected cfg (headerType header) = false ∧ rc = headerType header ∧ leave = true) :
    SwitchSpec cfg header body c w ⟨⟨rc, c', w⟩, leave⟩ [] where
  log := by simp
  act := by
    simp only [hs]
    exact .heard _ hunread
  quiet := rfl
  table := ⟨c.incomingQoS2messages, hs⟩
  readbuf := hr
  result := hrc

omit [Network σ] [Timer τ κ] in
theorem SwitchSpec.exit_rc {cfg : Config} {header : UInt8} {body : Bytes} {c : Client τ}
    {w : World σ τ κ} {b : Branch σ τ κ} {ev : List Event} (h : SwitchSpec cfg header body c w b ev)
    {rc : Int} (hrc : rc = b.rc ∨ b.leave = false ∧ rc = FAILURE) :
    rc = SUCCESS ∧ expected cfg (headerType header) = true ∨ rc = FAILURE ∨
      rc = headerType header ∧ expected cfg (headerType header) = false := by
  rcases hrc with rfl | ⟨-, hrc⟩
  · rcases h.result with ⟨hexp, hb | ⟨hb, -⟩⟩ | ⟨hexp, hb, -⟩
    · exact .inl ⟨hb, hexp⟩
    · exact .inr (.inl hb)
    · exact .inr (.inr ⟨hb, hexp⟩)
  · exact .inr (.inl hrc)

theorem publishReply_cases (cfg : Config) (msg : Message) :
    (publishReply cfg msg).1 ≤ 0 ∨
      ∃ packet, publishReply cfg msg = ((packet.length : Int), packet) ∧ 0 < packet.length ∧
        Replies msg [.sent packet] ∧ Replies msg [.unsent packet] := by
  unfold publishReply
  cases hq : msg.qos with
  | QOS0 => exact .inl (by simp)
  | reserved => exact .inl (by simp)
  | QOS1 =>
    simp only [serializeAck_eq]
    split
    · exact .inl (by simp)
    · exact .inr ⟨_, rfl, by simp [ackPacket_length], .puback hq, .noPuback hq⟩
  | QOS2 =>
    simp only [serializeAck_eq]
    split
    · exact .inl (by simp)
    · exact .inr ⟨_, rfl, by simp [ackPacket_length], .pubrec hq, .noPubrec hq⟩

theorem cyclePublish_spec (cfg : Config) {header : UInt8} {body tail : Bytes} {c : Client τ}
    (w : World σ τ κ) (timer : τ) (hbuf : c.readbuf = framed header body ++ tail)
    (hb : body.length < 268435456) (ht : headerType header = PUBLISH) :
    ∃ ev, SwitchSpec cfg header body c w (cyclePublish cfg c w timer) ev := by
  have hexp : expected cfg (headerType header) = true := by simp [expected, ht]
  unfold cyclePublish
  cases hf : deserializePublish c.readbuf with
  | none =>
    have hunread : Unread header body := fun _ => ⟨hb, tail, hbuf ▸ hf⟩
    exact ⟨[], .of_quiet rfl rfl hunread (.inl ⟨hexp, .inr ⟨rfl, rfl⟩⟩)⟩
  | some fields =>
    rw [hbuf] at hf
    obtain ⟨dev, hd, hlog⟩ := cycleDeliver_delivers cfg c w.pop fields.topicName
      (fields.message w.uninitialised)
    obtain ⟨table, hclient⟩ := cycleDeliver_client cfg c w.pop fields.topicName
      (fields.message w.uninitialised)
    have hread := congrArg Client.readbuf hclient
    have hact (reply : List Event) (hr : Replies (fields.message w.uninitialised) reply) :=
      CycleAct.publish hb hf hd hr
    have hsilent := hact [] .silent
    rw [List.append_nil] at hsilent
    simp only
    split
    · split
      · rcases publishReply_cases cfg (fields.message w.uninitialised) with
          hle | ⟨packet, hp, hpos, hr, hfailed⟩
        · rw [if_pos hle]
          exact ⟨dev, hlog, hsilent, hd.heard_eq, hd.session_eq, hread,
            .inl ⟨hexp, .inr ⟨rfl, rfl⟩⟩⟩
        · rw [hp, if_neg (by omega)]
          simp only [Int.toNat_natCast]
          obtain ⟨t, hcl, ⟨hrc, hsent⟩ | ⟨hrc, hsent⟩⟩ := sendPacket_fill
            (cycleDeliver cfg c w.pop fields.topicName (fields.message w.uninitialised)).client
            (cycleDeliver cfg c w.pop fields.topicName (fields.message w.uninitialised)).world
            packet timer
          · refine ⟨dev ++ [.sent packet], ?_, ?_, ?_, ?_, ?_, ?_⟩
            · simp [hsent, hlog]
            · simpa [hcl] using hact _ hr
            · simp [hd.heard_eq]
            · simpa [hcl] using hd.session_eq
            · simpa [hcl] using hread
            · exact .inl ⟨hexp, .inl hrc⟩
          · refine ⟨dev ++ [.unsent packet], ?_, ?_, ?_, ?_, ?_, ?_⟩
            · simp [hsent, hlog]
            · simpa [hcl] using hact _ hfailed
            · simp [hd.heard_eq]
            · simpa [hcl] using hd.session_eq
            · simpa [hcl] using hread
            · exact .inl ⟨hexp, .inr ⟨hrc, by simp [hrc]⟩⟩
      · exact ⟨dev, hlog, hsilent, hd.heard_eq, hd.session_eq, hread, .inl ⟨hexp, .inl rfl⟩⟩
    · exact ⟨dev, hlog, hsilent, hd.heard_eq, hd.session_eq, hread, .inl ⟨hexp, .inl rfl⟩⟩

theorem cycleAck_spec (cfg : Config) {header : UInt8} {body tail : Bytes} {c : Client τ}
    (w : World σ τ κ) (timer : τ) (hbuf : c.readbuf = framed header body ++ tail)
    (hb : body.length < 268435456) (hq : cfg.qos2 = true)
    (ht : headerType header = PUBREC ∨ headerType header = PUBREL) :
    ∃ ev, SwitchSpec cfg header body c w (cycleAck cfg (headerType header) c w timer) ev := by
  have hexp : expected cfg (headerType header) = true := by
    rcases ht with ht | ht <;> simp [expected, ht, hq]
  have hack := deserializeAck_framed w.uninitialised header body tail hb
  rw [← hbuf] at hack
  obtain ⟨id, hid, hack⟩ : ∃ id, (2 ≤ body.length → id = readInt body 0) ∧
      deserializeAck w.uninitialised c.readbuf = (1, ⟨headerType header, headerDup header, id⟩) :=
    ⟨_, fun h => if_pos h, hack⟩
  unfold cycleAck
  simp only [hack, ne_eq, not_true_eq_false, if_false, serializeAck_eq]
  by_cases hsize : cfg.maxPacketSize < 4
  · simp only [hsize, if_true]
    rw [if_pos (by decide)]
    have hunread : Unread header body := fun hpub => by
      rcases ht with ht | ht <;> simp [ht] at hpub
    exact ⟨[], by simp, .heard _ hunread, rfl, ⟨_, rfl⟩, rfl, .inl ⟨hexp, .inr ⟨rfl, rfl⟩⟩⟩
  · simp only [hsize, if_false]
    rw [if_neg (by decide)]
    have hfill (packettype : Nat) := sendPacket_fill c w.pop (ackPacket packettype id) timer
    simp only [ackPacket_length] at hfill
    have hfail {r : Outcome σ τ κ} {packettype : Nat} {t : τ}
        (htype : packettype = PUBREL ∨ packettype = PUBCOMP)
        (hcl : r.client = { c.fillSendbuf (ackPacket packettype id) with lastSent := t })
        (hlog : r.world.log = w.pop.log ++ [.unsent (ackPacket packettype id)]) :
        SwitchSpec cfg header body c w ⟨⟨FAILURE, r.client, r.world⟩, true⟩
          [.unsent (ackPacket packettype id)] :=
      ⟨hlog, by rw [hcl]; exact .unanswered id ht htype, rfl, by rw [hcl]; exact ⟨_, rfl⟩,
        by rw [hcl]; rfl, .inl ⟨hexp, .inr ⟨rfl, rfl⟩⟩⟩
    rcases ht with ht | ht
    · obtain ⟨t, hcl, ⟨hrc, hlog⟩ | ⟨hrc, hlog⟩⟩ := hfill PUBREL
      · simp only [ht, if_true, Int.reduceToNat]
        rw [if_neg (not_not_intro hrc), if_neg (by decide)]
        exact ⟨_, hlog, by rw [hcl]; exact .pubrec id ht, rfl, by rw [hcl]; exact ⟨_, rfl⟩,
          by rw [hcl]; rfl, .inl ⟨hexp, .inl rfl⟩⟩
      · simp only [ht, if_true, Int.reduceToNat]
        rw [if_pos (by rw [hrc]; decide)]
        exact ⟨_, hfail (.inl rfl) hcl hlog⟩
    · have hne : ¬((PUBREL : Nat) : Int) = (PUBREC : Nat) := by decide
      obtain ⟨t, hcl, ⟨hrc, hlog⟩ | ⟨hrc, hlog⟩⟩ := hfill PUBCOMP
      · simp only [ht, hne, if_true, if_false, Int.reduceToNat]
        rw [if_neg (not_not_intro hrc)]
        exact ⟨_, hlog, by rw [hcl]; exact .release hq ht hid, rfl, by rw [hcl]; exact ⟨_, rfl⟩,
          by rw [hcl]; rfl, .inl ⟨hexp, .inl rfl⟩⟩
      · simp only [ht, hne, if_true, if_false, Int.reduceToNat]
        rw [if_pos (by rw [hrc]; decide)]
        exact ⟨_, hfail (.inr rfl) hcl hlog⟩

theorem cycleSwitch_spec (cfg : Config) {header : UInt8} {body tail : Bytes} {c : Client τ}
    (w : World σ τ κ) (timer : τ) (hbuf : c.readbuf = framed header body ++ tail)
    (hb : body.length < 268435456) :
    ∃ ev, SwitchSpec cfg header body c w (cycleSwitch cfg (headerType header) c w timer) ev := by
  unfold cycleSwitch
  simp only [Nat.cast_inj, Nat.cast_eq_zero]
  split
  · rename_i h
    have hexp : expected cfg (headerType header) = true := by
      rcases h with h | h | h | h | h <;> simp [expected, h]
    have hunread : Unread header body := fun hpub => by
      rcases h with h | h | h | h | h <;> simp [h] at hpub
    exact ⟨[], .of_quiet rfl rfl hunread (.inl ⟨hexp, .inl rfl⟩)⟩
  rename_i hquiet
  split
  · rename_i h
    exact cyclePublish_spec cfg w timer hbuf hb h
  rename_i hpub
  have hunread : Unread header body := fun h => absurd h hpub
  split
  · rename_i h
    exact cycleAck_spec cfg w timer hbuf hb h.1 h.2
  rename_i hack
  split
  · rename_i h
    exact ⟨[], .of_quiet rfl rfl hunread (.inl ⟨by simp [expected, h], .inl rfl⟩)⟩
  rename_i hcomp
  split
  · rename_i h
    exact ⟨[], .of_quiet rfl rfl hunread (.inl ⟨by simp [expected, h], .inl rfl⟩)⟩
  rename_i hping
  have hexp : expected cfg (headerType header) = false := by
    simp only [not_or] at hquiet
    cases hq : cfg.qos2 <;> simp_all [expected]
  exact ⟨[], .of_quiet rfl rfl hunread (.inr ⟨hexp, rfl, rfl⟩)⟩

structure PingSpec (cfg : Config) (c : Client τ) (w : World σ τ κ) (r : Outcome σ τ κ)
    (ev : List Event) : Prop where
  log : r.world.log = w.log ++ ev
  chain : Chain (CycleAct cfg) c.toSession ev r.client.toSession
  quiet : heard ev = []
  session : r.client.toSession = c.toSession
  readbuf : r.client.readbuf = c.readbuf
  result : r.rc = SUCCESS ∨ r.rc = FAILURE

abbrev pingreqPacket : Bytes := headerByte PINGREQ 0 0 0 :: packetEncode 0

theorem serializePingreq_eq (buflen : Nat) :
    serializePingreq buflen =
      if buflen < 2 then (MQTTPACKET_BUFFER_TOO_SHORT, []) else (2, pingreqPacket) := by
  simp only [serializePingreq, serializeZero]
  split <;> rfl

theorem sendPing_cases (cfg : Config) (c : Client τ) (w : World σ τ κ) :
    cfg.maxPacketSize < 2 ∧ sendPing cfg c w = ⟨SUCCESS, c.fillSendbuf [], w.tick⟩ ∨
      2 ≤ cfg.maxPacketSize ∧ ∃ t,
        ((sendPing cfg c w).rc = SUCCESS ∧
            (sendPing cfg c w).client =
              { c.fillSendbuf pingreqPacket with lastSent := t, pingOutstanding := true } ∧
            (sendPing cfg c w).world.log = w.log ++ [.sent pingreqPacket] ∨
          (sendPing cfg c w).rc = FAILURE ∧
            (sendPing cfg c w).client = { c.fillSendbuf pingreqPacket with lastSent := t } ∧
            (sendPing cfg c w).world.log = w.log ++ [.unsent pingreqPacket]) := by
  simp only [sendPing, serializePingreq_eq]
  by_cases hsize : cfg.maxPacketSize < 2
  · simp [hsize]
  · refine .inr ⟨by omega, ?_⟩
    obtain ⟨t, hcl, hres⟩ := sendPacket_fill c w.tick pingreqPacket (w.countdownMs 1000)
    have hlen : pingreqPacket.length = Int.toNat 2 := by decide
    rw [hlen] at hcl hres
    simp only [hsize, if_false]
    rw [if_pos (by decide)]
    refine ⟨t, ?_⟩
    rcases hres with ⟨hrc, hlog⟩ | ⟨hrc, hlog⟩
    · rw [if_pos hrc]
      exact .inl ⟨rfl, by simp only [hcl], hlog⟩
    · rw [if_neg (by rw [hrc]; decide)]
      exact .inr ⟨hrc, hcl, hlog⟩

theorem sendPing_spec (cfg : Config) (c : Client τ) (w : World σ τ κ) :
    ∃ ev, PingSpec cfg c w (sendPing cfg c w) ev := by
  rcases sendPing_cases cfg c w with
    ⟨-, h⟩ | ⟨-, t, ⟨hrc, hcl, hlog⟩ | ⟨hrc, hcl, hlog⟩⟩
  · rw [h]
    exact ⟨[], by simp, .nil _, rfl, rfl, rfl, .inl rfl⟩
  · exact ⟨_, hlog, by rw [hcl]; exact .single (.ping _), rfl, by rw [hcl]; rfl,
      by rw [hcl]; rfl, .inl hrc⟩
  · exact ⟨_, hlog, by rw [hcl]; exact .single (.noPing _), rfl, by rw [hcl]; rfl,
      by rw [hcl]; rfl, .inr hrc⟩

theorem keepalive_spec (cfg : Config) (c : Client τ) (w : World σ τ κ) :
    ∃ ev, PingSpec cfg c w (keepalive cfg c w) ev := by
  unfold keepalive
  split
  · exact ⟨[], by simp, .nil _, rfl, rfl, rfl, .inl rfl⟩
  · split
    · refine ⟨[], by simp, .nil _, rfl, rfl, rfl, ?_⟩
      dsimp only
      split
      · exact .inr rfl
      · exact .inl rfl
    · split
      · obtain ⟨ev, h⟩ := sendPing_spec cfg c w.tick
        exact ⟨ev, h.log, h.chain, h.quiet, h.session, h.readbuf, h.result⟩
      · split
        · obtain ⟨ev, h⟩ := sendPing_spec cfg c w.tick.tick
          exact ⟨ev, h.log, h.chain, h.quiet, h.session, h.readbuf, h.result⟩
        · exact ⟨[], by simp, .nil _, rfl, rfl, rfl, .inl rfl⟩

inductive TurnAct (cfg : Config) (s : Session) : List Event → Session → Prop
  | idle {ev : List Event} {t : Session} (hq : heard ev = [])
      (hchain : Chain (CycleAct cfg) s ev s) (ht : t = s ∨ t = s.close cfg) : TurnAct cfg s ev t
  | read {header : UInt8} {body : Bytes} {ev₁ ev₂ : List Event} {u t : Session}
      (h₁ : heard ev₁ = []) (h₂ : heard ev₂ = [])
      (hact : CycleAct cfg s (.received header body :: ev₁) u)
      (hu : u.isconnected = s.isconnected) (hchain : Chain (CycleAct cfg) u ev₂ u)
      (ht : t = u ∨ t = u.close cfg) : TurnAct cfg s (.received header body :: ev₁ ++ ev₂) t

theorem chain_exit {cfg : Config} {s t u : Session} {ev : List Event}
    (h : Chain (CycleAct cfg) s ev u) (ht : t = u ∨ t = u.close cfg) :
    Chain (CycleAct cfg) s ev t := by
  rcases ht with rfl | rfl
  · exact h
  · simpa using h.snoc (.close u)

theorem TurnAct.chain {cfg : Config} {s t : Session} {ev : List Event} (h : TurnAct cfg s ev t) :
    Chain (CycleAct cfg) s ev t := by
  cases h with
  | idle _ hchain ht => exact chain_exit hchain ht
  | read _ _ hact _ hchain ht => exact chain_exit ((Chain.single hact).trans hchain) ht

structure Turn (cfg : Config) (c : Client τ) (w : World σ τ κ) (r : Outcome σ τ κ)
    (ev : List Event) : Prop where
  log : r.world.log = w.log ++ ev
  act : TurnAct cfg c.toSession ev r.client.toSession
  result : heard ev = [] ∧ r.rc ≤ 0 ∨
    ∃ header body tail, heard ev = [(header, body)] ∧ body.length < 268435456 ∧
      r.client.readbuf = framed header body ++ tail ∧ (r.rc = headerType header ∨ r.rc < 0)
  alive : 0 ≤ r.rc → r.client.isconnected = (c.isconnected && allExpected cfg (heard ev))

theorem cycleKeepalive_spec (cfg : Config) (b : Branch σ τ κ) :
    ∃ ev, (cycleKeepalive cfg b).world.log = b.world.log ++ ev ∧
      Chain (CycleAct cfg) b.client.toSession ev (cycleKeepalive cfg b).client.toSession ∧
      heard ev = [] ∧ (cycleKeepalive cfg b).client.toSession = b.client.toSession ∧
      (cycleKeepalive cfg b).client.readbuf = b.client.readbuf ∧
      ((cycleKeepalive cfg b).rc = b.rc ∨
        b.leave = false ∧ (cycleKeepalive cfg b).rc = FAILURE) := by
  unfold cycleKeepalive
  split
  · exact ⟨[], by simp, .nil _, rfl, rfl, rfl, .inl rfl⟩
  · rename_i hleave
    obtain ⟨ev, h⟩ := keepalive_spec cfg b.client b.world
    simp only
    split
    · exact ⟨ev, h.log, h.chain, h.quiet, h.session, h.readbuf, .inr ⟨by simpa using hleave, rfl⟩⟩
    · exact ⟨ev, h.log, h.chain, h.quiet, h.session, h.readbuf, .inl rfl⟩

omit [Network σ] [Timer τ κ] in
theorem close_isconnected (cfg : Config) (c : Client τ) :
    (c.closeSession cfg).isconnected = false := by
  simp only [Client.closeSession, Session.close]
  split <;> rfl

omit [Network σ] [Timer τ κ] in
theorem cycleExit_failed (cfg : Config) (packetType : Int) {r : Outcome σ τ κ}
    (h : r.rc ≠ SUCCESS) :
    (cycleExit cfg packetType r).rc = r.rc ∧ (cycleExit cfg packetType r).world = r.world ∧
      (cycleExit cfg packetType r).client.readbuf = r.client.readbuf ∧
      (cycleExit cfg packetType r).client.isconnected = false ∧
      ((cycleExit cfg packetType r).client.toSession = r.client.toSession ∨
        (cycleExit cfg packetType r).client.toSession = r.client.toSession.close cfg) := by
  unfold cycleExit
  rw [if_neg h]
  split
  · exact ⟨rfl, rfl, rfl, close_isconnected cfg r.client, .inr rfl⟩
  · rename_i hc
    exact ⟨rfl, rfl, rfl, by simpa using hc, .inl rfl⟩

theorem cycleSwitch_idle (cfg : Config) {packetType : Int} (h : packetType ≤ 0) (c : Client τ)
    (w : World σ τ κ) (timer : τ) :
    cycleSwitch cfg packetType c w timer = ⟨⟨packetType, c, w⟩, packetType ≠ 0⟩ := by
  rcases h.eq_or_lt with rfl | hneg
  · simp [cycleSwitch]
  · have hne (n : Nat) : packetType ≠ n := by omega
    have hzero : packetType ≠ 0 := by omega
    simp only [cycleSwitch, hzero, hne, or_self, and_false, if_false, ne_eq, not_false_eq_true,
      decide_true]

theorem cycle_turn_idle {cfg : Config} {c : Client τ} {w : World σ τ κ} (timer : τ)
    (hrc : (readPacket cfg c w).rc ≤ 0) (hlog : (readPacket cfg c w).world.log = w.log) :
    ∃ ev, Turn cfg c w (cycle cfg c w timer) ev := by
  obtain ⟨buf, t, hframe⟩ := readPacket_frame cfg c w
  have hsession : (readPacket cfg c w).client.toSession = c.toSession := by rw [hframe]
  unfold cycle
  by_cases hzero : (readPacket cfg c w).rc = 0
  · have hswitch : cycleSwitch cfg (readPacket cfg c w).rc (readPacket cfg c w).client
        (readPacket cfg c w).world timer =
        ⟨⟨SUCCESS, (readPacket cfg c w).client, (readPacket cfg c w).world⟩, false⟩ := by
      rw [cycleSwitch_idle cfg hrc, hzero]
      rfl
    obtain ⟨ev, hl, hch, hq, hs, hr, hres⟩ := cycleKeepalive_spec cfg
      ⟨⟨SUCCESS, (readPacket cfg c w).client, (readPacket cfg c w).world⟩, false⟩
    simp only [hswitch]
    generalize cycleKeepalive cfg
      ⟨⟨SUCCESS, (readPacket cfg c w).client, (readPacket cfg c w).world⟩, false⟩ = k at *
    simp only [hlog, hsession] at hl hch hs
    rw [hs] at hch
    rcases hres with hres | ⟨-, hres⟩
    · have hexit : cycleExit cfg (readPacket cfg c w).rc k =
          { k with rc := (readPacket cfg c w).rc } := by simp [cycleExit, hres]
      rw [hexit]
      refine ⟨ev, hl, .idle hq hch (.inl hs), .inl ⟨hq, hrc⟩, fun _ => ?_⟩
      simp only [hq, hs]
      simp [allExpected]
    · obtain ⟨h1, h2, h3, h4, h5⟩ := cycleExit_failed cfg (readPacket cfg c w).rc
        (by rw [hres]; decide : k.rc ≠ SUCCESS)
      rw [hs] at h5
      refine ⟨ev, by rw [h2, hl], .idle hq hch h5, .inl ⟨hq, ?_⟩,
        fun h => ?_⟩
      · rw [h1, hres]; decide
      · rw [h1, hres] at h; simp at h
  · have hswitch : cycleSwitch cfg (readPacket cfg c w).rc (readPacket cfg c w).client
        (readPacket cfg c w).world timer =
        ⟨⟨(readPacket cfg c w).rc, (readPacket cfg c w).client, (readPacket cfg c w).world⟩, true⟩ := by
      simp [cycleSwitch_idle cfg hrc, hzero]
    have hkeep : cycleKeepalive cfg ⟨⟨(readPacket cfg c w).rc, (readPacket cfg c w).client,
        (readPacket cfg c w).world⟩, true⟩ = readPacket cfg c w := by
      simp [cycleKeepalive]
    obtain ⟨h1, h2, h3, h4, h5⟩ := cycleExit_failed cfg (readPacket cfg c w).rc hzero
    rw [hsession] at h5
    simp only [hswitch, hkeep]
    refine ⟨[], by simp [h2, hlog], .idle rfl (.nil _) h5, .inl ⟨rfl, by omega⟩, fun h => ?_⟩
    omega

omit [Network σ] in
theorem received_spec (c : Client τ) (w : World σ τ κ) (header : UInt8) (body : Bytes) :
    (received c w header body).rc = headerType header ∧
      (received c w header body).client.toSession = c.toSession ∧
      (received c w header body).client.readbuf =
        framed header body ++ c.readbuf.drop (framed header body).length ∧
      (received c w header body).world.log = w.log ++ [.received header body] := by
  unfold received
  simp only
  split <;> exact ⟨rfl, rfl, rfl, rfl⟩

theorem cycle_turn_received {cfg : Config} {c : Client τ} {w : World σ τ κ} (timer : τ)
    {header : UInt8} {body : Bytes} {net : σ} (hb : body.length < 268435456)
    (hread : readPacket cfg c w = received c { w with net := net } header body) :
    ∃ ev, Turn cfg c w (cycle cfg c w timer) ev := by
  obtain ⟨hrc, hsession, hbuf, hlog⟩ := received_spec c { w with net := net } header body
  unfold cycle
  simp only [hread]
  generalize received c { w with net := net } header body = p at *
  obtain ⟨ev₁, hsw⟩ := cycleSwitch_spec cfg p.world timer hbuf hb
  rw [← hrc] at hsw
  generalize cycleSwitch cfg p.rc p.client p.world timer = b at *
  obtain ⟨ev₂, hl, hch, hq, hs, hr, hres⟩ := cycleKeepalive_spec cfg b
  generalize cycleKeepalive cfg b = k at *
  have hact := hsw.act
  rw [hsession] at hact
  rw [hs] at hch
  have hlog' : k.world.log = w.log ++ (.received header body :: ev₁ ++ ev₂) := by
    rw [hl, hsw.log, hlog]
    simp
  have hheard : heard (.received header body :: ev₁ ++ ev₂) = [(header, body)] := by
    simp [hsw.quiet, hq]
  have hstill : b.client.isconnected = c.isconnected := by
    obtain ⟨table, htable⟩ := hsw.table
    rw [htable, hsession]
  have hconn : k.client.isconnected = c.isconnected := by rw [hs, hstill]
  have hread' : k.client.readbuf = framed header body ++ c.readbuf.drop (framed header body).length := by
    rw [hr, hsw.readbuf, hbuf]
  have hfailed (hne : k.rc ≠ SUCCESS) (hturn : k.rc = headerType header ∨ k.rc < 0)
      (hunexp : 0 ≤ k.rc → expected cfg (headerType header) = false) :
      ∃ ev, Turn cfg c w (cycleExit cfg p.rc k) ev := by
    obtain ⟨h1, h2, h3, h4, h5⟩ := cycleExit_failed cfg p.rc hne
    rw [hs] at h5
    refine ⟨_, by rw [h2, hlog'], .read hsw.quiet hq hact hstill hch h5,
      .inr ⟨header, body, _, hheard, hb, by rw [h3, hread'], by rwa [h1]⟩, fun hpos => ?_⟩
    rw [h1] at hpos
    rw [hheard, h4]
    simp [allExpected, hunexp hpos]
  rcases hsw.exit_rc hres with ⟨hok, hexp⟩ | hfail | ⟨htype, hunexp⟩
  · have hexit : cycleExit cfg p.rc k = { k with rc := p.rc } := by simp [cycleExit, hok]
    rw [hexit]
    exact ⟨_, hlog', .read hsw.quiet hq hact hstill hch (.inl hs),
      .inr ⟨header, body, _, hheard, hb, hread', .inl hrc⟩,
      fun _ => by rw [hheard, hconn]; simp [allExpected, hexp]⟩
  · refine hfailed (by rw [hfail]; decide) (.inr (by rw [hfail]; decide)) fun hpos => ?_
    rw [hfail] at hpos
    simp at hpos
  · refine hfailed (fun hzero => ?_) (.inl htype) fun _ => hunexp
    rw [htype] at hzero
    have htype0 : headerType header = 0 := by simpa using hzero
    simp [expected, htype0] at hunexp

theorem cycle_turn (cfg : Config) (c : Client τ) (w : World σ τ κ) (timer : τ) :
    ∃ ev, Turn cfg c w (cycle cfg c w timer) ev := by
  rcases readPacket_cases cfg c w with ⟨header, body, net, -, hb, h⟩ | ⟨hrc, hlog⟩
  · exact cycle_turn_received timer hb h
  · exact cycle_turn_idle timer hrc hlog

end MbedMqtt
