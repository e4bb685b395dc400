import MbedMqtt.SNClient.Cycle

namespace MbedMqtt.MQTTSN

open MQTTSNGW

variable {σ τ κ : Type} [DatagramNetwork σ] [Timer τ κ]

-- the type byte of a packet that has one inside its length
def TypedBy (type : UInt8) (packet : Bytes) : Prop :=
  lengthFieldSize (memoryOf 0 packet) < packet.length →
    memoryOf 0 packet (lengthFieldSize (memoryOf 0 packet)) = type

theorem laidOut_agree {mem : Int → UInt8} {packet : Bytes} (h : LaidOut mem 0 packet) {i : Int}
    (h0 : 0 ≤ i) (hi : i < packet.length) : mem i = memoryOf 0 packet i := by
  have hmem := h i.toNat (by omega)
  have hmemory := laidOut_memoryOf 0 packet i.toNat (by omega)
  rw [show (0 : Int) + i.toNat = i by omega] at hmem hmemory
  rw [hmem, hmemory]

theorem lengthFieldSize_agree {mem : Int → UInt8} {packet : Bytes} (h : LaidOut mem 0 packet)
    (hpos : 0 < packet.length) : lengthFieldSize mem = lengthFieldSize (memoryOf 0 packet) := by
  rw [lengthFieldSize, lengthFieldSize, laidOut_agree h le_rfl (by omega)]

namespace Arrived

variable {cfg : Config} {c : Client τ} {type : UInt8} {packet : Bytes}

omit [DatagramNetwork σ] [Timer τ κ]

theorem laidOut (h : Arrived cfg c type packet) : LaidOut (c.memory cfg) 0 packet := by
  obtain ⟨tail, htail⟩ := h.held
  exact Client.memory_laidOut cfg htail

theorem length_pos (h : Arrived cfg c type packet) : 0 < packet.length := by
  have hpos := lengthFieldSize_pos (c.memory cfg)
  have hle := h.lenlen
  omega

theorem lengthFieldSize_eq (h : Arrived cfg c type packet) :
    lengthFieldSize (c.memory cfg) = lengthFieldSize (memoryOf 0 packet) :=
  lengthFieldSize_agree h.laidOut h.length_pos

theorem typedBy (h : Arrived cfg c type packet) : TypedBy type packet := by
  intro hinside
  have hpos := lengthFieldSize_pos (memoryOf 0 packet)
  rw [← h.type, h.lengthFieldSize_eq, laidOut_agree h.laidOut hpos.le hinside]

theorem decodes (h : Arrived cfg c type packet) :
    (packetDecode cfg.maxPacketSize 0).value (c.memory cfg) =
      ⟨lengthFieldSize (c.memory cfg), packet.length⟩ := by
  have hle := h.lenlen
  have hsize := h.size
  rw [packetDecode_value (by omega), h.field]

end Arrived

section Switch

theorem cycleReply_rc (c : Client τ) (w : World σ κ) (reply : Serialized) (timer : τ) :
    (cycleReply c w reply timer).rc = SUCCESS ∨ (cycleReply c w reply timer).rc = 255 := by
  unfold cycleReply
  simp only
  split_ifs
  · exact .inr rfl
  · rcases (sendPacket_sends (c.fillSendbuf reply.written) w reply.rc.toNat timer).rc with h | h
    · exact .inl (congrArg toUnsignedChar h)
    · exact .inr (congrArg toUnsignedChar h)

theorem cycleRegister_rc (cfg : Config) (c : Client τ) (w : World σ κ) (timer : τ) :
    (cycleRegister cfg c w timer).rc = SUCCESS ∨ (cycleRegister cfg c w timer).rc = 255 := by
  unfold cycleRegister
  cases ((deserializeRegister cfg.maxPacketSize).value (c.memory cfg)).accepted with
  | none => exact .inl rfl
  | some fields => exact cycleReply_rc c w _ timer

theorem cyclePublish_rc (cfg : Config) (c : Client τ) (w : World σ κ) (timer : τ) :
    (cyclePublish cfg c w timer).rc = SUCCESS ∨ (cyclePublish cfg c w timer).rc = 255 := by
  simp only [cyclePublish]
  cases ((deserializePublish cfg.bitsSigned cfg.maxPacketSize).value (c.memory cfg)).accepted with
  | none => exact .inl rfl
  | some fields =>
    simp only
    split_ifs
    · exact cycleReply_rc _ _ _ timer
    · exact .inl rfl
    · exact .inl rfl

theorem cyclePubrec_rc (cfg : Config) (c : Client τ) (w : World σ κ) (timer : τ) :
    (cyclePubrec cfg c w timer).rc = SUCCESS ∨ (cyclePubrec cfg c w timer).rc = 255 := by
  unfold cyclePubrec
  simp only
  split_ifs
  · exact .inr rfl
  · exact cycleReply_rc c w.pop _ timer

theorem cycleSwitch_rc (cfg : Config) (packetType : Nat) (c : Client τ) (w : World σ κ)
    (timer : τ) :
    (cycleSwitch cfg packetType c w timer).rc = SUCCESS ∨
      ¬isAnswer packetType ∧ (cycleSwitch cfg packetType c w timer).rc = 255 := by
  unfold cycleSwitch
  split_ifs with hanswer
  · exact .inl rfl
  · exact (cycleRegister_rc cfg c w timer).imp_right (⟨hanswer, ·⟩)
  · exact (cyclePublish_rc cfg c w timer).imp_right (⟨hanswer, ·⟩)
  · exact (cyclePubrec_rc cfg c w timer).imp_right (⟨hanswer, ·⟩)
  · exact .inl rfl
  · exact .inl rfl

theorem cycleSwitch_failure (cfg : Config) (c : Client τ) (w : World σ κ) (timer : τ) :
    (cycleSwitch cfg (toUnsignedShort FAILURE) c w timer).rc = SUCCESS := by
  have hpubrec : ¬(cfg.qos2 = true ∧ toUnsignedShort FAILURE = MQTTSN_PUBREC.toNat) :=
    fun h => absurd h.2 (by decide)
  rw [cycleSwitch, if_neg (by decide), if_neg (by decide), if_neg (by decide), if_neg hpubrec,
    if_neg (by decide)]

theorem cycleKeepalive_rc (cfg : Config) (b : Branch σ τ κ) : (cycleKeepalive cfg b).rc = b.rc := by
  unfold cycleKeepalive
  split_ifs <;> rfl

omit [DatagramNetwork σ] [Timer τ κ] in
theorem cycleExit_rc (packetType : Nat) (r : Outcome σ τ κ) :
    (cycleExit packetType r).rc = if r.rc = SUCCESS then toUnsignedChar packetType else r.rc := by
  unfold cycleExit
  split_ifs <;> rfl

theorem toUnsignedShort_toNat (type : UInt8) : toUnsignedShort type.toNat = type.toNat := by
  have hlt := type.toNat_lt
  rw [toUnsignedShort]
  omega

theorem toUnsignedChar_toNat (type : UInt8) : toUnsignedChar type.toNat = type.toNat := by
  have hlt := type.toNat_lt
  rw [toUnsignedChar]
  omega

end Switch

structure Turn (cfg : Config) (c : Client τ) (w : World σ κ) (r : Outcome σ τ κ)
    (ev : List Event) : Prop where
  log : r.world.log = w.log ++ ev
  session : r.client.toSession = c.toSession
  clock : r.world.clock.length ≤ w.clock.length
  result : heard ev = [] ∧ r.rc = 255 ∨
    ∃ type packet, heard ev = [(type, packet)] ∧ Arrived cfg r.client type packet ∧
      (r.rc = type.toNat ∨ ¬isAnswer type.toNat ∧ r.rc = 255)

theorem cycle_turn (cfg : Config) (c : Client τ) (w : World σ κ) (timer : τ) :
    ∃ ev, Turn cfg c w (cycle cfg c w timer) ev := by
  have hsilent := cycle_silent cfg c w timer
  obtain ⟨ev, hlog, hquiet⟩ := hsilent.log
  have hsession := hsilent.session.trans (readPacket_session cfg c w)
  have hclock := hsilent.clock.trans (readPacket_clock cfg c w)
  have hrc : (cycle cfg c w timer).rc = _ := cycleExit_rc _ _
  rw [cycleKeepalive_rc] at hrc
  cases readPacket_reads cfg c w with
  | nothing hread hreadLog =>
    refine ⟨ev, by rw [hlog, hreadLog], hsession, hclock, .inl ⟨hquiet, ?_⟩⟩
    rw [hrc, hread, cycleSwitch_failure, if_pos rfl]
    rfl
  | @packet type packet hread hreadLog harrived =>
    refine ⟨.received type packet :: ev, ?_, hsession, hclock, .inr ⟨type, packet, ?_, ?_, ?_⟩⟩
    · rw [hlog, hreadLog, List.append_assoc]
      rfl
    · exact congrArg ((type, packet) :: ·) hquiet
    · exact harrived.congr hsilent.readbuf
    · rw [hread, toUnsignedShort_toNat] at hrc
      rcases cycleSwitch_rc cfg type.toNat (readPacket cfg c w).client (readPacket cfg c w).world
        timer with hswitch | ⟨hanswer, hswitch⟩
      · rw [hrc, hswitch, if_pos rfl, toUnsignedChar_toNat]
        exact .inl rfl
      · rw [hrc, hswitch]
        exact .inr ⟨hanswer, rfl⟩

theorem waitforLoop_fuel (cfg : Config) (packetType : Int) (timer : τ) {fuel fuel' : Nat} (rc : Int)
    (c : Client τ) (w : World σ κ) (h : w.clock.length < fuel) (h' : w.clock.length < fuel') :
    waitforLoop cfg packetType timer fuel rc c w =
      waitforLoop cfg packetType timer fuel' rc c w := by
  induction fuel generalizing fuel' rc c w with
  | zero => omega
  | succ fuel ih =>
    obtain ⟨fuel', rfl⟩ : ∃ k, fuel' = k + 1 := ⟨fuel' - 1, by omega⟩
    simp only [waitforLoop]
    split_ifs with hexpired hmore
    · rfl
    · obtain ⟨ev, hturn⟩ := cycle_turn cfg c w.tick timer
      have htick := tick_clock_lt hexpired
      have hclock := hturn.clock
      exact ih _ _ _ (by omega) (by omega)
    · rfl

structure Wait (cfg : Config) (packetType : UInt8) (c : Client τ) (w : World σ κ)
    (r : Outcome σ τ κ) (ev : List Event) : Prop where
  log : r.world.log = w.log ++ ev
  session : r.client.toSession = c.toSession
  typed : ∀ p ∈ heard ev, TypedBy p.1 p.2
  result : r.rc ≠ packetType.toNat ∧ (∀ p ∈ heard ev, p.1 ≠ packetType) ∨
    r.rc = packetType.toNat ∧ ∃ pre packet, heard ev = pre ++ [(packetType, packet)] ∧
      (∀ p ∈ pre, p.1 ≠ packetType) ∧ Arrived cfg r.client packetType packet

namespace Turn

variable {cfg : Config} {c : Client τ} {w : World σ κ} {r r' : Outcome σ τ κ}
variable {ev ev' : List Event} {packetType : UInt8}

omit [DatagramNetwork σ] [Timer τ κ]

theorem typed (h : Turn cfg c w r ev) : ∀ p ∈ heard ev, TypedBy p.1 p.2 := by
  rcases h.result with ⟨hnone, -⟩ | ⟨type, packet, hone, harrived, -⟩
  · simp [hnone]
  · rw [hone]
    rintro p (_ | ⟨_, ⟨⟩⟩)
    exact harrived.typedBy

theorem wait (h : Turn cfg c w r ev) (hanswer : isAnswer packetType.toNat)
    (hrc : r.rc = packetType.toNat) : Wait cfg packetType c w r ev := by
  refine ⟨h.log, h.session, h.typed, .inr ⟨hrc, ?_⟩⟩
  have hne : (packetType.toNat : Int) ≠ 255 := by
    rcases hanswer with hp | hp | hp | hp <;> rw [hp] <;> decide
  rcases h.result with ⟨-, hfailed⟩ | ⟨type, packet, hone, harrived, htype | ⟨-, hfailed⟩⟩
  · exact absurd (hrc.symm.trans hfailed) hne
  · obtain rfl : type = packetType := UInt8.toNat_inj.mp (Int.ofNat.inj (htype.symm.trans hrc))
    exact ⟨[], packet, hone, by simp, harrived⟩
  · exact absurd (hrc.symm.trans hfailed) hne

theorem skip (h : Turn cfg c w r ev) (hanswer : isAnswer packetType.toNat)
    (hrc : r.rc ≠ packetType.toNat) : ∀ p ∈ heard ev, p.1 ≠ packetType := by
  rcases h.result with ⟨hnone, -⟩ | ⟨type, packet, hone, -, hres⟩
  · simp [hnone]
  · rw [hone]
    rintro p (_ | ⟨_, ⟨⟩⟩) rfl
    rcases hres with htype | ⟨hnot, -⟩
    · exact hrc htype
    · exact hnot hanswer

theorem then_wait (h : Turn cfg c w r ev) (hskip : ∀ p ∈ heard ev, p.1 ≠ packetType)
    (hw : Wait cfg packetType r.client r.world r' ev') : Wait cfg packetType c w r' (ev ++ ev') := by
  refine ⟨?_, hw.session.trans h.session, ?_, ?_⟩
  · rw [hw.log, h.log, List.append_assoc]
  · rw [heard_append]
    exact List.forall_mem_append.mpr ⟨h.typed, hw.typed⟩
  · rw [heard_append]
    refine hw.result.imp (.imp_right fun hmissed => ?_) (.imp_right ?_)
    · exact List.forall_mem_append.mpr ⟨hskip, hmissed⟩
    · rintro ⟨pre, packet, hheard, hpre, harrived⟩
      refine ⟨heard ev ++ pre, packet, ?_, ?_, harrived⟩
      · rw [hheard, List.append_assoc]
      · exact List.forall_mem_append.mpr ⟨hskip, hpre⟩

end Turn

theorem waitforLoop_wait (cfg : Config) {packetType : UInt8} (hanswer : isAnswer packetType.toNat)
    (timer : τ) (fuel : Nat) {rc : Int} (hrc : rc ≠ packetType.toNat) (c : Client τ)
    (w : World σ κ) :
    ∃ ev, Wait cfg packetType c w (waitforLoop cfg packetType.toNat timer fuel rc c w) ev := by
  have hidle (w' : World σ κ) (hlog : w'.log = w.log) : Wait cfg packetType c w ⟨rc, c, w'⟩ [] :=
    ⟨by simp [hlog], rfl, by simp [heard], .inl ⟨hrc, by simp [heard]⟩⟩
  induction fuel generalizing rc c w with
  | zero => exact ⟨[], hidle w rfl⟩
  | succ fuel ih =>
    simp only [waitforLoop]
    split_ifs with hexpired hmore
    · exact ⟨[], hidle w.tick rfl⟩
    all_goals
      obtain ⟨ev, hturn⟩ := cycle_turn cfg c w.tick timer
      generalize cycle cfg c w.tick timer = r at *
    · have hskip := hturn.skip hanswer hmore
      obtain ⟨ev', hwait⟩ := ih hmore r.client r.world fun w' hlog =>
        ⟨by simp [hlog], rfl, by simp [heard], .inl ⟨hmore, by simp [heard]⟩⟩
      obtain ⟨hlog, hsession, htyped, hresult⟩ := hturn.then_wait hskip hwait
      exact ⟨ev ++ ev', hlog, hsession, htyped, hresult⟩
    · obtain ⟨hlog, hsession, htyped, hresult⟩ := hturn.wait hanswer (not_not.mp hmore)
      exact ⟨ev, hlog, hsession, htyped, hresult⟩

theorem waitfor_wait (cfg : Config) (c : Client τ) (w : World σ κ) {packetType : UInt8}
    (hanswer : isAnswer packetType.toNat) (timer : τ) :
    ∃ ev, Wait cfg packetType c w (waitfor cfg c w packetType.toNat timer) ev := by
  refine waitforLoop_wait cfg hanswer timer _ ?_ c w
  simp only [FAILURE]
  omega

end MbedMqtt.MQTTSN
