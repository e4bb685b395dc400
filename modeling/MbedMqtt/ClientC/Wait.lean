import MbedMqtt.ClientC.Turn

namespace MbedMqtt.MQTTClientC

variable {σ τ κ : Type}

section

variable [Network σ] [Timer τ κ]

theorem readPacket_clock (c : Client τ) (w : World σ τ κ) :
    (readPacket c w).world.clock.length ≤ w.clock.length := by
  simp only [readPacket]
  split
  · exact le_rfl
  · split
    · exact le_rfl
    · split
      · exact le_rfl
      · split
        · simp [World.tick, World.record]
        · exact le_rfl

theorem sendPing_clock (target : Target) (c : Client τ) (w : World σ τ κ) :
    (sendPing target c w).world.clock.length ≤ w.clock.length := by
  have htick : w.tick.clock.length ≤ w.clock.length := by simp [World.tick]
  simp only [sendPing]
  split
  · have hsend := send_clock target (c.fillBuf (serializePingreq c.bufSize).2) w.tick
      (serializePingreq c.bufSize).1.toNat (w.countdownMs 1000)
    split
    · exact hsend.trans htick
    · exact hsend.trans htick
  · exact htick

theorem keepalive_clock (target : Target) (c : Client τ) (w : World σ τ κ) :
    (keepalive target c w).world.clock.length ≤ w.clock.length := by
  have htick (w : World σ τ κ) : w.tick.clock.length ≤ w.clock.length := by simp [World.tick]
  have hdue (w : World σ τ κ) :
      (keepaliveDue target c w).world.clock.length ≤ w.clock.length := by
    unfold keepaliveDue
    split
    · exact le_rfl
    · exact sendPing_clock target c w
  unfold keepalive
  split
  · exact le_rfl
  · split
    · exact (hdue w.tick).trans (htick w)
    · split
      · exact (hdue w.tick.tick).trans ((htick w.tick).trans (htick w))
      · exact (htick w.tick).trans (htick w)

theorem cyclePublish_clock (target : Target) (c : Client τ) (w : World σ τ κ) (timer : τ) :
    (cyclePublish target c w timer).world.clock.length ≤ w.clock.length := by
  unfold cyclePublish
  cases deserializePublish c.readbuf with
  | none => exact le_rfl
  | some fields =>
    simp only
    split
    · split
      · exact le_rfl
      · exact send_clock target _ _ _ timer
    · exact le_rfl

theorem cycleAck_clock (target : Target) (packetType : Int) (c : Client τ) (w : World σ τ κ)
    (timer : τ) : (cycleAck target packetType c w timer).world.clock.length ≤ w.clock.length := by
  have hsend (c : Client τ) (len : Nat) :
      (send target c w.pop len timer).world.clock.length ≤ w.clock.length :=
    send_clock target c w.pop len timer
  unfold cycleAck
  simp only
  split
  · exact le_rfl
  · generalize serializeAck c.bufSize _ 0 _ = reply
    split
    · exact le_rfl
    · split
      · exact hsend _ _
      · exact hsend _ _

theorem cycle_clock (target : Target) (c : Client τ) (w : World σ τ κ) (timer : τ) :
    (cycle target c w timer).world.clock.length ≤ w.clock.length := by
  have hswitch : (cycleSwitch target (readPacket c w).rc (readPacket c w).client
      (readPacket c w).world timer).world.clock.length ≤ w.clock.length := by
    refine le_trans ?_ (readPacket_clock c w)
    unfold cycleSwitch
    split
    · exact le_rfl
    · split
      · exact cyclePublish_clock target _ _ timer
      · split
        · exact cycleAck_clock target _ _ _ timer
        · split
          · exact le_rfl
          · split <;> exact le_rfl
  have hkeep (b : Branch σ τ κ) :
      (cycleKeepalive target b).world.clock.length ≤ b.world.clock.length := by
    unfold cycleKeepalive
    simp only
    split
    · exact le_rfl
    · split <;> exact keepalive_clock target b.client b.world
  have hexit (packetType : Int) (r : Result σ τ κ) :
      (cycleExit packetType r).world = r.world := by
    unfold cycleExit
    split
    · rfl
    · split <;> rfl
  unfold cycle
  simp only [hexit]
  exact (hkeep _).trans hswitch

theorem waitforLoop_fuel (target : Target) (packetType : Int) (timer : τ) {fuel fuel' : Nat}
    (rc : Int) (c : Client τ) (w : World σ τ κ) (h : w.clock.length < fuel)
    (h' : w.clock.length < fuel') :
    waitforLoop target packetType timer fuel rc c w =
      waitforLoop target packetType timer fuel' rc c w := by
  induction fuel generalizing fuel' rc c w with
  | zero => omega
  | succ fuel ih =>
    obtain ⟨fuel', rfl⟩ : ∃ k, fuel' = k + 1 := ⟨fuel' - 1, by omega⟩
    simp only [waitforLoop]
    split
    · rfl
    · rename_i hexp
      have hless := (cycle_clock target c w.tick timer).trans_lt (clock_pos hexp)
      split
      · exact ih _ _ _ (by omega) (by omega)
      · rfl

theorem yieldLoop_fuel (target : Target) (timer : τ) {fuel fuel' : Nat} (c : Client τ)
    (w : World σ τ κ) (h : w.clock.length < fuel) (h' : w.clock.length < fuel') :
    yieldLoop target timer fuel c w = yieldLoop target timer fuel' c w := by
  induction fuel generalizing fuel' c w with
  | zero => omega
  | succ fuel ih =>
    obtain ⟨fuel', rfl⟩ : ∃ k, fuel' = k + 1 := ⟨fuel' - 1, by omega⟩
    have hclock := cycle_clock target c w timer
    simp only [yieldLoop]
    split
    · rfl
    · split
      · rfl
      · rename_i hexp
        have hless := clock_pos hexp
        exact ih _ _ (by omega) (by omega)

end

variable [Ipstack σ] [Timer τ κ]

structure Wait (packetType : Nat) (c : Client τ) (w : World σ τ κ) (r : Result σ τ κ)
    (ev : List Event) : Prop where
  log : r.world.log = w.log ++ ev
  turns : Chain (TurnAct c.bufSize) c.toSession ev r.client.toSession
  bufSize : r.client.bufSize = c.bufSize
  alive : 0 ≤ r.rc → r.client.isconnected = (c.isconnected && allHandled (heard ev))
  found : r.rc = packetType → ∃ header body tail, Awaited packetType (heard ev) header body ∧
    r.client.readbuf = framed header body ++ tail

theorem waitforLoop_wait (target : Target) {packetType : Nat} (hpos : 0 < packetType) (timer : τ)
    (fuel : Nat) {rc : Int} (hrc : rc ≠ packetType) (c : Client τ) (w : World σ τ κ) :
    ∃ ev, Wait packetType c w (waitforLoop target packetType timer fuel rc c w) ev := by
  induction fuel generalizing rc c w with
  | zero =>
    exact ⟨[], by simp [waitforLoop], .nil _, rfl, by simp [waitforLoop], fun h => absurd h hrc⟩
  | succ fuel ih =>
    simp only [waitforLoop]
    split
    · exact ⟨[], by simp, .nil _, rfl, by simp, fun h => absurd h hrc⟩
    · obtain ⟨ev, hturn⟩ := cycle_turn target c w.tick timer
      generalize cycle target c w.tick timer = r at *
      split
      · rename_i hmore
        obtain ⟨ev', hwait⟩ := ih hmore.1 r.client r.world
        have hskip : ∀ p ∈ heard ev, headerType p.1 ≠ packetType := by
          rcases hturn.result with ⟨hq, -⟩ | ⟨header, body, tail, hq, -, -, hres⟩
          · simp [hq]
          · rw [hq]
            intro p hp
            obtain rfl : p = (header, body) := by simpa using hp
            rcases hres with hres | hres
            · rintro rfl
              exact hmore.1 hres
            · omega
        have hturns := hwait.turns
        rw [hturn.bufSize] at hturns
        refine ⟨ev ++ ev', ?_, (Chain.single hturn.act).trans hturns, ?_, fun h => ?_, fun h => ?_⟩
        · rw [hwait.log, hturn.log, World.tick_log, List.append_assoc]
        · rw [hwait.bufSize, hturn.bufSize]
        · rw [hwait.alive h, hturn.alive hmore.2, heard_append, allHandled_append, Bool.and_assoc]
        · obtain ⟨header, body, tail, ha, hb⟩ := hwait.found h
          exact ⟨header, body, tail, by rw [heard_append]; exact ha.skip hskip, hb⟩
      · refine ⟨ev, hturn.log, .single hturn.act, hturn.bufSize, hturn.alive, fun h => ?_⟩
        rcases hturn.result with ⟨-, hle⟩ | ⟨header, body, tail, hq, hb, hbuf, hres⟩
        · omega
        · have htype : headerType header = packetType := by
            rcases hres with hres | hres <;> omega
          exact ⟨header, body, tail, ⟨htype, hb, [], hq, by simp⟩, hbuf⟩

theorem waitfor_wait (target : Target) (c : Client τ) (w : World σ τ κ) {packetType : Nat}
    (hpos : 0 < packetType) (timer : τ) :
    ∃ ev, Wait packetType c w (waitfor target c w packetType timer) ev := by
  apply waitforLoop_wait target hpos
  intro h
  simp only [FAILURE] at h
  omega

structure Yield (c : Client τ) (w : World σ τ κ) (r : Result σ τ κ) (ev : List Event) :
    Prop where
  log : r.world.log = w.log ++ ev
  turns : Chain (TurnAct c.bufSize) c.toSession ev r.client.toSession
  bufSize : r.client.bufSize = c.bufSize
  alive : r.rc = SUCCESS → r.client.isconnected = (c.isconnected && allHandled (heard ev))
  dead : r.rc ≠ SUCCESS → r.client.isconnected = false

theorem yieldLoop_yield (target : Target) (timer : τ) (fuel : Nat) (c : Client τ)
    (w : World σ τ κ) : ∃ ev, Yield c w (yieldLoop target timer fuel c w) ev := by
  induction fuel generalizing c w with
  | zero => exact ⟨[], by simp [yieldLoop], .nil _, rfl, by simp [yieldLoop], by simp [yieldLoop]⟩
  | succ fuel ih =>
    simp only [yieldLoop]
    obtain ⟨ev, hturn⟩ := cycle_turn target c w timer
    generalize cycle target c w timer = r at *
    split
    · rename_i hneg
      exact ⟨ev, hturn.log, .single hturn.act, hturn.bufSize, fun h => by simp at h,
        fun _ => hturn.dead hneg⟩
    · rename_i hmore
      have hge : 0 ≤ r.rc := Int.not_lt.mp hmore
      split
      · exact ⟨ev, hturn.log, .single hturn.act, hturn.bufSize, fun _ => hturn.alive hge,
          fun h => absurd rfl h⟩
      · obtain ⟨ev', hy⟩ := ih r.client r.world.tick
        have hturns := hy.turns
        rw [hturn.bufSize] at hturns
        refine ⟨ev ++ ev', ?_, (Chain.single hturn.act).trans hturns, ?_, fun h => ?_, hy.dead⟩
        · rw [hy.log, World.tick_log, hturn.log, List.append_assoc]
        · rw [hy.bufSize, hturn.bufSize]
        · rw [hy.alive h, hturn.alive hge, heard_append, allHandled_append, Bool.and_assoc]

theorem yield_yield (target : Target) (c : Client τ) (w : World σ τ κ) (timeoutMs : Nat) :
    ∃ ev, Yield c w (MQTTYield target c w timeoutMs) ev := by
  obtain ⟨ev, h⟩ := yieldLoop_yield target (w.countdownMs timeoutMs) (w.clock.length + 1) c w.tick
  exact ⟨ev, h.log, h.turns, h.bufSize, h.alive, h.dead⟩

end MbedMqtt.MQTTClientC
