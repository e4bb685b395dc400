import MbedMqtt.Client.Turn

namespace MbedMqtt

structure LiveTurn (cfg : Config) (s : Session) (ev : List Event) (t : Session) : Prop where
  act : TurnAct cfg s ev t
  alive : t.isconnected = (s.isconnected && allExpected cfg (heard ev))

theorem live_isconnected {cfg : Config} {s t : Session} {ev : List Event}
    (h : Chain (LiveTurn cfg) s ev t) :
    t.isconnected = (s.isconnected && allExpected cfg (heard ev)) := by
  induction h with
  | nil => simp [allExpected]
  | snoc _ hr ih => rw [hr.alive, ih, heard_append, allExpected_append, Bool.and_assoc]

theorem live_chain {cfg : Config} {s t : Session} {ev : List Event}
    (h : Chain (LiveTurn cfg) s ev t) : Chain (CycleAct cfg) s ev t := by
  induction h with
  | nil => exact .nil _
  | snoc _ hr ih => exact ih.trans hr.act.chain

inductive Waits (cfg : Config) (s : Session) : List Event → Session → Prop
  | intro {ev₁ ev₂ : List Event} {u t : Session} (hlive : Chain (LiveTurn cfg) s ev₁ u)
      (hlast : TurnAct cfg u ev₂ t) : Waits cfg s (ev₁ ++ ev₂) t

namespace Waits

variable {cfg : Config} {s t u : Session} {ev ev₁ ev₂ : List Event}

theorem nil (cfg : Config) (s : Session) : Waits cfg s [] s :=
  .intro (.nil s) (.idle rfl (.nil s) (.inl rfl))

theorem last (h : TurnAct cfg s ev t) : Waits cfg s ev t :=
  .intro (.nil s) h

theorem cons (h : LiveTurn cfg s ev₁ u) (k : Waits cfg u ev₂ t) : Waits cfg s (ev₁ ++ ev₂) t := by
  obtain ⟨hlive, hlast⟩ := k
  rw [← List.append_assoc]
  exact .intro ((Chain.single h).trans hlive) hlast

theorem chain (h : Waits cfg s ev t) : Chain (CycleAct cfg) s ev t := by
  obtain ⟨hlive, hlast⟩ := h
  exact (live_chain hlive).trans hlast.chain

end Waits

def Awaited (packetType : Nat) (packets : List (UInt8 × Bytes)) (header : UInt8) (body : Bytes) :
    Prop :=
  headerType header = packetType ∧ body.length < 268435456 ∧
    ∃ pre, packets = pre ++ [(header, body)] ∧ ∀ p ∈ pre, headerType p.1 ≠ packetType

theorem Awaited.skip {packetType : Nat} {ps qs : List (UInt8 × Bytes)} {header : UInt8}
    {body : Bytes} (hps : ∀ p ∈ ps, headerType p.1 ≠ packetType)
    (h : Awaited packetType qs header body) : Awaited packetType (ps ++ qs) header body := by
  obtain ⟨htype, hb, pre, rfl, hpre⟩ := h
  refine ⟨htype, hb, ps ++ pre, by rw [List.append_assoc], fun p hp => ?_⟩
  rcases List.mem_append.mp hp with hp | hp
  · exact hps p hp
  · exact hpre p hp

theorem Awaited.mem {packetType : Nat} {packets : List (UInt8 × Bytes)} {header : UInt8}
    {body : Bytes} (h : Awaited packetType packets header body) : (header, body) ∈ packets := by
  obtain ⟨-, -, pre, rfl, -⟩ := h
  simp

theorem Awaited.unique {packetType : Nat} {packets : List (UInt8 × Bytes)} {header : UInt8}
    {body : Bytes} (h : Awaited packetType packets header body) {p : UInt8 × Bytes}
    (hp : p ∈ packets) (ht : headerType p.1 = packetType) : p = (header, body) := by
  obtain ⟨-, -, pre, rfl, hpre⟩ := h
  rcases List.mem_append.mp hp with hp | hp
  · exact absurd ht (hpre p hp)
  · simpa using hp

variable {σ τ κ : Type} [Network σ] [Timer τ κ]

structure Wait (cfg : Config) (packetType : Nat) (c : Client τ) (w : World σ τ κ)
    (r : Outcome σ τ κ) (ev : List Event) : Prop where
  log : r.world.log = w.log ++ ev
  waits : Waits cfg c.toSession ev r.client.toSession
  alive : 0 ≤ r.rc → r.client.isconnected = (c.isconnected && allExpected cfg (heard ev))
  found : r.rc = packetType → ∃ header body tail, Awaited packetType (heard ev) header body ∧
    r.client.readbuf = framed header body ++ tail

theorem sendPing_clock (cfg : Config) (c : Client τ) (w : World σ τ κ) :
    (sendPing cfg c w).world.clock.length ≤ w.clock.length := by
  have htick : w.tick.clock.length ≤ w.clock.length := by simp [World.tick]
  unfold sendPing
  simp only
  split
  · have hsend := sendPacket_clock (c.fillSendbuf (serializePingreq cfg.maxPacketSize).2) w.tick
      (serializePingreq cfg.maxPacketSize).1.toNat (w.countdownMs 1000)
    split
    · refine le_trans ?_ (hsend.trans htick)
      simp [World.tick]
    · exact hsend.trans htick
  · exact htick

theorem keepalive_clock (cfg : Config) (c : Client τ) (w : World σ τ κ) :
    (keepalive cfg c w).world.clock.length ≤ w.clock.length := by
  have htick (w : World σ τ κ) : w.tick.clock.length ≤ w.clock.length := by simp [World.tick]
  unfold keepalive
  split
  · exact le_rfl
  · split
    · exact htick w
    · split
      · exact (sendPing_clock cfg c w.tick).trans (htick w)
      · split
        · exact (sendPing_clock cfg c w.tick.tick).trans ((htick w.tick).trans (htick w))
        · exact (htick w.tick).trans (htick w)

omit [Network σ] [Timer τ κ] in
theorem cycleDeliver_clock (cfg : Config) (c : Client τ) (w : World σ τ κ)
    (topicName : MQTTString) (msg : Message) :
    (cycleDeliver cfg c w topicName msg).world.clock = w.clock := by
  unfold cycleDeliver
  split
  · split
    · simp only
      split <;> rfl
    · rfl
  · rfl

theorem cyclePublish_clock (cfg : Config) (c : Client τ) (w : World σ τ κ) (timer : τ) :
    (cyclePublish cfg c w timer).world.clock.length ≤ w.clock.length := by
  unfold cyclePublish
  cases deserializePublish c.readbuf with
  | none => exact le_rfl
  | some fields =>
    have hd : (cycleDeliver cfg c w.pop fields.topicName
        (fields.message w.uninitialised)).world.clock.length ≤ w.clock.length :=
      le_of_eq (congrArg List.length (cycleDeliver_clock cfg c w.pop _ _))
    simp only
    split
    · split
      · split
        · exact hd
        · exact (sendPacket_clock _ _ _ timer).trans hd
      · exact hd
    · exact hd

theorem cycleAck_clock (cfg : Config) (packetType : Int) (c : Client τ) (w : World σ τ κ)
    (timer : τ) : (cycleAck cfg packetType c w timer).world.clock.length ≤ w.clock.length := by
  have hsend (c : Client τ) (len : Nat) :
      (sendPacket c w.pop len timer).world.clock.length ≤ w.clock.length :=
    sendPacket_clock c w.pop len timer
  unfold cycleAck
  simp only
  split
  · exact le_rfl
  · generalize serializeAck cfg.maxPacketSize _ 0 _ = reply
    split
    · exact le_rfl
    · split
      · exact hsend _ _
      · split <;> exact hsend _ _

theorem cycle_clock (cfg : Config) (c : Client τ) (w : World σ τ κ) (timer : τ) :
    (cycle cfg c w timer).world.clock.length ≤ w.clock.length := by
  have hswitch : (cycleSwitch cfg (readPacket cfg c w).rc (readPacket cfg c w).client
      (readPacket cfg c w).world timer).world.clock.length ≤ w.clock.length := by
    refine le_trans ?_ (readPacket_clock cfg c w)
    unfold cycleSwitch
    split
    · exact le_rfl
    · split
      · exact cyclePublish_clock cfg _ _ timer
      · split
        · exact cycleAck_clock cfg _ _ _ timer
        · split
          · exact le_rfl
          · split <;> exact le_rfl
  have hkeep (b : Branch σ τ κ) :
      (cycleKeepalive cfg b).world.clock.length ≤ b.world.clock.length := by
    unfold cycleKeepalive
    simp only
    split
    · exact le_rfl
    · split <;> exact keepalive_clock cfg b.client b.world
  have hexit (packetType : Int) (r : Outcome σ τ κ) :
      (cycleExit cfg packetType r).world = r.world := by
    unfold cycleExit
    split
    · rfl
    · split <;> rfl
  unfold cycle
  simp only [hexit]
  exact (hkeep _).trans hswitch

omit [Network σ] in
theorem clock_pos {w : World σ τ κ} {timer : τ} (h : ¬w.expired timer = true) :
    w.tick.clock.length < w.clock.length := by
  cases hw : w.clock with
  | nil => simp [World.expired, hw] at h
  | cons now rest => simp [World.tick, hw]

theorem waitforLoop_fuel (cfg : Config) (packetType : Int) (timer : τ) {fuel fuel' : Nat} (rc : Int)
    (c : Client τ) (w : World σ τ κ) (h : w.clock.length < fuel) (h' : w.clock.length < fuel') :
    waitforLoop cfg packetType timer fuel rc c w = waitforLoop cfg packetType timer fuel' rc c w := by
  induction fuel generalizing fuel' rc c w with
  | zero => omega
  | succ fuel ih =>
    obtain ⟨fuel', rfl⟩ : ∃ k, fuel' = k + 1 := ⟨fuel' - 1, by omega⟩
    simp only [waitforLoop]
    split
    · rfl
    · rename_i hexp
      have hless := (cycle_clock cfg c w.tick timer).trans_lt (clock_pos hexp)
      split
      · exact ih _ _ _ (by omega) (by omega)
      · rfl

theorem yieldLoop_fuel (cfg : Config) (timer : τ) {fuel fuel' : Nat} (c : Client τ)
    (w : World σ τ κ) (h : w.clock.length < fuel) (h' : w.clock.length < fuel') :
    yieldLoop cfg timer fuel c w = yieldLoop cfg timer fuel' c w := by
  induction fuel generalizing fuel' c w with
  | zero => omega
  | succ fuel ih =>
    obtain ⟨fuel', rfl⟩ : ∃ k, fuel' = k + 1 := ⟨fuel' - 1, by omega⟩
    simp only [yieldLoop]
    split
    · rfl
    · rename_i hexp
      have hless := (cycle_clock cfg c w.tick timer).trans_lt (clock_pos hexp)
      split
      · rfl
      · exact ih _ _ (by omega) (by omega)

theorem waitforLoop_wait (cfg : Config) {packetType : Nat} (hpos : 0 < packetType) (timer : τ)
    (fuel : Nat) {rc : Int} (hrc : rc ≠ packetType) (c : Client τ) (w : World σ τ κ) :
    ∃ ev, Wait cfg packetType c w (waitforLoop cfg packetType timer fuel rc c w) ev := by
  induction fuel generalizing rc c w with
  | zero =>
    exact ⟨[], by simp [waitforLoop], .nil _ _, by simp [waitforLoop, allExpected],
      fun h => absurd h hrc⟩
  | succ fuel ih =>
    simp only [waitforLoop]
    split
    · exact ⟨[], by simp, .nil _ _, by simp [allExpected], fun h => absurd h hrc⟩
    · obtain ⟨ev, hturn⟩ := cycle_turn cfg c w.tick timer
      generalize cycle cfg c w.tick timer = r at *
      split
      · rename_i hmore
        obtain ⟨ev', hwait⟩ := ih hmore.1 r.client r.world
        have hlive : LiveTurn cfg c.toSession ev r.client.toSession :=
          ⟨hturn.act, hturn.alive hmore.2⟩
        have hskip : ∀ p ∈ heard ev, headerType p.1 ≠ packetType := by
          rcases hturn.result with ⟨hq, -⟩ | ⟨header, body, tail, hq, -, -, hres⟩
          · simp [hq]
          · rw [hq]
            intro p hp
            obtain rfl : p = (header, body) := by simpa using hp
            rcases hres with hres | hres
            · rintro rfl
              exact hmore.1 hres
            · omega
        refine ⟨ev ++ ev', ?_, .cons hlive hwait.waits, fun h => ?_, fun h => ?_⟩
        · rw [hwait.log, hturn.log, World.tick_log, List.append_assoc]
        · rw [hwait.alive h, hturn.alive hmore.2, heard_append, allExpected_append, Bool.and_assoc]
        · obtain ⟨header, body, tail, ha, hb⟩ := hwait.found h
          exact ⟨header, body, tail, by rw [heard_append]; exact ha.skip hskip, hb⟩
      · refine ⟨ev, hturn.log, .last hturn.act, hturn.alive, fun h => ?_⟩
        rcases hturn.result with ⟨-, hle⟩ | ⟨header, body, tail, hq, hb, hbuf, hres⟩
        · omega
        · have htype : headerType header = packetType := by
            rcases hres with hres | hres <;> omega
          exact ⟨header, body, tail, ⟨htype, hb, [], hq, by simp⟩, hbuf⟩

theorem waitfor_wait (cfg : Config) (c : Client τ) (w : World σ τ κ) {packetType : Nat}
    (hpos : 0 < packetType) (timer : τ) :
    ∃ ev, Wait cfg packetType c w (waitfor cfg c w packetType timer) ev := by
  apply waitforLoop_wait cfg hpos
  intro h
  simp only [FAILURE] at h
  omega

structure Yield (cfg : Config) (c : Client τ) (w : World σ τ κ) (r : Outcome σ τ κ)
    (ev : List Event) : Prop where
  log : r.world.log = w.log ++ ev
  waits : Waits cfg c.toSession ev r.client.toSession
  alive : r.rc = SUCCESS → r.client.isconnected = (c.isconnected && allExpected cfg (heard ev))

theorem yieldLoop_yield (cfg : Config) (timer : τ) (fuel : Nat) (c : Client τ) (w : World σ τ κ) :
    ∃ ev, Yield cfg c w (yieldLoop cfg timer fuel c w) ev := by
  induction fuel generalizing c w with
  | zero => exact ⟨[], by simp [yieldLoop], .nil _ _, by simp [yieldLoop, allExpected]⟩
  | succ fuel ih =>
    simp only [yieldLoop]
    split
    · exact ⟨[], by simp, .nil _ _, by simp [allExpected]⟩
    · obtain ⟨ev, hturn⟩ := cycle_turn cfg c w.tick timer
      generalize cycle cfg c w.tick timer = r at *
      split
      · exact ⟨ev, hturn.log, .last hturn.act, fun h => by simp at h⟩
      · rename_i hmore
        have hge : 0 ≤ r.rc := Int.not_lt.mp hmore
        obtain ⟨ev', hy⟩ := ih r.client r.world
        refine ⟨ev ++ ev', ?_, .cons ⟨hturn.act, hturn.alive hge⟩ hy.waits, fun h => ?_⟩
        · rw [hy.log, hturn.log, World.tick_log, List.append_assoc]
        · rw [hy.alive h, hturn.alive hge, heard_append, allExpected_append, Bool.and_assoc]

theorem yield_yield (cfg : Config) (c : Client τ) (w : World σ τ κ) (timeoutMs : Nat) :
    ∃ ev, Yield cfg c w (yield cfg c w timeoutMs) ev := by
  obtain ⟨ev, h⟩ := yieldLoop_yield cfg (w.countdownMs timeoutMs) (w.clock.length + 1) c w.tick
  exact ⟨ev, h.log, h.waits, h.alive⟩

end MbedMqtt
