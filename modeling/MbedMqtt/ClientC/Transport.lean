import MbedMqtt.ClientC.State

namespace MbedMqtt.MQTTClientC

variable {σ τ κ : Type} [Network σ] [Timer τ κ]

-- every write offers `length` bytes, however many are sent
def sendLoop (timer : τ) (memory : Nat → UInt8) (length : Nat) :
    Nat → Nat → World σ τ κ → Nat × World σ τ κ
  | 0, sent, w => (sent, w)
  | fuel + 1, sent, w =>
      if sent < length then
        if w.expired timer then (sent, w.tick)
        else
          let (rc, net) := Network.write w.net (slice memory sent length)
          let w := { w.tick with net := net }
          if rc < 0 then (sent, w) else sendLoop timer memory length fuel (sent + rc.toNat) w
      else (sent, w)

def sendPacket (beyond : Nat → UInt8) (c : MQTTClient τ) (w : World σ τ κ) (length : Nat)
    (timer : τ) : Outcome σ τ κ :=
  let (sent, w) := sendLoop timer (c.memory beyond) length (w.clock.length + 1) 0 w
  if sent = length then
    { rc := SUCCESS
      client := { c with lastSent := w.countdown c.keepAliveInterval }
      world := w.tick }
  else ⟨FAILURE, c, w⟩

theorem sendLoop_fuel (timer : τ) (memory : Nat → UInt8) (length : Nat) {fuel fuel' : Nat}
    (sent : Nat) (w : World σ τ κ) (h : w.clock.length < fuel) (h' : w.clock.length < fuel') :
    sendLoop timer memory length fuel sent w = sendLoop timer memory length fuel' sent w := by
  induction fuel generalizing fuel' sent w with
  | zero => omega
  | succ fuel ih =>
    obtain ⟨fuel', rfl⟩ : ∃ k, fuel' = k + 1 := ⟨fuel' - 1, by omega⟩
    simp only [sendLoop]
    split_ifs with hless hexpired
    · rfl
    · rfl
    · have htick : w.tick.clock.length < w.clock.length := by
        cases hw : w.clock with
        | nil => simp [World.expired, hw] at hexpired
        | cons now rest => simp [World.tick, hw]
      exact ih _ _ (by simp only; omega) (by simp only; omega)
    · rfl

end MbedMqtt.MQTTClientC
