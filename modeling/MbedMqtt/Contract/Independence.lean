import MbedMqtt.Network.Script
import MbedMqtt.Client.Pairing

namespace MbedMqtt

variable {σ τ κ : Type}

structure Duo (τ : Type) where
  clients : Bool → Client τ
  logs : Bool → List Event
  pingSent : τ

namespace Duo

def start (cfg : Config) (commandTimeoutMs : Bool → Nat) (idle : τ) : Duo τ :=
  ⟨fun who => .construct cfg (commandTimeoutMs who) idle, fun _ => [], idle⟩

def system (d : Duo τ) (who : Bool) : System τ := ⟨d.clients who, d.pingSent, d.logs who⟩

def put (d : Duo τ) (who : Bool) (y : System τ) : Duo τ :=
  ⟨Function.update d.clients who y.client, Function.update d.logs who y.log, y.pingSent⟩

theorem put_system_self (d : Duo τ) (who : Bool) (y : System τ) : (d.put who y).system who = y := by
  simp [put, system]

theorem put_system_other (d : Duo τ) {who other : Bool} (h : other ≠ who) (y : System τ) :
    (d.put who y).system other = { d.system other with pingSent := y.pingSent } := by
  simp [put, system, h]

end Duo

variable [Network σ] [Timer τ κ]

namespace Duo

def perform (cfg : Config) (d : Duo τ) (turn : Bool × Call σ κ) : Duo τ :=
  d.put turn.1 ((d.system turn.1).perform cfg turn.2)

def run (cfg : Config) (d : Duo τ) (turns : List (Bool × Call σ κ)) : Duo τ :=
  turns.foldl (perform cfg) d

def rcs (cfg : Config) (who : Bool) (d : Duo τ) : List (Bool × Call σ κ) → List Int
  | [] => []
  | turn :: turns =>
      let rest := rcs cfg who (d.perform cfg turn) turns
      if turn.1 = who then (d.system who).rc cfg turn.2 :: rest else rest

end Duo

def callsOf (who : Bool) (turns : List (Bool × Call σ κ)) : List (Call σ κ) :=
  (turns.filter fun turn => turn.1 = who).map Prod.snd

structure Unaffected (cfg : Config) (commandTimeoutMs : Bool → Nat) (idle : τ)
    (turns : List (Bool × Call σ κ)) (who : Bool) : Prop where
  client : ((Duo.start cfg commandTimeoutMs idle).run cfg turns).clients who =
    ((System.start cfg (commandTimeoutMs who) idle).run cfg (callsOf who turns)).client
  log : ((Duo.start cfg commandTimeoutMs idle).run cfg turns).logs who =
    ((System.start cfg (commandTimeoutMs who) idle).run cfg (callsOf who turns)).log
  rcs : (Duo.start cfg commandTimeoutMs idle).rcs cfg who turns =
    (System.start cfg (commandTimeoutMs who) idle).rcs cfg (callsOf who turns)

def Apart (cfg : Config) (d : Duo τ) (turn : Bool × Call σ κ) : Prop :=
  (d.clients !turn.1).pingOutstanding = true →
    ∀ e ∈ (d.system turn.1).events cfg turn.2, sentOf PINGREQ e = false

instance (cfg : Config) (d : Duo τ) (turn : Bool × Call σ κ) : Decidable (Apart cfg d turn) :=
  inferInstanceAs (Decidable (_ → ∀ e ∈ _, _))

def System.timed (y : System τ) (p : τ) : System τ := y.twin y.client.storage p

theorem System.perform_timed (cfg : Config) (y : System τ) {p : τ}
    (hp : y.client.pingOutstanding = true → p = y.pingSent) (call : Call σ κ) :
    ∃ p₁, (y.timed p).perform cfg call = (y.perform cfg call).timed p₁ ∧
      (y.timed p).rc cfg call = y.rc cfg call ∧
      ((y.perform cfg call).client.pingOutstanding = true → p₁ = (y.perform cfg call).pingSent) ∧
      ((y.perform cfg call).pingSent = y.pingSent ∨
        ∃ e ∈ y.events cfg call, sentOf PINGREQ e = true) := by
  obtain ⟨st₁, p₁, heq, hrc, hh, hrest⟩ := System.perform_pair (.refl cfg) y (.self cfg cfg _) hp call
    (.inl rfl) (.inl rfl)
  obtain rfl := hh.same rfl
  exact ⟨p₁, heq, hrc, hrest⟩

def Solo (d : Duo τ) (solos : Bool → System τ) : Prop :=
  ∀ who, ∃ p, solos who = (d.system who).timed p ∧
    ((d.clients who).pingOutstanding = true → p = d.pingSent)

namespace Solo

variable {cfg : Config} {d : Duo τ} {solos : Bool → System τ} {turn : Bool × Call σ κ}

theorem perform (h : Solo d solos) (hapart : Apart cfg d turn) :
    Solo (d.perform cfg turn)
      (Function.update solos turn.1 ((solos turn.1).perform cfg turn.2)) := by
  obtain ⟨p, hsolo, hp⟩ := h turn.1
  obtain ⟨p₁, hperform, -, hnear, hping⟩ := System.perform_timed cfg (d.system turn.1) hp turn.2
  intro who
  by_cases hwho : who = turn.1
  · subst hwho
    refine ⟨p₁, ?_, ?_⟩
    · rw [Function.update_self, hsolo, hperform, Duo.perform, Duo.put_system_self]
    · intro hout
      exact hnear (by simpa [Duo.perform, Duo.put] using hout)
  · obtain ⟨q, hother, hq⟩ := h who
    refine ⟨q, ?_, ?_⟩
    · rw [Function.update_of_ne hwho, hother, Duo.perform, Duo.put_system_other d hwho]
      rfl
    · intro hout
      have hout : (d.clients who).pingOutstanding = true := by
        simpa [Duo.perform, Duo.put, hwho] using hout
      rcases hping with hping | ⟨e, he, hsent⟩
      · exact (hq hout).trans hping.symm
      · rw [Bool.eq_not_of_ne hwho] at hout
        simp [hapart hout e he] at hsent

theorem rc (h : Solo d solos) (who : Bool) (call : Call σ κ) :
    (solos who).rc cfg call = (d.system who).rc cfg call := by
  obtain ⟨p, hsolo, hp⟩ := h who
  obtain ⟨-, -, hrc, -, -⟩ := System.perform_timed cfg (d.system who) hp call
  rw [hsolo, hrc]

theorem run_cons (cfg : Config) (solos : Bool → System τ) (turn : Bool × Call σ κ)
    (turns : List (Bool × Call σ κ)) (who : Bool) :
    (solos who).run cfg (callsOf who (turn :: turns)) =
      (Function.update solos turn.1 ((solos turn.1).perform cfg turn.2) who).run cfg
        (callsOf who turns) := by
  by_cases hwho : turn.1 = who
  · subst hwho
    simp [callsOf, System.run]
  · have hne : who ≠ turn.1 := fun h => hwho h.symm
    simp [callsOf, hwho, hne]

theorem run (h : Solo d solos) {turns : List (Bool × Call σ κ)}
    (hturns : Steps (Duo.perform cfg) (Apart cfg) d turns) :
    Solo (d.run cfg turns) (fun who => (solos who).run cfg (callsOf who turns)) ∧
      ∀ who, d.rcs cfg who turns = (solos who).rcs cfg (callsOf who turns) := by
  induction turns generalizing d solos with
  | nil => exact ⟨h, fun _ => rfl⟩
  | cons turn turns ih =>
    obtain ⟨hrun, hrcs⟩ := ih (h.perform hturns.1) hturns.2
    refine ⟨?_, ?_⟩
    · intro who
      obtain ⟨p, hsolo, hp⟩ := hrun who
      exact ⟨p, (run_cons cfg solos turn turns who).trans hsolo, hp⟩
    · intro who
      rw [Duo.rcs, hrcs who]
      by_cases hwho : turn.1 = who
      · subst hwho
        simp [callsOf, System.rcs, h.rc]
      · have hne : who ≠ turn.1 := fun h => hwho h.symm
        simp [callsOf, hwho, hne]

end Solo

theorem clients_unaffected (cfg : Config) (commandTimeoutMs : Bool → Nat) (idle : τ)
    {turns : List (Bool × Call σ κ)}
    (h : Steps (Duo.perform cfg) (Apart cfg) (Duo.start cfg commandTimeoutMs idle) turns)
    (who : Bool) : Unaffected cfg commandTimeoutMs idle turns who := by
  have hstart : Solo (Duo.start cfg commandTimeoutMs idle)
      (fun who => System.start cfg (commandTimeoutMs who) idle) :=
    fun who => ⟨idle, rfl, fun _ => rfl⟩
  obtain ⟨hrun, hrcs⟩ := hstart.run h
  obtain ⟨p, hsolo, -⟩ := hrun who
  exact ⟨(congrArg System.client hsolo).symm, (congrArg System.log hsolo).symm, hrcs who⟩

def secondKeepAlive : ConnectData := { ConnectData.initializer with keepAliveInterval := 1 }

def turnAt (op : Op) (stream : Bytes) (now later : Nat) : Call Script Nat :=
  ⟨op, ⟨stream, [], []⟩, Countdown.readings now later, []⟩

def bothConnected : List (Bool × Call Script Nat) :=
  [(false, turnAt (.connect secondKeepAlive) [32, 2, 0, 0] 0 0),
    (true, turnAt (.connect secondKeepAlive) [32, 2, 0, 0] 500 500),
    (false, turnAt (.yield 100) [] 1000 1100)]

def apartTurns : List (Bool × Call Script Nat) :=
  bothConnected ++
    [(false, turnAt (.yield 100) [208, 0] 1200 1300), (true, turnAt (.yield 100) [] 1500 1600),
      (false, turnAt (.yield 50) [] 1900 1950)]

def overlappingTurns : List (Bool × Call Script Nat) :=
  bothConnected ++
    [(true, turnAt (.yield 100) [] 1500 1600), (false, turnAt (.yield 100) [] 2000 2100)]

def standardDuo : Duo Countdown := .start (.standard .qos1) (fun _ => 30000) ⟨0⟩

theorem clients_unaffected_apart :
    (∀ who, ((standardDuo.run (.standard .qos1) apartTurns).logs who).countP (sentOf PINGREQ) = 1) ∧
      Unaffected (.standard .qos1) (fun _ => 30000) (⟨0⟩ : Countdown) apartTurns false :=
  ⟨by decide, clients_unaffected (.standard .qos1) (fun _ => 30000) (⟨0⟩ : Countdown) (by decide) false⟩

theorem clients_affected_overlapping :
    standardDuo.rcs (.standard .qos1) false overlappingTurns ≠
        (System.start (.standard .qos1) 30000 (⟨0⟩ : Countdown)).rcs (.standard .qos1)
          (callsOf false overlappingTurns) ∧
      ((standardDuo.run (.standard .qos1) overlappingTurns).clients false).isconnected = true ∧
      ((System.start (.standard .qos1) 30000 (⟨0⟩ : Countdown)).run (.standard .qos1)
        (callsOf false overlappingTurns)).client.isconnected = false := by
  decide

end MbedMqtt
