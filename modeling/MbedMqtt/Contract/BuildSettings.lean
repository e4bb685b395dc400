import MbedMqtt.Network.Script
import MbedMqtt.Client.Pairing

namespace MbedMqtt

def Config.built (cfg : Config) (build : Build) : Config := { cfg with build := build }

def plainEvent : Event → Bool
  | .received header _ => plainHeader header
  | _ => true

def unprompted (po : Bool) : List Event → Bool
  | [] => true
  | .sent packet :: ev => unprompted (po || packetType packet = PINGREQ) ev
  | .received header body :: ev =>
      !prompted po header body && unprompted (po && headerType header ≠ PINGRESP) ev
  | _ :: ev => unprompted po ev

theorem plain_of_unprompted {po : Bool} {ev : List Event} (hplain : ∀ e ∈ ev, plainEvent e = true)
    (h : unprompted po ev = true) : plain po ev = true := by
  induction ev generalizing po with
  | nil => rfl
  | cons e ev ih =>
    have hrest : ∀ e ∈ ev, plainEvent e = true :=
      fun e he => hplain e (List.mem_cons_of_mem _ he)
    cases e with
    | sent packet => exact ih hrest h
    | received header body =>
      have hheader : plainHeader header = true := hplain _ List.mem_cons_self
      simp only [unprompted, Bool.and_eq_true] at h
      simp only [plain, Bool.and_eq_true]
      exact ⟨⟨hheader, h.1⟩, ih hrest h.2⟩
    | delivered topicName message handlers => exact ih hrest h
    | unsent packet => exact ih hrest h

theorem kin_built (cfg : Config) (build : Build) : Kin (cfg.built .qos1) (cfg.built build) :=
  ⟨rfl, fun _ => rfl⟩

variable {σ τ κ : Type}

theorem start_built (cfg : Config) (build build' : Build) (commandTimeoutMs : Nat) (idle : τ) :
    System.start (cfg.built build) commandTimeoutMs idle =
      System.start (cfg.built build') commandTimeoutMs idle := by
  have hsession : (Client.construct (cfg.built build) commandTimeoutMs idle).toSession =
      (Client.construct (cfg.built build') commandTimeoutMs idle).toSession := by
    rw [Client.construct_toSession, Client.construct_toSession]
    rfl
  have hbuffers (build : Build) : System.start (cfg.built build) commandTimeoutMs idle =
      ⟨⟨(Client.construct (cfg.built build) commandTimeoutMs idle).toSession,
        List.replicate cfg.maxPacketSize 0, List.replicate cfg.maxPacketSize 0, idle, idle, false⟩,
        idle, []⟩ := rfl
  rw [hbuffers, hbuffers, hsession]

variable [Network σ] [Timer τ κ]

def AtQoS0 (cfg : Config) (y : System τ) (call : Call σ κ) : Prop :=
  call.op.qos0 = true ∧ ∀ e ∈ y.events cfg call, plainEvent e = true

def Undisturbed (cfg : Config) (y : System τ) (call : Call σ κ) : Prop :=
  unprompted y.client.pingOutstanding (y.events cfg call) = true ∧
    call.op.fresh y.client.toSession (y.events cfg call) = true

instance (cfg : Config) (y : System τ) (call : Call σ κ) : Decidable (AtQoS0 cfg y call) :=
  inferInstanceAs (Decidable (_ ∧ ∀ e ∈ _, _))

instance (cfg : Config) (y : System τ) (call : Call σ κ) : Decidable (Undisturbed cfg y call) :=
  inferInstanceAs (Decidable (_ ∧ _))

structure Agree (cfg cfg' : Config) (commandTimeoutMs : Nat) (idle : τ)
    (calls : List (Call σ κ)) : Prop where
  log : ((System.start cfg commandTimeoutMs idle).run cfg calls).log =
    ((System.start cfg' commandTimeoutMs idle).run cfg' calls).log
  rcs : (System.start cfg commandTimeoutMs idle).rcs cfg calls =
    (System.start cfg' commandTimeoutMs idle).rcs cfg' calls
  isconnected : ((System.start cfg commandTimeoutMs idle).run cfg calls).client.isconnected =
    ((System.start cfg' commandTimeoutMs idle).run cfg' calls).client.isconnected
  pingOutstanding :
    ((System.start cfg commandTimeoutMs idle).run cfg calls).client.pingOutstanding =
      ((System.start cfg' commandTimeoutMs idle).run cfg' calls).client.pingOutstanding

theorem System.run_pair {cfg cfg' : Config} (hk : Kin cfg cfg') {y : System τ} {st : Storage} {p : τ}
    (hh : StoredAs cfg cfg' y.client.toSession st)
    (hp : y.client.pingOutstanding = true → p = y.pingSent) {calls : List (Call σ κ)}
    (hqos : Steps (System.perform cfg) (AtQoS0 cfg) y calls)
    (hcalm : Steps (System.perform cfg) (Undisturbed cfg) y calls) :
    (∃ st₁ p₁, (y.twin st p).run cfg' calls = (y.run cfg calls).twin st₁ p₁) ∧
      (y.twin st p).rcs cfg' calls = y.rcs cfg calls := by
  induction calls generalizing y st p with
  | nil => exact ⟨⟨st, p, rfl⟩, rfl⟩
  | cons call calls ih =>
    obtain ⟨hop, hplain⟩ := hqos.1
    obtain ⟨hun, hfresh⟩ := hcalm.1
    obtain ⟨st₁, p₁, heq, hrc, hh₁, hp₁, -⟩ := y.perform_pair hk hh hp call (.inr ⟨hop, hfresh⟩)
      (.inr (plain_of_unprompted hplain hun))
    obtain ⟨hrun, hrcs⟩ := ih hh₁ hp₁ hqos.2 hcalm.2
    rw [← heq] at hrun hrcs
    refine ⟨hrun, ?_⟩
    rw [System.rcs, System.rcs, hrc, hrcs]

theorem built_agrees (cfg : Config) (build : Build) (commandTimeoutMs : Nat) (idle : τ)
    {calls : List (Call σ κ)}
    (hqos : Steps (System.perform (cfg.built .qos1)) (AtQoS0 (cfg.built .qos1))
      (System.start (cfg.built .qos1) commandTimeoutMs idle) calls)
    (hcalm : Steps (System.perform (cfg.built .qos1)) (Undisturbed (cfg.built .qos1))
      (System.start (cfg.built .qos1) commandTimeoutMs idle) calls) :
    Agree (cfg.built build) (cfg.built .qos1) commandTimeoutMs idle calls := by
  have hself := StoredAs.self (cfg.built .qos1) (cfg.built build)
    (System.start (cfg.built .qos1) commandTimeoutMs idle).client.toSession
  obtain ⟨⟨st, p, hrun⟩, hrcs⟩ := System.run_pair (kin_built cfg build) hself (fun _ => rfl) hqos hcalm
  have hstart : (System.start (cfg.built .qos1) commandTimeoutMs idle).twin
      (System.start (cfg.built .qos1) commandTimeoutMs idle).client.storage idle =
      System.start (cfg.built build) commandTimeoutMs idle :=
    start_built cfg .qos1 build commandTimeoutMs idle
  have hping : (System.start (cfg.built .qos1) commandTimeoutMs idle).pingSent = idle := rfl
  rw [hping, hstart] at hrun hrcs
  exact ⟨congrArg (·.log) hrun, hrcs, congrArg (·.client.isconnected) hrun,
    congrArg (·.client.pingOutstanding) hrun⟩

theorem builds_agree (cfg : Config) (commandTimeoutMs : Nat) (idle : τ) {calls : List (Call σ κ)}
    (hqos : Steps (System.perform (cfg.built .qos1)) (AtQoS0 (cfg.built .qos1))
      (System.start (cfg.built .qos1) commandTimeoutMs idle) calls)
    (hcalm : Steps (System.perform (cfg.built .qos1)) (Undisturbed (cfg.built .qos1))
      (System.start (cfg.built .qos1) commandTimeoutMs idle) calls) (build build' : Build) :
    Agree (cfg.built build) (cfg.built build') commandTimeoutMs idle calls := by
  have h := built_agrees cfg build commandTimeoutMs idle hqos hcalm
  have h' := built_agrees cfg build' commandTimeoutMs idle hqos hcalm
  exact ⟨h.log.trans h'.log.symm, h.rcs.trans h'.rcs.symm, h.isconnected.trans h'.isconnected.symm,
    h.pingOutstanding.trans h'.pingOutstanding.symm⟩

def persistentSecond : ConnectData :=
  { ConnectData.initializer with keepAliveInterval := 1, cleansession := false }

def callAt (op : Op) (stream : Bytes) (now later : Nat) : Call Script Nat :=
  ⟨op, ⟨stream, [], []⟩, Countdown.readings now later, []⟩

def pingedCalls : List (Call Script Nat) :=
  [callAt (.connect persistentSecond) [32, 2, 0, 0] 0 0, callAt (.yield 100) [] 1000 1100]

def answeredCalls : List (Call Script Nat) :=
  pingedCalls ++
    [callAt (.yield 100) [208, 0] 1200 1300, callAt (.yield 100) [48, 3, 0, 1, 116] 1400 1500,
      callAt (.publish [116] [104] 0 .QOS0 false) [] 1600 1600]

def promptedCalls : List (Call Script Nat) :=
  pingedCalls ++ [callAt (.yield 100) [48, 3, 0, 1, 116] 1200 1300]

def reconnectedCalls : List (Call Script Nat) :=
  [callAt (.connect persistentSecond) [32, 2, 0, 0] 0 0,
    callAt (.publish [116] [104] 7 .QOS0 false) [] 100 100, callAt .disconnect [] 200 200,
    callAt (.connect persistentSecond) [32, 2, 0, 0] 300 300]

def standardSystem (build : Build) : System Countdown := .start (.standard build) 30000 ⟨0⟩

theorem builds_agree_answered :
    ((standardSystem .qos1).run (.standard .qos1) answeredCalls).log.length = 7 ∧
      Agree (.standard .qos0) (.standard .qos2) 30000 (⟨0⟩ : Countdown) answeredCalls :=
  ⟨by decide, builds_agree (.standard .qos1) 30000 (⟨0⟩ : Countdown) (by decide) (by decide) .qos0
    .qos2⟩

theorem builds_differ :
    (Steps (System.perform (.standard .qos1)) (AtQoS0 (.standard .qos1)) (standardSystem .qos1)
        promptedCalls ∧
      ((standardSystem .qos1).run (.standard .qos1) promptedCalls).client.pingOutstanding = true ∧
      ((standardSystem .qos0).run (.standard .qos0) promptedCalls).client.pingOutstanding = false) ∧
    (Steps (System.perform (.standard .qos1)) (AtQoS0 (.standard .qos1)) (standardSystem .qos1)
        reconnectedCalls ∧
      ((standardSystem .qos1).run (.standard .qos1) reconnectedCalls).log.countP (sentOf PUBLISH) = 2 ∧
      ((standardSystem .qos0).run (.standard .qos0) reconnectedCalls).log.countP (sentOf PUBLISH) =
        1) := by
  decide

end MbedMqtt
