import MbedMqtt.Client.Ping
import MbedMqtt.Network.Script

namespace MbedMqtt

open Stretch

structure PingInv {τ : Type} (c : Client τ) (log : List Event) : Prop where
  once : AtMostOnce isPingreq PingAnswered log
  held : Pending isPingreq PingAnswered log → c.isconnected = true → c.pingOutstanding = true

theorem not_pending_answered {log rest : List Event} {header : UInt8} {body : Bytes}
    (h : headerType header = PINGRESP) (hrest : ∀ e ∈ rest, isPingreq e = false) :
    ¬Pending isPingreq PingAnswered (log ++ .received header body :: rest) := by
  rw [← List.singleton_append, ← List.append_assoc]
  intro hp
  have hquiet : ∀ e ∈ [Event.received header body], isPingreq e = false := by
    intro e he
    rw [List.mem_singleton.mp he]
    rfl
  exact not_pending_release hquiet ⟨header, body, rfl, h⟩ (hp.of_append hrest)

namespace PingInv

variable {σ τ κ : Type} {c c' : Client τ} {log ev : List Event}

theorem init (c : Client τ) : PingInv c [] where
  once := atMostOnce_nil
  held hp := by
    obtain ⟨d, hd, -⟩ := hp.mem
    cases hd

theorem quiet (h : PingInv c log) (hev : ∀ e ∈ ev, isPingreq e = false)
    (hheld : c'.isconnected = true → Pending isPingreq PingAnswered (log ++ ev) →
      c'.pingOutstanding = true) : PingInv c' (log ++ ev) :=
  ⟨h.once.append_quiet hev, fun hp hc => hheld hc hp⟩

theorem checked {w : World σ τ κ} {b : Branch σ τ κ} (h : PingInv c log)
    (hc : c.isconnected = true) (hb : Checked c w b ev) : PingInv b.client (log ++ ev) := by
  refine h.quiet hb.noPingreq ?_
  intro _ hp
  rcases hb.pingOutstanding with heq | ⟨-, header, body, rest, rfl, hresp⟩
  · rw [heq]
    exact h.held (hp.of_append hb.noPingreq) hc
  · refine absurd hp (not_pending_answered hresp ?_)
    intro e he
    exact hb.noPingreq e (List.mem_cons_of_mem _ he)

theorem ping (h : PingInv c log) (hc : c.isconnected = true) (ho : c.pingOutstanding = false)
    (e : Event) (hc' : c'.isconnected = true → c'.pingOutstanding = true) :
    PingInv c' (log ++ [e]) := by
  refine ⟨h.once.fresh ?_, fun _ => hc'⟩
  intro hp
  rw [h.held hp hc] at ho
  cases ho

end PingInv

theorem close_keepAliveInterval (cfg : Config) (s : Session) :
    (s.close cfg).keepAliveInterval = s.keepAliveInterval := by
  simp only [Session.close]
  split <;> rfl

variable {σ τ κ : Type} [Network σ] [Timer τ κ]

theorem cycle_leave {cfg : Config} {c : Client τ} {w : World σ τ κ} {timer : τ}
    (hl : (cycleCheck cfg c w timer).leave = true)
    (hrc : (cycleCheck cfg c w timer).rc ≠ SUCCESS) :
    (cycle cfg c w timer).client.isconnected = false ∧
      (cycle cfg c w timer).client.keepAliveInterval =
        (cycleCheck cfg c w timer).client.keepAliveInterval ∧
      (cycle cfg c w timer).world = (cycleCheck cfg c w timer).world := by
  obtain ⟨-, hworld, -, hconn, hsession⟩ := cycleExit_failed cfg (readPacket cfg c w).rc hrc
  rw [cycle_eq, cycleKeepalive, if_pos hl]
  refine ⟨hconn, ?_, hworld⟩
  rcases hsession with hs | hs
  · rw [hs]
  · rw [hs, close_keepAliveInterval]

theorem cycle_kept {cfg : Config} {c : Client τ} {w : World σ τ κ} {timer : τ} {k : Outcome σ τ κ}
    (hl : (cycleCheck cfg c w timer).leave = false)
    (hb : (cycleCheck cfg c w timer).rc = SUCCESS)
    (hk : keepalive cfg (cycleCheck cfg c w timer).client (cycleCheck cfg c w timer).world = k)
    (hrc : k.rc = SUCCESS) :
    cycle cfg c w timer = { k with rc := (readPacket cfg c w).rc } := by
  simp [cycle_eq, cycleKeepalive, hl, hk, hrc, hb, cycleExit]

theorem cycle_closed {cfg : Config} {c : Client τ} {w : World σ τ κ} {timer : τ}
    {k : Outcome σ τ κ} (hl : (cycleCheck cfg c w timer).leave = false)
    (hk : keepalive cfg (cycleCheck cfg c w timer).client (cycleCheck cfg c w timer).world = k)
    (hrc : k.rc = FAILURE) (hc : k.client.isconnected = true) :
    cycle cfg c w timer = ⟨FAILURE, k.client.closeSession cfg, k.world⟩ := by
  simp [cycle_eq, cycleKeepalive, hl, hk, hrc, cycleExit, hc]

structure CycleCall (σ τ κ : Type) where
  net : σ
  clock : List κ
  stack : List Nat
  timer : τ
  deriving DecidableEq, Repr

namespace System

def enterCycle (y : System τ) (call : CycleCall σ τ κ) : World σ τ κ :=
  ⟨call.net, call.clock, call.stack, y.pingSent, y.log⟩

def cycle (cfg : Config) (y : System τ) (call : CycleCall σ τ κ) : System τ :=
  let r := MbedMqtt.cycle cfg y.client (y.enterCycle call) call.timer
  ⟨r.client, r.world.pingSent, r.world.log⟩

def cycleRc (cfg : Config) (y : System τ) (call : CycleCall σ τ κ) : Int :=
  (MbedMqtt.cycle cfg y.client (y.enterCycle call) call.timer).rc

def check (cfg : Config) (y : System τ) (call : CycleCall σ τ κ) : Branch σ τ κ :=
  cycleCheck cfg y.client (y.enterCycle call) call.timer

end System

structure KeepsAlive (cfg : Config) (y : System τ) (call : CycleCall σ τ κ) : Prop where
  covered : (y.cycle cfg call).client.isconnected = true →
    (y.cycle cfg call).client.pingOutstanding = true ∨
      (y.check cfg call).leave = false ∧ (y.check cfg call).client.pingOutstanding = false ∧
        (y.check cfg call).world.expired (y.check cfg call).client.lastSent = false ∧
        (y.check cfg call).world.tick.expired (y.check cfg call).client.lastReceived = false
  overdue : (y.check cfg call).leave = false → (y.check cfg call).client.pingOutstanding = true →
    (y.check cfg call).world.expired (y.check cfg call).world.pingSent = true →
    y.cycleRc cfg call = FAILURE ∧
      (y.cycle cfg call).client = (y.check cfg call).client.closeSession cfg

structure CyclePing (cfg : Config) (y : System τ) (call : CycleCall σ τ κ) (log : List Event) :
    Prop where
  keeps : KeepsAlive cfg y call
  keepAliveInterval : (y.cycle cfg call).client.keepAliveInterval = y.client.keepAliveInterval
  inv : ∃ ev, (y.cycle cfg call).log = y.log ++ ev ∧ PingInv (y.cycle cfg call).client (log ++ ev)

section Step

variable {cfg : Config} {y : System τ} {call : CycleCall σ τ κ} {log ev : List Event}

theorem cyclePing_leave (hb : Checked y.client (y.enterCycle call) (y.check cfg call) ev)
    (h : PingInv y.client log) (hl : (y.check cfg call).leave = true) :
    CyclePing cfg y call log := by
  obtain ⟨hconn, hka, hworld⟩ := cycle_leave hl (hb.leave hl)
  have hdown : (y.cycle cfg call).client.isconnected ≠ true := Bool.eq_false_iff.mp hconn
  refine ⟨⟨fun hc => absurd hc hdown, ?_⟩, hka.trans hb.keepAliveInterval, ev, ?_, ?_⟩
  · intro hstay
    rw [hl] at hstay
    cases hstay
  · exact (congrArg World.log hworld).trans hb.log
  · exact h.quiet hb.noPingreq fun hc => absurd hc hdown

theorem cyclePing_stay {k : Outcome σ τ κ} (ev' : List Event)
    (hb : Checked y.client (y.enterCycle call) (y.check cfg call) ev)
    (hcycle : (y.cycle cfg call).log = k.world.log)
    (hka : (y.cycle cfg call).client.keepAliveInterval =
      (y.check cfg call).client.keepAliveInterval)
    (hlog : k.world.log = (y.check cfg call).world.log ++ ev')
    (hinv : PingInv (y.cycle cfg call).client (log ++ ev ++ ev')) (hkeeps : KeepsAlive cfg y call) :
    CyclePing cfg y call log := by
  refine ⟨hkeeps, hka.trans hb.keepAliveInterval, ev ++ ev', ?_, ?_⟩
  · rw [hcycle, hlog, hb.log, List.append_assoc]
    rfl
  · rwa [← List.append_assoc]

theorem System.cycle_keeps {k : Outcome σ τ κ} (hl : (y.check cfg call).leave = false)
    (hb : (y.check cfg call).rc = SUCCESS)
    (hk : keepalive cfg (y.check cfg call).client (y.check cfg call).world = k)
    (hrc : k.rc = SUCCESS) :
    (y.cycle cfg call).client = k.client ∧ (y.cycle cfg call).log = k.world.log := by
  have hcycle := cycle_kept hl hb hk hrc
  rw [System.cycle, hcycle]
  exact ⟨rfl, rfl⟩

structure ClosedBy (cfg : Config) (y : System τ) (call : CycleCall σ τ κ) (k : Outcome σ τ κ) :
    Prop where
  rc : y.cycleRc cfg call = FAILURE
  client : (y.cycle cfg call).client = k.client.closeSession cfg
  log : (y.cycle cfg call).log = k.world.log
  down : (y.cycle cfg call).client.isconnected ≠ true
  keepAliveInterval : (y.cycle cfg call).client.keepAliveInterval = k.client.keepAliveInterval

theorem System.cycle_closes {k : Outcome σ τ κ} (hl : (y.check cfg call).leave = false)
    (hk : keepalive cfg (y.check cfg call).client (y.check cfg call).world = k)
    (hrc : k.rc = FAILURE) (hkc : k.client.isconnected = true) : ClosedBy cfg y call k := by
  have hcycle := cycle_closed hl hk hrc hkc
  have hclient : (y.cycle cfg call).client = k.client.closeSession cfg := by
    rw [System.cycle, hcycle]
  refine ⟨by rw [System.cycleRc, hcycle], hclient, by rw [System.cycle, hcycle], ?_, ?_⟩
  · rw [hclient, close_isconnected]
    decide
  · rw [hclient]
    exact close_keepAliveInterval cfg _

theorem cyclePing_kept (hb : Checked y.client (y.enterCycle call) (y.check cfg call) ev)
    (hc : y.client.isconnected = true) (h : PingInv y.client log)
    (hl : (y.check cfg call).leave = false)
    (hres : KeepaliveResult (y.check cfg call).client (y.check cfg call).world
      (keepalive cfg (y.check cfg call).client (y.check cfg call).world)) :
    CyclePing cfg y call log := by
  have hinv := h.checked hc hb
  have hbc := hb.isconnected.trans hc
  have hsettled (ho : (y.check cfg call).client.pingOutstanding = false) :
      (y.check cfg call).client.pingOutstanding ≠ true := Bool.eq_false_iff.mp ho
  generalize hk : keepalive cfg (y.check cfg call).client (y.check cfg call).world = k at hres
  cases hres with
  | waiting ho hexp heq =>
    obtain ⟨hclient, hlog⟩ := System.cycle_keeps hl (hb.stay hl) hk (by rw [heq])
    rw [heq] at hclient
    refine cyclePing_stay [] hb hlog (by rw [hclient]) (by rw [heq]; simp) ?_ ⟨?_, ?_⟩
    · rw [hclient, List.append_nil]
      exact hinv
    · intro _
      exact .inl (hclient ▸ ho)
    · intro _ _ hover
      rw [hexp] at hover
      cases hover
  | overdue ho hexp heq =>
    have hclosed := System.cycle_closes hl hk (by rw [heq]) (by rw [heq]; exact hbc)
    have hclient := hclosed.client
    have hka := hclosed.keepAliveInterval
    rw [heq] at hclient hka
    refine cyclePing_stay [] hb hclosed.log hka (by rw [heq]; simp) ?_
      ⟨fun hup => absurd hup hclosed.down, fun _ _ _ => ⟨hclosed.rc, hclient⟩⟩
    exact hinv.quiet (by simp) fun hup => absurd hup hclosed.down
  | recent ho hs hr heq =>
    obtain ⟨hclient, hlog⟩ := System.cycle_keeps hl (hb.stay hl) hk (by rw [heq])
    rw [heq] at hclient
    refine cyclePing_stay [] hb hlog (by rw [hclient]) (by rw [heq]; simp) ?_
      ⟨?_, fun _ hout => absurd hout (hsettled ho)⟩
    · rw [hclient, List.append_nil]
      exact hinv
    · intro _
      exact .inr ⟨hl, ho, hs, hr⟩
  | pinged ho hrc hs hp hsent =>
    obtain ⟨hclient, hlog⟩ := System.cycle_keeps hl (hb.stay hl) hk hrc
    refine cyclePing_stay _ hb hlog (by rw [hclient, hs]) hsent ?_
      ⟨?_, fun _ hout => absurd hout (hsettled ho)⟩
    · rw [hclient]
      exact hinv.ping hbc ho _ fun _ => hp
    · intro _
      exact .inl (hclient ▸ hp)
  | unpinged ho hrc hs hsent =>
    have hclosed := System.cycle_closes hl hk hrc (by rw [hs]; exact hbc)
    refine cyclePing_stay _ hb hclosed.log ?_ hsent ?_
      ⟨fun hup => absurd hup hclosed.down, fun _ hout => absurd hout (hsettled ho)⟩
    · rw [hclosed.keepAliveInterval, hs]
    · rw [hclosed.client]
      exact hinv.ping hbc ho _ fun hup => absurd (hclosed.client ▸ hup) hclosed.down

theorem cyclePing_cycle (call : CycleCall σ τ κ) (hq : cfg.qos1 = true) (hsize : 4 ≤ cfg.maxPacketSize)
    (hka : 0 < y.client.keepAliveInterval) (hc : y.client.isconnected = true)
    (h : PingInv y.client log) : CyclePing cfg y call log := by
  obtain ⟨ev, hb⟩ : ∃ ev, Checked y.client (y.enterCycle call) (y.check cfg call) ev :=
    cycleCheck_checked hq y.client (y.enterCycle call) call.timer
  cases hl : (y.check cfg call).leave with
  | true => exact cyclePing_leave hb h hl
  | false =>
    have hres := keepalive_result (by omega : 2 ≤ cfg.maxPacketSize)
      (by rw [hb.keepAliveInterval]; exact hka) (y.check cfg call).world
    exact cyclePing_kept hb hc h hl hres

theorem cycles_ping (hq : cfg.qos1 = true) (hsize : 4 ≤ cfg.maxPacketSize)
    (hka : 0 < y.client.keepAliveInterval) (h : PingInv y.client log)
    {calls : List (CycleCall σ τ κ)}
    (hc : Steps (System.cycle cfg) (fun y _ => y.client.isconnected = true) y calls) :
    ∃ ev, (calls.foldl (System.cycle cfg) y).log = y.log ++ ev ∧
      PingInv (calls.foldl (System.cycle cfg) y).client (log ++ ev) ∧
      Steps (System.cycle cfg) (KeepsAlive cfg) y calls := by
  induction calls generalizing y log with
  | nil => exact ⟨[], by simp, by simpa using h, trivial⟩
  | cons call calls ih =>
    obtain ⟨hkeeps, hsame, ev, hlog, hinv⟩ := cyclePing_cycle call hq hsize hka hc.1 h
    obtain ⟨ev', hlog', hinv', hrest⟩ := ih (by rw [hsame]; exact hka) hinv hc.2
    refine ⟨ev ++ ev', ?_, ?_, hkeeps, hrest⟩
    · rw [List.foldl_cons, hlog', hlog, List.append_assoc]
    · rw [List.foldl_cons, ← List.append_assoc]
      exact hinv'

end Step

theorem keepalive_discipline {cfg : Config} (hq : cfg.qos1 = true) (hsize : 4 ≤ cfg.maxPacketSize)
    {y : System τ} (hka : 0 < y.client.keepAliveInterval) {calls : List (CycleCall σ τ κ)}
    (hc : Steps (System.cycle cfg) (fun y _ => y.client.isconnected = true) y calls) :
    AtMostOnce isPingreq PingAnswered ((calls.foldl (System.cycle cfg) y).log.drop y.log.length) ∧
      Steps (System.cycle cfg) (KeepsAlive cfg) y calls := by
  obtain ⟨ev, hlog, hinv, hkeeps⟩ := cycles_ping hq hsize hka (PingInv.init y.client) hc
  rw [hlog, List.drop_left]
  exact ⟨hinv.once, hkeeps⟩

def aliveSystem : System OracleTimer :=
  let y := System.start (.standard .qos1) 30000 OracleTimer.oracle
  { y with client := { y.client with keepAliveInterval := 60, isconnected := true } }

def pingedCycles : List (CycleCall Script OracleTimer Bool) :=
  [⟨⟨[], [], []⟩, true :: List.replicate 5 false, [], .oracle⟩,
    ⟨⟨[208, 0], [], []⟩, List.replicate 5 false, [], .oracle⟩,
    ⟨⟨[], [], []⟩, true :: List.replicate 5 false, [], .oracle⟩]

theorem keepalive_discipline_two_pings :
    (pingedCycles.foldl (System.cycle (.standard .qos1)) aliveSystem).log.countP isPingreq = 2 ∧
      AtMostOnce isPingreq PingAnswered
        ((pingedCycles.foldl (System.cycle (.standard .qos1)) aliveSystem).log.drop
          aliveSystem.log.length) :=
  ⟨by decide, (keepalive_discipline (by decide) (by decide) (by decide) (by decide)).1⟩

end MbedMqtt
