import MbedMqtt.Library.Stretch
import MbedMqtt.Network.Script
import MbedMqtt.ClientC.Run

namespace MbedMqtt.MQTTClientC

open Stretch

def isPing (e : Event) : Bool := e = .sent pingreqPacket

def Ponged (es : List Event) : Prop :=
  ∃ header body, es = [.received header body] ∧ headerType header = PINGRESP

structure Pinged (s : Session) (log : List Event) : Prop where
  once : AtMostOnce isPing Ponged log
  outstanding : Pending isPing Ponged log → s.pingOutstanding = true

theorem isPing_of_type {packet : Bytes} {e : Event} (he : e = .sent packet ∨ e = .unsent packet)
    (hne : packetType packet ≠ PINGREQ) : isPing e = false := by
  rcases he with rfl | rfl
  · simp only [isPing, decide_eq_false_iff_not, Event.sent.injEq]
    rintro rfl
    exact hne (by decide)
  · rfl

theorem Attempt.quiet {packet : Bytes} {ev : List Event} (ha : Attempt packet ev)
    (hne : packetType packet ≠ PINGREQ) : ∀ e ∈ ev, isPing e = false := by
  intro e he
  rcases ha with rfl | rfl
  · exact isPing_of_type (.inl (List.mem_singleton.mp he)) hne
  · exact isPing_of_type (.inr (List.mem_singleton.mp he)) hne

theorem Answered.quiet {bufSize : Nat} {s : Session} {header : UInt8} {body : Bytes}
    {ev : List Event} (h : Answered bufSize s header body ev) : ∀ e ∈ ev, isPing e = false := by
  have hack {type id : Nat} {ev : List Event} (ha : Attempt (ackPacket type id) ev)
      (hlt : type < 16) (hne : type ≠ PINGREQ) : ∀ e ∈ ev, isPing e = false :=
    ha.quiet (by rwa [packetType_ackPacket id hlt])
  cases h with
  | publish _ hr =>
    intro e he
    rcases List.mem_cons.mp he with rfl | he
    · rfl
    · cases hr with
      | silent => cases he
      | puback _ _ ha => exact hack ha (by decide) (by decide) e he
      | pubrec _ _ ha => exact hack ha (by decide) (by decide) e he
  | ack _ ht hr =>
    exact hack hr (by rcases ht with ht | ht <;> rw [ht] <;> decide)
      (by rcases ht with ht | ht <;> rw [ht] <;> decide)
  | _ => exact List.forall_mem_nil _

namespace Pinged

variable {s t : Session} {log ev : List Event}

theorem quiet (h : Pinged s log) (hev : ∀ e ∈ ev, isPing e = false)
    (hs : t.pingOutstanding = s.pingOutstanding) : Pinged t (log ++ ev) :=
  ⟨h.once.append_quiet hev, fun hp => hs.trans (h.outstanding (hp.of_append hev))⟩

theorem pings (h : Pinged s log) (hp : Pings s ev t) : Pinged t (log ++ ev) := by
  cases hp with
  | quiet => rwa [List.append_nil]
  | sent hno =>
    have hfresh : ¬Pending isPing Ponged log := fun hp => by simp [h.outstanding hp] at hno
    exact ⟨h.once.fresh hfresh, fun _ => rfl⟩
  | unsent _ => exact h.quiet (List.forall_mem_singleton.mpr rfl) rfl

theorem received (h : Pinged s log) (header : UInt8) (body : Bytes) :
    Pinged (s.after header) (log ++ [.received header body]) := by
  have hquiet : ∀ e ∈ [Event.received header body], isPing e = false :=
    List.forall_mem_singleton.mpr rfl
  by_cases ht : headerType header = PINGRESP
  · exact ⟨h.once.append_quiet hquiet,
      fun hp => absurd hp (not_pending_release hquiet ⟨header, body, rfl, ht⟩)⟩
  · rw [Session.after, if_neg ht]
    exact h.quiet hquiet rfl

theorem turn {bufSize : Nat} (h : Pinged s log) (hact : TurnAct bufSize s ev t)
    (ht : t.isconnected = true) : Pinged t (log ++ ev) := by
  have hopen {u : Session} (hend : t = u ∨ t = u.close) : t = u := by
    rcases hend with rfl | rfl
    · rfl
    · simp at ht
  cases hact with
  | idle hp hend =>
    obtain rfl := hopen hend
    exact h.pings hp
  | @read header body ev₁ ev₂ u t _ ha hp hend =>
    obtain rfl := hopen hend
    have hanswered := (h.received header body).quiet ha.quiet rfl
    have hall := hanswered.pings hp
    rwa [List.append_assoc, List.append_assoc, List.singleton_append] at hall

theorem act {bufSize : Nat} {connecting : Prop} (h : Pinged s log) (hno : ¬connecting)
    (hact : Act bufSize connecting s ev t) (ht : t.isconnected = true) : Pinged t (log ++ ev) := by
  cases hact with
  | turn hact => exact h.turn hact ht
  | request hreq ha =>
    refine h.quiet (ha.quiet fun htype => ?_) rfl
    rw [htype] at hreq
    exact absurd hreq (by decide)
  | close => simp at ht
  | configured _ hc => exact absurd hc hno
  | opened hc => exact absurd hc hno
  | numbered => exact h.quiet (List.forall_mem_nil _) rfl
  | handlers => exact h.quiet (List.forall_mem_nil _) rfl
  | defaultHandler => exact h.quiet (List.forall_mem_nil _) rfl

end Pinged

theorem Act.connected_before {bufSize : Nat} {connecting : Prop} {s t : Session} {ev : List Event}
    (hact : Act bufSize connecting s ev t) (hno : ¬connecting) (ht : t.isconnected = true) :
    s.isconnected = true := by
  by_contra hs
  have hs : s.isconnected = false := by simpa using hs
  have hfalse : t.isconnected = false := by
    cases hact with
    | turn hact => exact hact.stays_disconnected hs
    | close => exact s.close_isconnected
    | opened hc => exact absurd hc hno
    | _ => exact hs
  simp [hfalse] at ht

theorem acts_pinged {bufSize : Nat} {connecting : Prop} {s t : Session} {log ev : List Event}
    (h : Chain (Act bufSize connecting) s ev t) (hno : ¬connecting) (ht : t.isconnected = true)
    (hs : Pinged s log) : Pinged t (log ++ ev) := by
  induction h with
  | nil => rwa [List.append_nil]
  | snoc _ hact ih =>
    rw [← List.append_assoc]
    exact (ih (hact.connected_before hno ht)).act hno hact ht

variable {σ τ κ : Type} [Ipstack σ] [Timer τ κ]

def Connected (y : System τ) (call : Call σ κ) : Prop :=
  y.client.isconnected = true ∧ (y.perform call).client.isconnected = true

instance (y : System τ) (call : Call σ κ) : Decidable (Connected y call) :=
  inferInstanceAs (Decidable (_ ∧ _))

theorem one_ping_until_pingresp (y : System τ) (calls : List (Call σ κ))
    (h : Steps System.perform Connected y calls) :
    AtMostOnce isPing Ponged ((System.run y calls).log.drop y.log.length) := by
  suffices hrun : ∀ (log : List Event) (z : System τ) (calls : List (Call σ κ)),
      Steps System.perform Connected z calls → Pinged z.client.toSession log →
      ∃ ev, (System.run z calls).log = z.log ++ ev ∧ AtMostOnce isPing Ponged (log ++ ev) by
    obtain ⟨ev, hlog, honce⟩ := hrun [] y calls h ⟨atMostOnce_nil, fun hp => by
      obtain ⟨e, he, -⟩ := hp.mem
      cases he⟩
    rwa [hlog, List.drop_left]
  intro log z calls hsteps hz
  induction calls generalizing log z with
  | nil => exact ⟨[], by simp [System.run], by simpa using hz.once⟩
  | cons call calls ih =>
    obtain ⟨⟨hbefore, hafter⟩, hrest⟩ := hsteps
    obtain ⟨hlog, -, hdone⟩ := perform_done z call
    have hpinged := acts_pinged hdone.acts (by simp [hbefore]) hafter hz
    obtain ⟨ev, hev, honce⟩ := ih _ _ hrest hpinged
    refine ⟨z.events call ++ ev, ?_, by rwa [← List.append_assoc]⟩
    rw [← List.append_assoc, ← hlog]
    exact hev

theorem script_read_le (s : Script) (n : Nat) : (Script.read s n).1.rc ≤ n := by
  unfold Script.read
  split
  · simp
  · simp only
    omega
  · split
    · exact le_rfl
    · simp

instance : Ipstack Script where
  read_le := script_read_le

def pingClient : Client OracleTimer :=
  { buf := List.replicate 4 0
    keepAliveInterval := 1
    lastSent := .oracle
    nextPacketid := 1
    commandTimeoutMs := 1000
    pingOutstanding := false
    isconnected := true
    cleansession := true
    messageHandlers := [⟨none, none⟩]
    defaultMessageHandler := none
    bufSize := 4
    readbuf := List.replicate 8 0
    readbufSize := 8
    lastReceived := .oracle }

-- a round that finds the interval elapsed, and one that reads a PINGRESP first
def pingCalls : List (Call Script Bool) :=
  [⟨.run, ⟨true, fun _ => 0⟩, ⟨[], [], []⟩, [false, true, false, false], []⟩,
    ⟨.run, ⟨true, fun _ => 0⟩, ⟨[208, 0], [], []⟩, [false, false, true, false, false], []⟩]

theorem one_ping_pingCalls :
    Steps System.perform Connected ⟨pingClient, []⟩ pingCalls ∧
      AtMostOnce isPing Ponged ((System.run ⟨pingClient, []⟩ pingCalls).log.drop 0) := by
  have h : Steps System.perform Connected ⟨pingClient, []⟩ pingCalls := by decide
  exact ⟨h, one_ping_until_pingresp ⟨pingClient, []⟩ pingCalls h⟩

end MbedMqtt.MQTTClientC
