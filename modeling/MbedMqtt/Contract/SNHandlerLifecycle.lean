import MbedMqtt.Network.Script
import MbedMqtt.SNClient.Calls

namespace MbedMqtt.MQTTSN

open MQTTSNGW

variable {σ τ κ : Type}

def Held (topicFilter : Nat) (s : Session) : Prop :=
  ∃ slot ∈ s.messageHandlers, slot.topicFilter = some topicFilter

instance (topicFilter : Nat) (s : Session) : Decidable (Held topicFilter s) :=
  inferInstanceAs (Decidable (∃ slot ∈ s.messageHandlers, _))

def Session.forget (s : Session) (topicFilter : Nat) : Session :=
  { s with
    messageHandlers := s.messageHandlers.map fun slot =>
      if slot.topicFilter = some topicFilter then ⟨none, none⟩ else slot }

def Call.subscribes (topicFilter : Nat) : Call → Bool
  | .subscribe topicFilter' _ _ => topicFilter' = topicFilter
  | _ => false

def Call.idle : Call → Bool
  | .yield _ => true
  | .assign _ _ => true
  | _ => false

-- each topic is unsubscribed before the next one is subscribed
inductive Paired : List Call → Prop
  | nil : Paired []
  | idle {call : Call} {calls : List Call} (h : call.idle = true) (rest : Paired calls) :
    Paired (call :: calls)
  | pair (topicFilter : Nat) (qos : QoS) (messageHandler : Option Nat) {between calls : List Call}
    (h : ∀ call ∈ between, call.idle = true) (rest : Paired calls) :
    Paired (.subscribe topicFilter qos messageHandler ::
      (between ++ .unsubscribe topicFilter :: calls))

section Slots

variable {slots : List MessageHandlers} {slot : MessageHandlers} {topicFilter : Nat}
variable {messageHandler : Option Nat}

theorem mem_attach (h : slot ∈ attach slots topicFilter messageHandler) :
    slot ∈ slots ∨ slot = ⟨some topicFilter, messageHandler⟩ := by
  rw [attach] at h
  split_ifs at h
  · exact List.mem_or_eq_of_mem_set h
  · exact .inl h

theorem attach_new {s : Session} (hfree : s.freeHandler = true) :
    ⟨some topicFilter, messageHandler⟩ ∈ attach s.messageHandlers topicFilter messageHandler := by
  have hlt := List.findIdx_lt_length_of_exists (List.any_eq_true.mp hfree)
  rw [attach, if_pos hlt]
  exact List.mem_set hlt _

theorem forget_of_not_held {s : Session} (h : ¬Held topicFilter s) : s.forget topicFilter = s := by
  have hsame : s.messageHandlers.map (fun slot =>
      if slot.topicFilter = some topicFilter then ⟨none, none⟩ else slot) = s.messageHandlers := by
    conv_rhs => rw [← List.map_id s.messageHandlers]
    refine List.map_congr_left fun slot hslot => ?_
    rw [if_neg fun htopic => h ⟨slot, hslot, htopic⟩, id]
  rw [Session.forget, hsame]

end Slots

variable [DatagramNetwork σ] [Timer τ κ]

-- the message goes where it would go had the topic no slot
def DeliversWithout (cfg : Config) (topicFilter : Nat) (s : Setting σ τ κ) (call : Call) : Prop :=
  ∀ topic msg handlers,
    .delivered topic msg handlers ∈ s.world.since (s.after cfg call).world →
    handlers = (s.client.forget topicFilter).invoked cfg topic

structure Released (cfg : Config) (topicFilter : Nat) (s : Setting σ τ κ) (later : List Call) :
    Prop where
  slot : ∀ n, ¬Held topicFilter ((later.take n).foldl (Setting.after cfg) s).client.toSession
  handler : Steps (Setting.after cfg) (DeliversWithout cfg topicFilter) s later

structure Lifecycle (cfg : Config) (s : Setting σ τ κ) (calls : List Call) : Prop where
  released : ∀ before topicFilter later, calls = before ++ .unsubscribe topicFilter :: later →
    let s' := before.foldl (Setting.after cfg) s
    ((Call.unsubscribe topicFilter).perform cfg s').rc = SUCCESS →
    Released cfg topicFilter (s'.after cfg (.unsubscribe topicFilter))
      (later.takeWhile fun call => !call.subscribes topicFilter)
  unexhausted : Paired calls → s.client.freeHandler = true →
    Steps (Setting.after cfg)
      (fun s call => (call.perform cfg s).rc ≠ MAX_SUBSCRIPTIONS_EXCEEDED) s calls

-- no topic is unsubscribed while a slot holds it
def Disciplined (cfg : Config) (s : Setting σ τ κ) (calls : List Call) : Prop :=
  Steps (Setting.after cfg)
    (fun s call => ∀ topicFilter, call = .unsubscribe topicFilter →
      ¬Held topicFilter s.client.toSession) s calls

section Step

variable {cfg : Config} {s : Setting σ τ κ} {call : Call} {topicFilter : Nat}

theorem after_slots (cfg : Config) (s : Setting σ τ κ)
    (h : ∀ topicFilter, call.subscribes topicFilter = false) :
    (s.after cfg call).client.messageHandlers = s.client.messageHandlers := by
  rcases (call_performs cfg s call).slots with hslots | ⟨topicFilter, _, _, rfl, -⟩
  · exact hslots
  · exact absurd (h topicFilter) (by simp [Call.subscribes])

theorem unsubscribed_slots (cfg : Config) (s : Setting σ τ κ) (topicFilter : Nat) :
    (s.after cfg (.unsubscribe topicFilter)).client.messageHandlers = s.client.messageHandlers :=
  after_slots cfg s fun _ => rfl

theorem idle_slots (cfg : Config) (s : Setting σ τ κ) (h : call.idle = true) :
    (s.after cfg call).client.messageHandlers = s.client.messageHandlers := by
  refine after_slots cfg s fun topicFilter => ?_
  cases call with
  | subscribe => cases h
  | unsubscribe | yield | assign => rfl

theorem after_not_held (cfg : Config) (hcall : call.subscribes topicFilter = false)
    (h : ¬Held topicFilter s.client.toSession) :
    ¬Held topicFilter (s.after cfg call).client.toSession := by
  rintro ⟨slot, hslot, htopic⟩
  rcases (call_performs cfg s call).slots with hslots | ⟨topicFilter', _, _, rfl, hslots⟩
  · exact h ⟨slot, hslots ▸ hslot, htopic⟩
  · rcases mem_attach (hslots ▸ hslot) with hold | rfl
    · exact h ⟨slot, hold, htopic⟩
    · rw [Call.subscribes, decide_eq_false_iff_not] at hcall
      exact hcall (Option.some.inj htopic)

theorem delivers_without (h : ¬Held topicFilter s.client.toSession) :
    DeliversWithout cfg topicFilter s call := by
  intro topic msg handlers hmem
  obtain ⟨ev, hlog, hev⟩ := (call_performs cfg s call).log
  have hsince : s.world.since (s.after cfg call).world = ev := World.since_append hlog
  rw [hsince] at hmem
  rw [forget_of_not_held h]
  exact hev _ hmem

theorem freeHandler_congr {t t' : Session} (h : t.messageHandlers = t'.messageHandlers) :
    t.freeHandler = t'.freeHandler := by
  rw [Session.freeHandler, Session.freeHandler, h]

end Step

section Run

variable {cfg : Config} {s : Setting σ τ κ} {calls : List Call} {topicFilter : Nat}

theorem released_of_not_held (hcalls : ∀ call ∈ calls, call.subscribes topicFilter = false)
    (h : ¬Held topicFilter s.client.toSession) : Released cfg topicFilter s calls := by
  induction calls generalizing s with
  | nil => exact ⟨by simpa using h, trivial⟩
  | cons call calls ih =>
    have hafter := after_not_held cfg (hcalls call List.mem_cons_self) h
    have hrest := ih (fun c hc => hcalls c (List.mem_cons_of_mem call hc)) hafter
    refine ⟨fun n => ?_, delivers_without h, hrest.handler⟩
    cases n with
    | zero => exact h
    | succ n => exact hrest.slot n

theorem between_slots (cfg : Config) (s : Setting σ τ κ) {between : List Call} (h : ∀ call ∈ between, call.idle = true) :
    (between.foldl (Setting.after cfg) s).client.messageHandlers = s.client.messageHandlers := by
  induction between generalizing s with
  | nil => rfl
  | cons call between ih =>
    rw [List.foldl_cons, ih _ fun c hc => h c (List.mem_cons_of_mem call hc),
      idle_slots cfg s (h call List.mem_cons_self)]

theorem not_exhausted {call : Call} (h : s.client.freeHandler = true) :
    (call.perform cfg s).rc ≠ MAX_SUBSCRIPTIONS_EXCEEDED := by
  intro hexceeded
  have hfull := (call_performs cfg s call).full hexceeded
  rw [h] at hfull
  cases hfull

theorem between_unexhausted {between : List Call} (h : ∀ call ∈ between, call.idle = true)
    (hfree : s.client.freeHandler = true) :
    Steps (Setting.after cfg)
      (fun s call => (call.perform cfg s).rc ≠ MAX_SUBSCRIPTIONS_EXCEEDED) s between := by
  induction between generalizing s with
  | nil => trivial
  | cons call between ih =>
    refine ⟨not_exhausted hfree, ih (fun c hc => h c (List.mem_cons_of_mem call hc)) ?_⟩
    rw [freeHandler_congr (idle_slots cfg s (h call List.mem_cons_self)), hfree]

-- a handler that the subscribe stored would still be there at the unsubscribe
theorem subscribed_slots {between : List Call} {qos : QoS} {messageHandler : Option Nat}
    (h : ∀ call ∈ between, call.idle = true) (hfree : s.client.freeHandler = true)
    (hnot : ¬Held topicFilter
      (between.foldl (Setting.after cfg)
        (s.after cfg (.subscribe topicFilter qos messageHandler))).client.toSession) :
    (s.after cfg (.subscribe topicFilter qos messageHandler)).client.messageHandlers =
      s.client.messageHandlers := by
  rcases (call_performs cfg s (.subscribe topicFilter qos messageHandler)).slots with
    hslots | ⟨_, _, _, hcall, hslots⟩
  · exact hslots
  · cases hcall
    refine absurd ⟨⟨some topicFilter, messageHandler⟩, ?_, rfl⟩ hnot
    rw [between_slots cfg _ h]
    exact hslots ▸ attach_new hfree

theorem paired_unexhausted (hpaired : Paired calls) (hfree : s.client.freeHandler = true)
    (h : Disciplined cfg s calls) :
    Steps (Setting.after cfg)
      (fun s call => (call.perform cfg s).rc ≠ MAX_SUBSCRIPTIONS_EXCEEDED) s calls := by
  induction hpaired generalizing s with
  | nil => trivial
  | idle hidle _ ih =>
    refine ⟨not_exhausted hfree, ih ?_ h.2⟩
    rw [freeHandler_congr (idle_slots cfg s hidle), hfree]
  | @pair topicFilter qos messageHandler between calls hbetween _ ih =>
    obtain ⟨-, hrest⟩ := h
    obtain ⟨-, hunsubscribe, hcalls⟩ := Steps.append.mp hrest
    have hslots := subscribed_slots hbetween hfree (hunsubscribe topicFilter rfl)
    have hkept := (between_slots cfg _ hbetween).trans hslots
    have hdone := (unsubscribed_slots cfg _ topicFilter).trans hkept
    have hfreed {t : Session} (ht : t.messageHandlers = s.client.messageHandlers) :
        t.freeHandler = true := (freeHandler_congr ht).trans hfree
    refine ⟨not_exhausted hfree, Steps.append.mpr ⟨?_, ?_, ?_⟩⟩
    · exact between_unexhausted hbetween (hfreed hslots)
    · exact not_exhausted (hfreed hkept)
    · exact ih (hfreed hdone) hcalls

theorem disciplined_at {before later : List Call}
    (h : Disciplined cfg s (before ++ .unsubscribe topicFilter :: later)) :
    ¬Held topicFilter (before.foldl (Setting.after cfg) s).client.toSession :=
  (Steps.append.mp h).2.1 topicFilter rfl

theorem unsubscribed_held {t : Setting σ τ κ} :
    Held topicFilter (t.after cfg (.unsubscribe topicFilter)).client.toSession ↔
      Held topicFilter t.client.toSession := by
  rw [Held, Held, unsubscribed_slots cfg t topicFilter]

theorem lifecycle_of_disciplined (h : Disciplined cfg s calls) : Lifecycle cfg s calls where
  released := by
    rintro before topicFilter later rfl s' -
    refine released_of_not_held ?_ (mt unsubscribed_held.mp (disciplined_at h))
    intro call hcall
    simpa using List.mem_takeWhile_imp hcall
  unexhausted hpaired hfree := paired_unexhausted hpaired hfree h

theorem handler_lifecycle (cfg : Config) (s : Setting σ τ κ) (calls : List Call) :
    (Disciplined cfg s calls → Lifecycle cfg s calls) ∧
    (Lifecycle cfg s calls → ∀ before topicFilter later,
      calls = before ++ .unsubscribe topicFilter :: later →
      let s' := before.foldl (Setting.after cfg) s
      ((Call.unsubscribe topicFilter).perform cfg s').rc = SUCCESS →
      ¬Held topicFilter s'.client.toSession) := by
  refine ⟨lifecycle_of_disciplined, ?_⟩
  intro h before topicFilter later hcalls s' hrc hheld
  exact (h.released before topicFilter later hcalls hrc).slot 0 (unsubscribed_held.mpr hheld)

end Run

def unsubackPacket : Bytes := [4, MQTTSN_UNSUBACK, 0, 2]

def publishPacket : Bytes := [8, MQTTSN_PUBLISH, flagsByte 1 0 0 0 0 0, 0, 7, 0, 0, 33]

def subscribedOnce : Setting UdpSocket OracleTimer Bool where
  client :=
    { Client.construct (.standard .qos1) 30000 .oracle 0 true with
      isconnected := true
      topics := fun _ => ⟨.predefined, .id 7⟩ }
  world := .answered [[8, MQTTSN_SUBACK, 0, 0, 7, 0, 1, 0], unsubackPacket, publishPacket] 30

theorem unsubscribed_still_served :
    let cfg : Config := .standard .qos1
    let calls := [.subscribe 0 .QOS0 (some 1), .unsubscribe 0, .yield 1000]
    let done := calls.foldl (Setting.after cfg) subscribedOnce
    .delivered ⟨.predefined, .id 7⟩ ⟨.QOS0, 0, 0, 0, [33], 1⟩ [1] ∈ done.world.log ∧
      ¬Lifecycle cfg subscribedOnce calls := by
  refine ⟨by decide, fun h => ?_⟩
  have hreleased := h.released [.subscribe 0 .QOS0 (some 1)] 0 [.yield 1000] rfl (by decide)
  exact hreleased.slot 0 (by decide)

end MbedMqtt.MQTTSN
