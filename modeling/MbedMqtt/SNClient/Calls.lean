import MbedMqtt.Library.Steps
import MbedMqtt.SNClient.Commands

namespace MbedMqtt.MQTTSN

open MQTTSNGW

variable {σ τ κ : Type}

-- a message goes to the handlers that the table names for its topic
def Event.ServedBy (cfg : Config) (s : Session) : Event → Prop
  | .delivered topic _ handlers => handlers = s.invoked cfg topic
  | _ => True

structure Serves (cfg : Config) (c : Client τ) (w : World σ κ) (c' : Client τ) (w' : World σ κ) :
    Prop where
  session : c'.toSession = c.toSession
  log : ∃ ev, w'.log = w.log ++ ev ∧ ∀ e ∈ ev, e.ServedBy cfg c.toSession

namespace Serves

variable {cfg : Config} {c c' c'' : Client τ} {w w' w'' : World σ κ}

theorem unlogged (hs : c'.toSession = c.toSession) (hw : w'.log = w.log) :
    Serves cfg c w c' w' :=
  ⟨hs, [], by simp [hw], by simp⟩

theorem logged {e : Event} (hs : c'.toSession = c.toSession) (hw : w'.log = w.log ++ [e])
    (he : e.ServedBy cfg c.toSession) : Serves cfg c w c' w' :=
  ⟨hs, [e], hw, by simpa using he⟩

theorem trans (h : Serves cfg c w c' w') (h' : Serves cfg c' w' c'' w'') :
    Serves cfg c w c'' w'' := by
  obtain ⟨ev, hlog, hev⟩ := h.log
  obtain ⟨ev', hlog', hev'⟩ := h'.log
  rw [h.session] at hev'
  refine ⟨h'.session.trans h.session, ev ++ ev', ?_, List.forall_mem_append.mpr ⟨hev, hev'⟩⟩
  rw [hlog', hlog, List.append_assoc]

end Serves

section Deliver

variable (cfg : Config) (c : Client τ) (w : World σ κ)

theorem deliverMessage_serves (topic : TopicId) (msg : Message) :
    Serves cfg c w (deliverMessage cfg c w topic msg).client
      (deliverMessage cfg c w topic msg).world :=
  .logged rfl rfl rfl

theorem cycleDeliver_serves (topic : TopicId) (msg : Message) :
    Serves cfg c w (cycleDeliver cfg c w topic msg).client
      (cycleDeliver cfg c w topic msg).world := by
  have htable (table : List Nat) : Serves cfg c w { c with incomingQoS2messages := table } w :=
    .unlogged rfl rfl
  rw [cycleDeliver]
  split_ifs
  · simp only
    split_ifs
    · exact (htable _).trans (deliverMessage_serves cfg _ w topic msg)
    · exact htable _
  · exact .unlogged rfl rfl
  · exact deliverMessage_serves cfg c w topic msg

end Deliver

variable [DatagramNetwork σ] [Timer τ κ]

section Pieces

variable (cfg : Config) (c : Client τ) (w : World σ κ)

theorem sendPacket_serves (length : Nat) (timer : τ) :
    Serves cfg c w (sendPacket c w length timer).client (sendPacket c w length timer).world := by
  have hlog := sendLoop_log timer (c.sendbuf ++ c.readbuf) length (w.clock.length + 1) 0 w
  simp only [sendPacket]
  split_ifs
  · exact .logged rfl (congrArg (· ++ _) hlog) trivial
  · exact .logged rfl (congrArg (· ++ _) hlog) trivial
  · exact .logged rfl (congrArg (· ++ _) hlog) trivial

theorem readPacket_serves :
    Serves cfg c w (readPacket cfg c w).client (readPacket cfg c w).world := by
  have hsession := readPacket_session cfg c w
  cases readPacket_reads cfg c w with
  | nothing _ hlog => exact .unlogged hsession hlog
  | packet _ hlog _ => exact .logged hsession hlog trivial

theorem cycleReply_serves (reply : Serialized) (timer : τ) :
    Serves cfg c w (cycleReply c w reply timer).client (cycleReply c w reply timer).world := by
  have hfill : Serves cfg c w (c.fillSendbuf reply.written) w := .unlogged rfl rfl
  rw [cycleReply]
  split_ifs
  · exact hfill
  · exact hfill.trans (sendPacket_serves cfg _ w _ timer)

theorem cycleRegister_serves (timer : τ) :
    Serves cfg c w (cycleRegister cfg c w timer).client (cycleRegister cfg c w timer).world := by
  rw [cycleRegister]
  cases ((deserializeRegister cfg.maxPacketSize).value (c.memory cfg)).accepted with
  | none => exact .unlogged rfl rfl
  | some fields => exact cycleReply_serves cfg c w _ timer

theorem cyclePublish_serves (timer : τ) :
    Serves cfg c w (cyclePublish cfg c w timer).client (cyclePublish cfg c w timer).world := by
  simp only [cyclePublish]
  cases ((deserializePublish cfg.bitsSigned cfg.maxPacketSize).value (c.memory cfg)).accepted with
  | none => exact .unlogged rfl rfl
  | some fields =>
    have hdeliver := cycleDeliver_serves cfg c w (fields.topicid cfg (c.memory cfg))
      (fields.message (c.memory cfg))
    simp only
    split_ifs
    · exact hdeliver.trans (cycleReply_serves cfg _ _ _ timer)
    · exact hdeliver
    · exact hdeliver.trans (.unlogged rfl rfl)

theorem cyclePubrec_serves (timer : τ) :
    Serves cfg c w (cyclePubrec cfg c w timer).client (cyclePubrec cfg c w timer).world := by
  have hpop : Serves cfg c w c w.pop := .unlogged rfl rfl
  simp only [cyclePubrec]
  split_ifs
  · exact hpop
  · exact hpop.trans (cycleReply_serves cfg c w.pop _ timer)

theorem cycleSwitch_serves (packetType : Nat) (timer : τ) :
    Serves cfg c w (cycleSwitch cfg packetType c w timer).client
      (cycleSwitch cfg packetType c w timer).world := by
  rw [cycleSwitch]
  split_ifs
  · exact .unlogged rfl rfl
  · exact cycleRegister_serves cfg c w timer
  · exact cyclePublish_serves cfg c w timer
  · exact cyclePubrec_serves cfg c w timer
  · exact .unlogged rfl rfl
  · exact .unlogged rfl rfl

theorem sendPing_serves : Serves cfg c w (sendPing cfg c w).client (sendPing cfg c w).world := by
  have hfill : Serves cfg c w
      (c.fillSendbuf (serializePingreq cfg.maxPacketSize .initializer).written) w.tick :=
    .unlogged rfl rfl
  rw [sendPing]
  split_ifs
  · exact .unlogged rfl rfl
  simp only
  split_ifs
  · exact (hfill.trans (sendPacket_serves cfg _ _ _ _)).trans (.unlogged rfl rfl)
  · exact hfill.trans (sendPacket_serves cfg _ _ _ _)
  · exact hfill

theorem keepalive_serves : Serves cfg c w (keepalive cfg c w).client (keepalive cfg c w).world := by
  have htick (w' : World σ κ) (h : w'.log = w.log) : Serves cfg c w c w' := .unlogged rfl h
  rw [keepalive]
  split_ifs
  · exact htick w rfl
  · exact (htick w.tick rfl).trans (sendPing_serves cfg c w.tick)
  · exact (htick w.tick.tick rfl).trans (sendPing_serves cfg c w.tick.tick)
  · exact htick w.tick.tick rfl

theorem cycle_serves (timer : τ) :
    Serves cfg c w (cycle cfg c w timer).client (cycle cfg c w timer).world := by
  have hread := readPacket_serves cfg c w
  have hswitch := hread.trans (cycleSwitch_serves cfg _ _ (toUnsignedShort (readPacket cfg c w).rc)
    timer)
  simp only [cycle, cycleExit, cycleKeepalive]
  split_ifs
  · exact hswitch
  · exact hswitch
  · exact hswitch.trans (keepalive_serves cfg _ _)
  · exact hswitch.trans (keepalive_serves cfg _ _)

end Pieces

theorem waitforLoop_serves (cfg : Config) (packetType : Int) (timer : τ) (fuel : Nat) (rc : Int)
    (c : Client τ) (w : World σ κ) :
    Serves cfg c w (waitforLoop cfg packetType timer fuel rc c w).client
      (waitforLoop cfg packetType timer fuel rc c w).world := by
  induction fuel generalizing rc c w with
  | zero => exact .unlogged rfl rfl
  | succ fuel ih =>
    have htick : Serves cfg c w c w.tick := .unlogged rfl rfl
    have hcycle := htick.trans (cycle_serves cfg c w.tick timer)
    simp only [waitforLoop]
    split_ifs
    · exact htick
    · exact hcycle.trans (ih _ _ _)
    · exact hcycle

theorem yieldLoop_serves (cfg : Config) (timer : τ) (fuel : Nat) (c : Client τ) (w : World σ κ) :
    Serves cfg c w (yieldLoop cfg timer fuel c w).client (yieldLoop cfg timer fuel c w).world := by
  induction fuel generalizing c w with
  | zero => exact .unlogged rfl rfl
  | succ fuel ih =>
    have htick : Serves cfg c w c w.tick := .unlogged rfl rfl
    have hcycle := htick.trans (cycle_serves cfg c w.tick timer)
    simp only [yieldLoop]
    split_ifs
    · exact htick
    · exact hcycle
    · exact hcycle.trans (ih _ _)

theorem waitfor_serves (cfg : Config) (c : Client τ) (w : World σ κ) (packetType : Int) (timer : τ) :
    Serves cfg c w (waitfor cfg c w packetType timer).client
      (waitfor cfg c w packetType timer).world :=
  waitforLoop_serves cfg packetType timer _ FAILURE c w

theorem yield_serves (cfg : Config) (c : Client τ) (w : World σ κ) (timeoutMs : Nat) :
    Serves cfg c w (yield cfg c w timeoutMs).client (yield cfg c w timeoutMs).world := by
  have htick : Serves cfg c w c w.tick := .unlogged rfl rfl
  exact htick.trans (yieldLoop_serves cfg _ _ c w.tick)

theorem yieldLoop_rc (cfg : Config) (timer : τ) (fuel : Nat) (c : Client τ) (w : World σ κ) :
    (yieldLoop cfg timer fuel c w).rc = SUCCESS ∨ (yieldLoop cfg timer fuel c w).rc = FAILURE := by
  induction fuel generalizing c w with
  | zero => exact .inl rfl
  | succ fuel ih =>
    simp only [yieldLoop]
    split_ifs
    · exact .inl rfl
    · exact .inr rfl
    · exact ih _ _

inductive Call where
  | subscribe (topicFilter : Nat) (qos : QoS) (messageHandler : Option Nat)
  | unsubscribe (topicFilter : Nat)
  | yield (timeoutMs : Nat)
  | assign (topicFilter : Nat) (topic : TopicId)
  deriving DecidableEq, Repr

structure Setting (σ τ κ : Type) where
  client : Client τ
  world : World σ κ

-- between two calls the application may change the topics it keeps
def Call.perform (cfg : Config) (s : Setting σ τ κ) : Call → Outcome σ τ κ
  | .subscribe topicFilter qos messageHandler =>
      MQTTSN.subscribe cfg s.client s.world topicFilter qos messageHandler
  | .unsubscribe topicFilter => MQTTSN.unsubscribe cfg s.client s.world topicFilter
  | .yield timeoutMs => MQTTSN.yield cfg s.client s.world timeoutMs
  | .assign topicFilter topic =>
      { rc := SUCCESS
        client := { s.client with topics := Function.update s.client.topics topicFilter topic }
        world := s.world }

def Setting.after (cfg : Config) (s : Setting σ τ κ) (call : Call) : Setting σ τ κ :=
  ⟨(call.perform cfg s).client, (call.perform cfg s).world⟩

structure Performs (cfg : Config) (s : Setting σ τ κ) (call : Call) (r : Outcome σ τ κ) : Prop where
  log : ∃ ev, r.world.log = s.world.log ++ ev ∧ ∀ e ∈ ev, e.ServedBy cfg s.client.toSession
  slots : r.client.messageHandlers = s.client.messageHandlers ∨
    ∃ topicFilter qos messageHandler, call = .subscribe topicFilter qos messageHandler ∧
      r.client.messageHandlers = attach s.client.messageHandlers topicFilter messageHandler
  full : r.rc = MAX_SUBSCRIPTIONS_EXCEEDED → s.client.freeHandler = false

section Performs

variable {cfg : Config} {s : Setting σ τ κ} {call : Call} {r : Outcome σ τ κ}

omit [DatagramNetwork σ] [Timer τ κ]

theorem not_exceeded {rc : Int} (h : rc = SUCCESS ∨ rc = FAILURE) :
    rc ≠ MAX_SUBSCRIPTIONS_EXCEEDED := by
  rcases h with rfl | rfl <;> decide

theorem Performs.disconnect (h : Performs cfg s call r) :
    Performs cfg s call (disconnectOnFailure r) := by
  obtain ⟨hlog, hslots, hfull⟩ := h
  rw [disconnectOnFailure]
  split_ifs
  · exact ⟨hlog, hslots, hfull⟩
  · exact ⟨hlog, hslots, hfull⟩

-- the session may be the one before but for the packet id
theorem Serves.kept {c c' : Client τ} {w w' : World σ κ} (h : Serves cfg c w c' w')
    (hs : c.toSession = s.client.toSession ∨ c.toSession = s.client.numbered)
    (hw : w.log = s.world.log) :
    (∃ ev, w'.log = s.world.log ++ ev ∧ ∀ e ∈ ev, e.ServedBy cfg s.client.toSession) ∧
      c'.messageHandlers = s.client.messageHandlers := by
  obtain ⟨hsession, ev, hlog, hev⟩ := h
  have hslots : c.messageHandlers = s.client.messageHandlers := by
    rcases hs with hs | hs
    · rw [hs]
    · rw [hs]
      rfl
  have hinvoked : c.toSession.invoked cfg = s.client.toSession.invoked cfg := by
    rcases hs with hs | hs
    · rw [hs]
    · rw [hs]
      rfl
  refine ⟨⟨ev, hw ▸ hlog, ?_⟩, by rw [hsession, hslots]⟩
  intro e he
  have hserved := hev e he
  cases e with
  | delivered topic msg handlers => exact hserved.trans (congrFun hinvoked topic)
  | received | sent | unsent => trivial

theorem Serves.performs {c : Client τ} {w : World σ κ} (h : Serves cfg c w r.client r.world)
    (hs : c.toSession = s.client.toSession ∨ c.toSession = s.client.numbered)
    (hw : w.log = s.world.log) (hrc : r.rc = SUCCESS ∨ r.rc = FAILURE) : Performs cfg s call r := by
  obtain ⟨hlog, hslots⟩ := h.kept hs hw
  exact ⟨hlog, .inl hslots, fun hexceeded => absurd hexceeded (not_exceeded hrc)⟩

theorem Performs.stopped {c : Client τ} {w : World σ κ}
    (hs : c.toSession = s.client.toSession ∨ c.toSession = s.client.numbered)
    (hw : w.log = s.world.log) : Performs cfg s call ⟨FAILURE, c, w⟩ :=
  Serves.performs (r := ⟨FAILURE, c, w⟩) (.unlogged (c := c) (w := w) rfl rfl) hs hw (.inr rfl)

structure Answers (call : Call) (r acked : Outcome σ τ κ) : Prop where
  world : acked.world = r.world
  rc : acked.rc = SUCCESS ∨ acked.rc = FAILURE
  slots : acked.client.messageHandlers = r.client.messageHandlers ∨
    ∃ topicFilter qos messageHandler, call = .subscribe topicFilter qos messageHandler ∧
      acked.client.messageHandlers = attach r.client.messageHandlers topicFilter messageHandler

theorem subscribeAck_answers (cfg : Config) (r : Outcome σ τ κ) (topicFilter : Nat) (qos : QoS)
    (messageHandler : Option Nat) :
    Answers (.subscribe topicFilter qos messageHandler) r
      (subscribeAck cfg r topicFilter qos messageHandler) := by
  rw [subscribeAck]
  split_ifs
  · cases ((deserializeSuback cfg.maxPacketSize).value (r.client.memory cfg)).accepted with
    | none => exact ⟨rfl, .inl rfl, .inl rfl⟩
    | some fields =>
      simp only
      split_ifs
      · exact ⟨rfl, .inl rfl, .inl rfl⟩
      · exact ⟨rfl, .inl rfl, .inr ⟨_, _, _, rfl, rfl⟩⟩
      · exact ⟨rfl, .inl rfl, .inl rfl⟩
  · exact ⟨rfl, .inr rfl, .inl rfl⟩

theorem unsubscribeAck_answers (cfg : Config) (r : Outcome σ τ κ) (topicFilter : Nat) :
    Answers (.unsubscribe topicFilter) r (unsubscribeAck cfg r SUCCESS) := by
  rw [unsubscribeAck]
  split_ifs
  · exact ⟨rfl, .inl rfl, .inl rfl⟩
  · exact ⟨rfl, .inl rfl, .inl rfl⟩
  · exact ⟨rfl, .inr rfl, .inl rfl⟩

end Performs

theorem sent_performs {cfg : Config} {s : Setting σ τ κ} {call : Call} {c : Client τ}
    {w : World σ κ} (hs : c.toSession = s.client.numbered) (hw : w.log = s.world.log)
    (length : Nat) (packetType : Int) (timer : τ) (answer : Outcome σ τ κ → Int → Outcome σ τ κ)
    (hanswer : ∀ r, Answers call r (answer r SUCCESS)) :
    let sent := sendPacket c w length timer
    Performs cfg s call
      (if sent.rc ≠ SUCCESS then sent
      else answer (waitfor cfg sent.client sent.world packetType timer) sent.rc) := by
  have hsend := sendPacket_serves cfg c w length timer
  simp only
  split_ifs with hsent
  · exact hsend.performs (.inr hs) hw (sendPacket_sends c w length timer).rc
  · rw [not_not.mp hsent]
    have hwait := hsend.trans (waitfor_serves cfg _ _ packetType timer)
    obtain ⟨hlog, hslots⟩ := hwait.kept (.inr hs) hw
    obtain ⟨hworld, hrc, hacked⟩ :=
      hanswer (waitfor cfg (sendPacket c w length timer).client
        (sendPacket c w length timer).world packetType timer)
    rw [hslots] at hacked
    exact ⟨hworld ▸ hlog, hacked, fun hexceeded => absurd hexceeded (not_exceeded hrc)⟩

section Commands

variable (cfg : Config) (s : Setting σ τ κ) (topicFilter : Nat)

theorem subscribe_performs (qos : QoS) (messageHandler : Option Nat) :
    Performs cfg s (.subscribe topicFilter qos messageHandler)
      (subscribe cfg s.client s.world topicFilter qos messageHandler) := by
  rw [subscribe]
  split_ifs
  swap
  · exact .stopped (.inl rfl) rfl
  refine .disconnect ?_
  rw [subscribeSend]
  split_ifs with hfree
  swap
  · exact ⟨⟨[], by simp, by simp⟩, .inl rfl, fun _ => by simpa using hfree⟩
  simp only
  split
  · exact .stopped (.inr rfl) rfl
  · refine sent_performs ?_ ?_ _ _ _
      (fun r _ => subscribeAck cfg r topicFilter qos messageHandler)
      fun r => subscribeAck_answers cfg r topicFilter qos messageHandler
    · rfl
    · rfl

theorem unsubscribe_performs :
    Performs cfg s (.unsubscribe topicFilter) (unsubscribe cfg s.client s.world topicFilter) := by
  rw [unsubscribe]
  refine .disconnect ?_
  split_ifs
  swap
  · exact .stopped (.inl rfl) rfl
  simp only [unsubscribeSend]
  split
  · exact .stopped (.inr rfl) rfl
  · refine sent_performs ?_ ?_ _ _ _ (fun r rc => unsubscribeAck cfg r rc)
      fun r => unsubscribeAck_answers cfg r topicFilter
    · rfl
    · rfl

theorem call_performs (call : Call) : Performs cfg s call (call.perform cfg s) := by
  cases call with
  | subscribe topicFilter qos messageHandler =>
    exact subscribe_performs cfg s topicFilter qos messageHandler
  | unsubscribe topicFilter => exact unsubscribe_performs cfg s topicFilter
  | yield timeoutMs =>
    exact (yield_serves cfg s.client s.world timeoutMs).performs (.inl rfl) rfl
      (yieldLoop_rc cfg _ _ _ _)
  | assign topicFilter topic =>
    exact ⟨⟨[], by simp [Call.perform], by simp⟩, .inl rfl,
      fun hexceeded => absurd hexceeded (not_exceeded (.inl rfl))⟩

end Commands

end MbedMqtt.MQTTSN
