import MbedMqtt.Client.Slot

namespace MbedMqtt

def Blank (slots : List MessageHandlers) : Prop := ∀ slot ∈ slots, slot.topicFilter = none

instance (slots : List MessageHandlers) : Decidable (Blank slots) :=
  inferInstanceAs (Decidable (∀ slot ∈ slots, _))

def Vacant (table : List Nat) : Prop := ∀ id ∈ table, id = 0

instance (table : List Nat) : Decidable (Vacant table) :=
  inferInstanceAs (Decidable (∀ id ∈ table, _))

def arrivesConnected (cfg : Config) (watched : UInt8 → Bool) : Bool → List Event → Bool
  | _, [] => true
  | connected, .received header _ :: es => (!watched header || connected) &&
      arrivesConnected cfg watched (connected && expected cfg (headerType header)) es
  | connected, _ :: es => arrivesConnected cfg watched connected es

def Watches (cfg : Config) (watched : UInt8 → Bool) : Prop :=
  ∀ header, cfg.qos2 = true → headerType header = PUBLISH → headerQoS header = 2 →
    watched header = true

structure Swept (cfg : Config) (H : List MessageHandlers → Prop) (s : Session) : Prop where
  clean : s.cleansession = true
  idle : s.inflightMsgid = 0
  unused : cfg.qos2 = false → Vacant s.incomingQoS2messages
  handlers : s.isconnected = false → H s.messageHandlers
  vacant : s.isconnected = false → Vacant s.incomingQoS2messages

variable {cfg : Config} {watched : UInt8 → Bool} {H : List MessageHandlers → Prop} {s t : Session}
  {ev ev₁ ev₂ : List Event} {rc : Int}

theorem arrivesConnected_append (cfg : Config) (watched : UInt8 → Bool) (connected : Bool)
    (es fs : List Event) : arrivesConnected cfg watched connected (es ++ fs) =
      (arrivesConnected cfg watched connected es &&
        arrivesConnected cfg watched (connected && allExpected cfg (heard es)) fs) := by
  induction es generalizing connected with
  | nil => simp [arrivesConnected, allExpected]
  | cons e es ih =>
    cases e with
    | received header body =>
      simp [arrivesConnected, ih, allExpected, Bool.and_assoc]
    | delivered => simp [arrivesConnected, ih]
    | sent => simp [arrivesConnected, ih]
    | unsent => simp [arrivesConnected, ih]

theorem Vacant.free {table : List Nat} (h : Vacant table) (id : Nat) :
    Vacant (freeQoS2msgid table id) := by
  intro id' hmem
  rcases SlotTable.mem_of_mem_vacate hmem with hzero | hmem
  · exact hzero
  · exact h id' hmem

theorem arrivesConnected_last {connected : Bool} {pre : List (UInt8 × Bytes)} {header : UInt8}
    {body : Bytes} (h : arrivesConnected cfg watched connected ev = true)
    (hheard : heard ev = pre ++ [(header, body)]) (hw : watched header = true) :
    (connected && allExpected cfg pre) = true := by
  induction ev generalizing connected pre with
  | nil => simp at hheard
  | cons e es ih =>
    cases e with
    | received header' body' =>
      simp only [arrivesConnected, Bool.and_eq_true, Bool.or_eq_true, Bool.not_eq_true'] at h
      rw [heard_received] at hheard
      cases pre with
      | nil =>
        simp only [List.nil_append, List.cons.injEq, Prod.mk.injEq] at hheard
        obtain ⟨⟨rfl, -⟩, -⟩ := hheard
        simpa [hw, allExpected] using h.1
      | cons p pre =>
        rw [List.cons_append, List.cons.injEq] at hheard
        have hlast := ih h.2 hheard.2
        rw [← hheard.1]
        simpa [allExpected, Bool.and_assoc] using hlast
    | delivered => exact ih h (by simpa using hheard)
    | sent => exact ih h (by simpa using hheard)
    | unsent => exact ih h (by simpa using hheard)

theorem setMessageHandler_mem {slots : List MessageHandlers} {topicFilter f : Bytes}
    {mh : Option Nat} {slot : MessageHandlers}
    (hmem : slot ∈ (setMessageHandler slots topicFilter mh).2) (hf : slot.topicFilter = some f) :
    slot ∈ slots ∨ f = topicFilter ∧ mh.isSome = true := by
  unfold setMessageHandler at hmem
  simp only at hmem
  split at hmem
  · cases mh with
    | none =>
      rcases List.mem_or_eq_of_mem_set hmem with hmem | rfl
      · exact .inl hmem
      · cases hf
    | some h =>
      rcases List.mem_or_eq_of_mem_set hmem with hmem | rfl
      · exact .inl hmem
      · exact .inr ⟨(Option.some.inj hf).symm, rfl⟩
  · cases mh with
    | none => exact .inl hmem
    | some h =>
      simp only at hmem
      split at hmem
      · rcases List.mem_or_eq_of_mem_set hmem with hmem | rfl
        · exact .inl hmem
        · exact .inr ⟨(Option.some.inj hf).symm, rfl⟩
      · exact .inl hmem

theorem Blank.remove {slots : List MessageHandlers} (h : Blank slots) (topicFilter : Bytes) :
    Blank (setMessageHandler slots topicFilter none).2 := by
  intro slot hmem
  cases hf : slot.topicFilter with
  | none => rfl
  | some f =>
    rcases setMessageHandler_mem hmem hf with hmem | ⟨-, hsome⟩
    · rw [h slot hmem] at hf
      cases hf
    · cases hsome

namespace Swept

theorem close (hH : ∀ {slots}, Blank slots → H slots) (h : Swept cfg H s) :
    Swept cfg H (s.close cfg) := by
  have hblank : Blank (s.messageHandlers.map fun slot => { slot with topicFilter := none }) := by
    simp [Blank]
  rcases close_cases cfg s with ⟨hno, -⟩ | ⟨-, heq⟩
  · simp [h.clean] at hno
  · have hvacant : Vacant (s.close cfg).incomingQoS2messages := by
      rw [heq]
      cases hq : cfg.qos2 with
      | true => simp [Session.cleanSession, hq, Vacant]
      | false => simpa [Session.cleanSession, hq] using h.unused hq
    refine ⟨?_, ?_, fun _ => hvacant, fun _ => ?_, fun _ => hvacant⟩
    · rw [heq]
      exact h.clean
    · rw [heq]
      simp [Session.cleanSession, h.idle]
    · rw [heq]
      exact hH hblank

theorem act (h : Swept cfg H s) {header : UInt8} {body : Bytes}
    (hwatched : Watches cfg watched)
    (harrives : watched header = true → s.isconnected = true)
    (hact : CycleAct cfg s (.received header body :: ev) t) : Swept cfg H t := by
  cases hact with
  | heard => exact h
  | publish _ hf hd _ =>
    cases hd with
    | plain => exact h
    | duplicate => exact h
    | overflow => exact h
    | fresh _ hq h2 _ _ =>
      have ht := (deserializePublish_eq_some hf).1
      rw [byteAt_framed] at ht
      have hconn : s.isconnected = true :=
        harrives (hwatched header hq ht ((message_qos2 _ hf).mp h2))
      refine ⟨h.clean, h.idle, fun hno => ?_, fun hno => ?_, fun hno => ?_⟩
      · simp [hq] at hno
      · simp [hconn] at hno
      · simp [hconn] at hno
  | pubrec => exact h
  | unanswered => exact h
  | release hq =>
    exact ⟨h.clean, h.idle, fun hno => by simp [hq] at hno, h.handlers,
      fun hconn => (h.vacant hconn).free _⟩

theorem turn (hH : ∀ {slots}, Blank slots → H slots) (hwatched : Watches cfg watched)
    (h : Swept cfg H s) (hact : TurnAct cfg s ev t)
    (harrives : arrivesConnected cfg watched s.isconnected ev = true) : Swept cfg H t := by
  have hexit {u : Session} (hu : Swept cfg H u) (ht : t = u ∨ t = u.close cfg) : Swept cfg H t := by
    rcases ht with rfl | rfl
    · exact hu
    · exact hu.close hH
  cases hact with
  | idle _ _ ht => exact hexit h ht
  | read _ _ hact _ _ ht =>
    simp only [List.cons_append, arrivesConnected, Bool.and_eq_true, Bool.or_eq_true,
      Bool.not_eq_true'] at harrives
    refine hexit (h.act hwatched (fun hw => ?_) hact) ht
    rcases harrives.1 with hno | hconn
    · simp [hw] at hno
    · exact hconn

theorem live (hH : ∀ {slots}, Blank slots → H slots) (hwatched : Watches cfg watched)
    (h : Swept cfg H s) (hlive : Chain (LiveTurn cfg) s ev t)
    (harrives : arrivesConnected cfg watched s.isconnected ev = true) : Swept cfg H t := by
  induction hlive with
  | nil => exact h
  | snoc hchain hturn ih =>
    rw [arrivesConnected_append, ← live_isconnected hchain, Bool.and_eq_true] at harrives
    exact (ih harrives.1).turn hH hwatched hturn.act harrives.2

theorem waits (hH : ∀ {slots}, Blank slots → H slots) (hwatched : Watches cfg watched)
    (h : Swept cfg H s) (hw : Waits cfg s ev t)
    (harrives : arrivesConnected cfg watched s.isconnected ev = true) : Swept cfg H t := by
  obtain ⟨hlive, hlast⟩ := hw
  rw [arrivesConnected_append, ← live_isconnected hlive, Bool.and_eq_true] at harrives
  exact (h.live hH hwatched hlive harrives.1).turn hH hwatched hlast harrives.2

theorem numberedFor (h : Swept cfg H s) (qos : QoS) : Swept cfg H (s.numberedFor cfg qos) := by
  rw [numberedFor_eq]
  exact ⟨h.clean, h.idle, h.unused, h.handlers, h.vacant⟩

theorem acknowledge (h : Swept cfg H s) (id : Nat) : Swept cfg H (s.acknowledge id) := by
  unfold Session.acknowledge
  split
  · exact ⟨h.clean, rfl, h.unused, h.handlers, h.vacant⟩
  · exact h

theorem publishing (hH : ∀ {slots}, Blank slots → H slots) (hwatched : Watches cfg watched)
    (h : Swept cfg H s) {packet : Bytes} {qos : QoS} (hp : Publishing cfg packet qos s rc ev t)
    (harrives : arrivesConnected cfg watched s.isconnected ev = true) : Swept cfg H t := by
  cases hp with
  | unsent => exact h.close hH
  | sent => exact h
  | acked _ _ hw => exact (h.waits hH hwatched hw harrives).acknowledge _
  | unacked _ hw => exact (h.waits hH hwatched hw harrives).close hH

theorem publishes (hH : ∀ {slots}, Blank slots → H slots) (hwatched : Watches cfg watched)
    (h : Swept cfg H s) {topicName payload : Bytes} {id : Nat} {qos : QoS} {retained : Bool}
    (hp : Publishes cfg s topicName payload id qos retained rc ev t)
    (harrives : arrivesConnected cfg watched s.isconnected ev = true) : Swept cfg H t := by
  cases hp with
  | refused => exact h
  | unfit => exact h.numberedFor qos
  | @handed packet _ _ _ _ _ _ _ hp =>
    have hprepared : s.prepared cfg id packet qos = s.numberedFor cfg qos := by
      simp [Session.prepared, h.clean]
    rw [hprepared] at hp
    rw [← numberedFor_isconnected cfg s qos] at harrives
    exact (h.numberedFor qos).publishing hH hwatched hp harrives

theorem answered (h : Swept cfg Blank s) {slots : List MessageHandlers} {topicFilter : Bytes}
    {mh : Option Nat} (hmh : mh.isSome = true → s.isconnected = true)
    (hslots : slots = s.messageHandlers ∨
      slots = (setMessageHandler s.messageHandlers topicFilter mh).2) :
    Swept cfg Blank { s with messageHandlers := slots } := by
  refine ⟨h.clean, h.idle, h.unused, fun hconn => ?_, h.vacant⟩
  have hblank := h.handlers hconn
  rcases hslots with rfl | rfl
  · exact hblank
  · cases mh with
    | none => exact hblank.remove topicFilter
    | some mh =>
      have hconn' := hmh rfl
      rw [hconn] at hconn'
      cases hconn'

theorem requests (hwatched : Watches cfg watched) (h : Swept cfg Blank s)
    {request : Int × Bytes} {ackType : Nat} {topicFilter : Bytes} {mh : Option Nat}
    (hr : Requests cfg request ackType topicFilter mh s rc ev t)
    (hexp : expected cfg ackType = true)
    (hack : mh.isSome = true → ∀ header, headerType header = ackType → watched header = true)
    (harrives : arrivesConnected cfg watched s.isconnected ev = true) : Swept cfg Blank t := by
  have hnumbered : Swept cfg Blank s.numbered :=
    ⟨h.clean, h.idle, h.unused, h.handlers, h.vacant⟩
  have hwait {ev : List Event} {u : Session} (hw : Waits cfg s.numbered ev u)
      (harrives : arrivesConnected cfg watched s.isconnected ev = true) : Swept cfg Blank u :=
    hnumbered.waits id hwatched hw harrives
  cases hr with
  | refused => exact h.close id
  | unfit => exact hnumbered.close id
  | unsent => exact hnumbered.close id
  | unacked _ _ hw => exact (hwait hw harrives).close id
  | @answered ev u header body rc slots _ _ hw ha hl _ hslots =>
    have hconn : mh.isSome = true → u.isconnected = true := by
      intro hmh
      obtain ⟨htype, -, pre, hheard, -⟩ := ha
      have hlast := arrivesConnected_last harrives hheard (hack hmh header htype)
      rw [Bool.and_eq_true] at hlast
      rw [hl, hheard, allExpected_append, hlast.1, hlast.2]
      simp [allExpected, htype, hexp]
    have hend := (hwait hw harrives).answered hconn hslots
    unfold Session.closeIf
    split
    · exact hend.close id
    · exact hend

end Swept

theorem Connects.swept {options : ConnectData} (h : Connects cfg options s rc ev t)
    (hH : ∀ {slots}, Blank slots → H slots) (hwatched : Watches cfg watched)
    (hs : s.isconnected = false) (hconf : Swept cfg H (s.configured options))
    (harrives : arrivesConnected cfg watched s.isconnected ev = true) :
    ∃ u, Swept cfg H u ∧ u.isconnected = false ∧
      t = (if rc = SUCCESS then { u with isconnected := true } else u) ∧
      ∀ e ∈ ev, handsPublish e = false := by
  have hrequest {packet : Bytes} (ht : packetType packet = CONNECT) :
      handsPublish (.sent packet) = false ∧ handsPublish (.unsent packet) = false := by
    simp [handsPublish, Event.handed, ht]
  cases h with
  | already h => simp [hs] at h
  | unfit => exact ⟨_, hconf, hs, rfl, by simp⟩
  | unsent _ _ htype => exact ⟨_, hconf, hs, rfl, by simpa using (hrequest htype).2⟩
  | @answered packet ev₁ ev₂ u v verdict rc _ _ htype hw _ hr =>
    simp only [arrivesConnected, arrivesConnected_append, Bool.and_eq_true] at harrives
    have hu := hconf.waits hH hwatched hw harrives.1
    have hidle : ¬0 < u.inflightMsgid := by
      rw [hu.idle]
      exact Nat.lt_irrefl 0
    cases hr with
    | nothing =>
      refine ⟨u, hu, hw.stays_disconnected hs, rfl, ?_⟩
      rw [List.append_nil, List.forall_mem_cons]
      exact ⟨(hrequest htype).1, hw.hands_no_publish⟩
    | cramped _ hpos => exact absurd hpos hidle
    | pubrel _ hpos => exact absurd hpos hidle
    | publish _ hpos => exact absurd hpos hidle

end MbedMqtt
