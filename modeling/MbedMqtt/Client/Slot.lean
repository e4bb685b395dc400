import MbedMqtt.Client.Tenure

namespace MbedMqtt

structure Inflight where
  pubbuf : Bytes
  inflightLen : Nat
  inflightMsgid : Nat
  inflightQoS : QoS
  deriving DecidableEq, Repr

def Session.inflight (s : Session) : Inflight :=
  ⟨s.pubbuf, s.inflightLen, s.inflightMsgid, s.inflightQoS⟩

def Event.handed : Event → Option Bytes
  | .sent packet | .unsent packet => some packet
  | _ => none

def handsPublish (e : Event) : Bool := e.handed.any fun packet => packetType packet = PUBLISH

def afterPublish (events : List Event) : List Event := events.dropWhile fun e => !handsPublish e

structure Frozen (slot : Inflight) (s : Session) : Prop where
  persistent : s.cleansession = false
  disconnected : s.isconnected = false
  inflight : s.inflight = slot

variable {cfg : Config} {slot : Inflight} {s t : Session} {ev ev₁ ev₂ : List Event} {rc : Int}

theorem close_inflight (cfg : Config) (hs : s.cleansession = false) :
    (s.close cfg).cleansession = false ∧ (s.close cfg).inflight = s.inflight := by
  rcases close_cases cfg s with ⟨-, heq⟩ | ⟨hclean, -⟩
  · rw [heq]
    exact ⟨hs, rfl⟩
  · simp [hs] at hclean

theorem Waits.inflight (h : Waits cfg s ev t) (hs : s.cleansession = false) :
    t.cleansession = false ∧ t.inflight = s.inflight := by
  refine h.chain.preserves (I := fun u => u.cleansession = false ∧ u.inflight = s.inflight)
    (fun {u _ _} hu hact => ?_) ⟨hs, rfl⟩
  rcases hact.session_cases with ⟨table, rfl⟩ | rfl
  · exact hu
  · obtain ⟨hclean, heq⟩ := close_inflight cfg hu.1
    exact ⟨hclean, heq.trans hu.2⟩

namespace Frozen

theorem close (cfg : Config) (hs : s.cleansession = false) (hslot : s.inflight = slot) :
    Frozen slot (s.close cfg) := by
  obtain ⟨hclean, heq⟩ := close_inflight cfg hs
  exact ⟨hclean, close_disconnected cfg s, heq.trans hslot⟩

theorem waits (h : Frozen slot s) (hw : Waits cfg s ev t) : Frozen slot t := by
  obtain ⟨hclean, heq⟩ := hw.inflight h.persistent
  exact ⟨hclean, hw.stays_disconnected h.disconnected, heq.trans h.inflight⟩

end Frozen

@[simp] theorem handsPublish_received (header : UInt8) (body : Bytes) :
    handsPublish (.received header body) = false := rfl
@[simp] theorem handsPublish_delivered (topicName : MQTTString) (msg : Message)
    (handlers : List Nat) : handsPublish (.delivered topicName msg handlers) = false := rfl

theorem handsPublish_ack {type : Nat} (id : Nat) (ht : type < 16) (hne : type ≠ PUBLISH) :
    handsPublish (.sent (ackPacket type id)) = false ∧
      handsPublish (.unsent (ackPacket type id)) = false := by
  simp [handsPublish, Event.handed, packetType_ackPacket id ht, hne]

theorem handsPublish_ping :
    handsPublish (.sent (headerByte PINGREQ 0 0 0 :: packetEncode 0)) = false ∧
      handsPublish (.unsent (headerByte PINGREQ 0 0 0 :: packetEncode 0)) = false := by
  constructor <;> decide

theorem CycleAct.hands_no_publish (h : CycleAct cfg s ev t) : ∀ e ∈ ev, handsPublish e = false := by
  have hpuback (id : Nat) := handsPublish_ack id (by decide : PUBACK < 16) (by decide)
  have hpubrec (id : Nat) := handsPublish_ack id (by decide : PUBREC < 16) (by decide)
  have hpubrel (id : Nat) := handsPublish_ack id (by decide : PUBREL < 16) (by decide)
  have hpubcomp (id : Nat) := handsPublish_ack id (by decide : PUBCOMP < 16) (by decide)
  cases h with
  | heard => simp
  | @publish _ _ _ _ _ _ dev reply _ _ hd hr =>
    have hdev : ∀ e ∈ dev, handsPublish e = false := by
      cases hd <;> simp
    have hreply : ∀ e ∈ reply, handsPublish e = false := by
      cases hr <;> simp [hpuback, hpubrec]
    intro e he
    rcases List.mem_cons.mp he with rfl | he
    · rfl
    · exact (List.mem_append.mp he).elim (hdev e) (hreply e)
  | pubrec id => simp [hpubrel]
  | unanswered id _ ht =>
    rcases ht with rfl | rfl
    · simp [hpubrel]
    · simp [hpubcomp]
  | release => simp [hpubcomp]
  | ping => simpa using handsPublish_ping.1
  | noPing => simpa using handsPublish_ping.2
  | close => simp

theorem Waits.hands_no_publish (h : Waits cfg s ev t) : ∀ e ∈ ev, handsPublish e = false :=
  h.chain.forall_events fun hact => hact.hands_no_publish

theorem afterPublish_skip (h : ∀ e ∈ ev₁, handsPublish e = false) :
    afterPublish (ev₁ ++ ev₂) = afterPublish ev₂ := by
  induction ev₁ with
  | nil => rfl
  | cons e es ih =>
    rw [List.forall_mem_cons] at h
    have hnext := ih h.2
    unfold afterPublish at hnext ⊢
    rw [List.cons_append, List.dropWhile_cons_of_pos (by simp [h.1]), hnext]

theorem afterPublish_cons {e : Event} (h : handsPublish e = true) :
    afterPublish (e :: ev) = e :: ev := by
  unfold afterPublish
  rw [List.dropWhile_cons_of_neg (by simp [h])]

theorem Publishing.afterPublish_eq {packet : Bytes} {qos : QoS}
    (h : Publishing cfg packet qos s rc ev t) (ht : packetType packet = PUBLISH) :
    afterPublish ev = ev := by
  have hsent : handsPublish (.sent packet) = true := by simpa [handsPublish, Event.handed] using ht
  cases h with
  | unsent => exact afterPublish_cons hsent
  | sent => exact afterPublish_cons hsent
  | acked => exact afterPublish_cons hsent
  | unacked => exact afterPublish_cons hsent

theorem Resends.publishing {verdict : Int} (h : Resends cfg s verdict rc ev t)
    (hs : Outbound cfg s) (hq : cfg.qos1 = true) (hpos : 0 < s.inflightMsgid) :
    ∃ sendbuf, packetType (s.resent cfg sendbuf) = PUBLISH ∧
      headerDup (byteAt (s.resent cfg sendbuf) 0) = 0 ∧
      Publishing cfg (s.resent cfg sendbuf) s.inflightQoS s rc ev t := by
  obtain ⟨hlen, hsize, hbuf, htype, hdup⟩ := hs.publish hpos
  cases h with
  | nothing h => exact absurd ⟨hq, hpos⟩ h
  | cramped _ _ _ hrel => simp [hs.pubrel] at hrel
  | pubrel _ _ _ hrel => simp [hs.pubrel] at hrel
  | publish _ _ _ sendbuf hp =>
    have hheader := resent_header sendbuf hlen hsize hbuf
    refine ⟨sendbuf, ?_, ?_, hp⟩
    · rw [packetType, hheader]
      exact htype
    · rw [hheader, hdup]

theorem Requests.of_disconnected {request : Int × Bytes} {ackType : Nat} {topicFilter : Bytes}
    {mh : Option Nat} (h : Requests cfg request ackType topicFilter mh s rc ev t)
    (hs : s.isconnected = false) : t = s.close cfg := by
  cases h with
  | refused => rfl
  | unfit hconn => simp [hs] at hconn
  | unsent hconn => simp [hs] at hconn
  | unacked hconn => simp [hs] at hconn
  | answered hconn => simp [hs] at hconn

theorem Publishes.of_disconnected {topicName payload : Bytes} {id : Nat} {qos : QoS}
    {retained : Bool} (h : Publishes cfg s topicName payload id qos retained rc ev t)
    (hs : s.isconnected = false) : t = s := by
  cases h with
  | refused => rfl
  | unfit hconn => simp [hs] at hconn
  | handed hconn => simp [hs] at hconn

theorem Runs.of_disconnected {op : Op} (h : Runs cfg s op rc ev t) (hs : s.isconnected = false)
    (hop : ∀ options, op ≠ .connect options) :
    Waits cfg s ev t ∨ t = s.close cfg ∨
      ∃ slots mh, t = { s with messageHandlers := slots, defaultMessageHandler := mh } := by
  cases h with
  | connect => exact absurd rfl (hop _)
  | publish h => exact .inr (.inr ⟨_, _, h.of_disconnected hs⟩)
  | subscribe h => exact .inr (.inl (h.of_disconnected hs))
  | unsubscribe h => exact .inr (.inl (h.of_disconnected hs))
  | yield hw => exact .inl hw
  | disconnect hd => cases hd <;> exact .inr (.inl rfl)
  | setMessageHandler => exact .inr (.inr ⟨_, _, rfl⟩)
  | setDefaultMessageHandler => exact .inr (.inr ⟨_, _, rfl⟩)

theorem Frozen.runs {op : Op} (h : Frozen slot s) (hrun : Runs cfg s op rc ev t)
    (hop : ∀ options, op ≠ .connect options) : Frozen slot t := by
  rcases hrun.of_disconnected h.disconnected hop with hw | rfl | ⟨slots, mh, rfl⟩
  · exact h.waits hw
  · exact .close cfg h.persistent h.inflight
  · exact ⟨h.persistent, h.disconnected, h.inflight⟩

theorem Runs.persistent {op : Op} (h : Runs cfg s op rc ev t) (hs : Outbound cfg s)
    (hclean : ∀ options, op = .connect options → options.cleansession = false)
    (hp : s.isconnected = true → s.cleansession = false) :
    t.isconnected = true → t.cleansession = false := by
  intro ht
  by_cases hopen : s.cleansession = false
  · exact (open_of_persistent (h.conduct hs hclean) hopen).1
  · have hconn : s.isconnected = false := by
      rw [← Bool.not_eq_true]
      exact fun hconn => hopen (hp hconn)
    by_cases hop : ∃ options, op = .connect options
    · obtain ⟨options, rfl⟩ := hop
      cases h with
      | connect h => exact (open_of_persistent (h.conduct_configured hs hconn) (hclean _ rfl)).1
    · exfalso
      simp only [not_exists] at hop
      rcases h.of_disconnected hconn hop with hw | rfl | ⟨slots, mh, rfl⟩
      · simp [hw.stays_disconnected hconn] at ht
      · simp [close_disconnected] at ht
      · simp [hconn] at ht

end MbedMqtt
