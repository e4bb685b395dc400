import MbedMqtt.Client.Run

namespace MbedMqtt

theorem close_cases (cfg : Config) (s : Session) :
    s.cleansession = false ∧ s.close cfg = { s with isconnected := false } ∨
      s.cleansession = true ∧
        s.close cfg = Session.cleanSession cfg { s with isconnected := false } := by
  cases hs : s.cleansession with
  | false => exact .inl ⟨rfl, by simp [Session.close, hs]⟩
  | true => exact .inr ⟨rfl, by simp [Session.close, hs]⟩

def plainRequest (packetType : Nat) : Prop :=
  packetType = CONNECT ∨ packetType = SUBSCRIBE ∨ packetType = UNSUBSCRIBE ∨
    packetType = DISCONNECT

def isRequest (packet : Bytes) : Prop :=
  plainRequest (packetType packet) ∨
    packetType packet = PUBLISH ∧ headerDup (byteAt packet 0) = 0

inductive SessionAct (cfg : Config) (allowed : Bool → Prop) : Session → List Event → Session → Prop
  | cycle {s t : Session} {ev : List Event} (h : CycleAct cfg s ev t) : SessionAct cfg allowed s ev t
  | configured (s : Session) {options : ConnectData} (h : allowed options.cleansession) :
      SessionAct cfg allowed s [] (s.configured options)
  | numbered (s : Session) : SessionAct cfg allowed s [] s.numbered
  | stored (s : Session) (id : Nat) {packet : Bytes} {qos : QoS} (retained : Nat)
      (hheader : byteAt packet 0 = headerByte PUBLISH 0 qos.toInt retained)
      (hlen : 0 < packet.length) (hsize : 0 < cfg.maxPacketSize) :
      SessionAct cfg allowed s [] (s.stored cfg id packet.length packet qos)
  | sent (s : Session) {packet : Bytes} (h : isRequest packet) :
      SessionAct cfg allowed s [.sent packet] s
  | unsent (s : Session) {packet : Bytes} (h : isRequest packet) :
      SessionAct cfg allowed s [.unsent packet] s
  | acknowledged (s : Session) (id : Nat) : SessionAct cfg allowed s [] (s.acknowledge id)
  | opened (s : Session) : SessionAct cfg allowed s [] { s with isconnected := true }
  | handlers (s : Session) (slots : List MessageHandlers) :
      SessionAct cfg allowed s [] { s with messageHandlers := slots }
  | defaultHandler (s : Session) (mh : Option Nat) :
      SessionAct cfg allowed s [] { s with defaultMessageHandler := mh }

structure Outbound (cfg : Config) (s : Session) : Prop where
  pubrel : s.pubrel = false
  publish : 0 < s.inflightMsgid → 0 < s.inflightLen ∧ 0 < cfg.maxPacketSize ∧
    0 < s.pubbuf.length ∧ packetType s.pubbuf = PUBLISH ∧ headerDup (byteAt s.pubbuf 0) = 0

namespace Outbound

variable {cfg : Config} {s t : Session} {ev : List Event}

theorem close (h : Outbound cfg s) : Outbound cfg (s.close cfg) := by
  rcases close_cases cfg s with ⟨-, heq⟩ | ⟨-, heq⟩
  · rw [heq]
    exact ⟨h.pubrel, h.publish⟩
  · rw [heq]
    constructor
    · simp [Session.cleanSession, h.pubrel]
    · intro hpos
      refine h.publish ?_
      simp only [Session.cleanSession] at hpos
      split at hpos
      · omega
      · exact hpos

theorem cycleAct (h : Outbound cfg s) (hact : CycleAct cfg s ev t) : Outbound cfg t := by
  rcases hact.session_cases with ⟨table, rfl⟩ | rfl
  · exact ⟨h.pubrel, h.publish⟩
  · exact h.close

theorem stored (h : Outbound cfg s) (id retained : Nat) {packet : Bytes} {qos : QoS}
    (hheader : byteAt packet 0 = headerByte PUBLISH 0 qos.toInt retained)
    (hlen : 0 < packet.length) (hsize : 0 < cfg.maxPacketSize) :
    Outbound cfg (s.stored cfg id packet.length packet qos) := by
  have hfirst : byteAt (store s.pubbuf 0 packet) 0 = byteAt packet 0 := by
    cases packet with
    | nil => simp at hlen
    | cons b bs => simp [store_zero, byteAt]
  constructor
  · simp [Session.stored, h.pubrel]
  · intro _
    refine ⟨hlen, hsize, ?_, ?_, ?_⟩
    · simp only [Session.stored, store_zero, List.length_append]
      omega
    · simp only [Session.stored, packetType, hfirst, hheader, headerType_headerByte]
      decide
    · simp only [Session.stored, hfirst, hheader]
      simp

theorem act {allowed : Bool → Prop} (h : Outbound cfg s) (hact : SessionAct cfg allowed s ev t) :
    Outbound cfg t := by
  cases hact with
  | cycle hact => exact h.cycleAct hact
  | stored id retained hheader hlen hsize => exact h.stored id retained hheader hlen hsize
  | acknowledged id =>
    unfold Session.acknowledge
    split
    · exact ⟨h.pubrel, fun hpos => absurd hpos (by simp)⟩
    · exact h
  | _ => exact ⟨h.pubrel, h.publish⟩

theorem chain {allowed : Bool → Prop} (h : Outbound cfg s)
    (hchain : Chain (SessionAct cfg allowed) s ev t) : Outbound cfg t :=
  hchain.preserves (fun hs hact => act hs hact) h

theorem initial (cfg : Config) (commandTimeoutMs : Nat) :
    Outbound cfg (.initial cfg commandTimeoutMs) := by
  constructor
  · rfl
  · intro hpos
    simp [Session.initial] at hpos

end Outbound

section

variable {cfg : Config} {allowed : Bool → Prop} {s t : Session} {ev : List Event} {rc : Int}

theorem conduct_close (h : Chain (SessionAct cfg allowed) s ev t) :
    Chain (SessionAct cfg allowed) s ev (t.close cfg) := by
  simpa using h.snoc (.cycle (.close t))

theorem Waits.conduct (h : Waits cfg s ev t) : Chain (SessionAct cfg allowed) s ev t :=
  h.chain.mono .cycle

theorem numberedFor_conduct (cfg : Config) (allowed : Bool → Prop) (s : Session) (qos : QoS) :
    Chain (SessionAct cfg allowed) s [] (s.numberedFor cfg qos) := by
  unfold Session.numberedFor
  split
  · exact .single (.numbered s)
  · exact .nil s

theorem Publishing.conduct {packet : Bytes} {qos : QoS} (h : Publishing cfg packet qos s rc ev t)
    (ht : isRequest packet) : Chain (SessionAct cfg allowed) s ev t := by
  have hsent : Chain (SessionAct cfg allowed) s [.sent packet] s := .single (.sent s ht)
  cases h with
  | unsent => exact conduct_close (.single (.unsent s ht))
  | sent => exact hsent
  | acked _ _ hw => simpa using (hsent.trans hw.conduct).snoc (.acknowledged _ _)
  | unacked _ hw => exact conduct_close (hsent.trans hw.conduct)

theorem prepared_conduct {topicName payload packet : Bytes} {id : Nat} {qos : QoS}
    {retained : Bool}
    (hpacket : serializePublish cfg.maxPacketSize 0 qos.toInt retained.toNat
      (s.publishId cfg id qos) (.ofCString topicName) payload = ((packet.length : Int), packet))
    (hlen : 0 < packet.length) :
    Chain (SessionAct cfg allowed) s [] (s.prepared cfg id packet qos) := by
  obtain ⟨hheader, hsize⟩ := serializePublish_header hlen hpacket
  unfold Session.prepared
  split
  · exact (numberedFor_conduct cfg allowed s qos).snoc (.stored _ _ _ hheader hlen hsize)
  · exact numberedFor_conduct cfg allowed s qos

theorem Serializes.isRequest {request : Int × Bytes} {type : Nat} (h : Serializes request type)
    (htype : plainRequest type) (hfit : 0 < request.1) : isRequest request.2 := by
  refine .inl ?_
  rwa [(h hfit).2]

theorem disconnect_isRequest {packet : Bytes} (h : packetType packet = DISCONNECT) :
    isRequest packet :=
  .inl (.inr (.inr (.inr h)))

theorem publish_isRequest {buflen qos retained id : Nat} {topicName : MQTTString}
    {payload packet : Bytes} (hlen : 0 < packet.length)
    (hpacket : serializePublish buflen 0 qos retained id topicName payload =
      ((packet.length : Int), packet)) (htype : packetType packet = PUBLISH) : isRequest packet := by
  refine .inr ⟨htype, ?_⟩
  rw [(serializePublish_header hlen hpacket).1, headerDup_headerByte]

theorem Publishes.conduct {topicName payload : Bytes} {id : Nat} {qos : QoS} {retained : Bool}
    (h : Publishes cfg s topicName payload id qos retained rc ev t) :
    Chain (SessionAct cfg allowed) s ev t := by
  cases h with
  | refused => exact .nil s
  | unfit => exact numberedFor_conduct cfg allowed s qos
  | handed _ hpacket htype hlen hp =>
    exact (prepared_conduct hpacket hlen).trans (hp.conduct (publish_isRequest hlen hpacket htype))

theorem Resends.conduct {verdict : Int} (h : Resends cfg s verdict rc ev t)
    (hs : Outbound cfg s) : Chain (SessionAct cfg allowed) s ev t := by
  cases h with
  | nothing => exact .nil s
  | cramped => exact .nil s
  | pubrel _ _ _ hrel => simp [hs.pubrel] at hrel
  | publish _ hpos _ sendbuf hp =>
    obtain ⟨hlen, hsize, hbuf, htype, hdup⟩ := hs.publish hpos
    refine hp.conduct (.inr ?_)
    rw [packetType, resent_header sendbuf hlen hsize hbuf]
    exact ⟨htype, hdup⟩

theorem Connects.conduct_configured {options : ConnectData} (h : Connects cfg options s rc ev t)
    (hs : Outbound cfg s) (hconn : s.isconnected = false) :
    Chain (SessionAct cfg allowed) (s.configured options) ev t := by
  have hopt : Outbound cfg (s.configured options) := ⟨hs.pubrel, hs.publish⟩
  cases h with
  | already h => simp [hconn] at h
  | unfit => exact .nil _
  | unsent _ _ htype => exact .single (.unsent _ (.inl (.inl htype)))
  | @answered packet ev₁ ev₂ u v verdict _ _ _ htype hw _ hr =>
    have hwait : Chain (SessionAct cfg allowed) (s.configured options) (.sent packet :: ev₁) u :=
      (Chain.single (.sent _ (.inl (.inl htype)))).trans hw.conduct
    have hresend := hwait.trans (hr.conduct (hopt.chain hwait))
    split
    · simpa using hresend.snoc (.opened v)
    · exact hresend

theorem Connects.conduct {options : ConnectData} (h : Connects cfg options s rc ev t)
    (hs : Outbound cfg s) (hallowed : allowed options.cleansession) :
    Chain (SessionAct cfg allowed) s ev t := by
  by_cases hconn : s.isconnected = true
  · obtain ⟨rfl, rfl⟩ := h.of_connected hconn
    exact .nil t
  · have hconn : s.isconnected = false := by simpa using hconn
    exact (Chain.single (.configured s hallowed)).trans (h.conduct_configured hs hconn)

theorem Requests.conduct {request : Int × Bytes} {type ackType : Nat} {topicFilter : Bytes}
    {mh : Option Nat} (h : Requests cfg request ackType topicFilter mh s rc ev t)
    (hser : Serializes request type) (htype : plainRequest type) :
    Chain (SessionAct cfg allowed) s ev t := by
  have hnumbered : Chain (SessionAct cfg allowed) s [] s.numbered := .single (.numbered s)
  have hreq := hser.isRequest htype
  cases h with
  | refused => exact conduct_close (.nil s)
  | unfit => exact conduct_close hnumbered
  | unsent _ hfit => exact conduct_close (hnumbered.snoc (.unsent _ (hreq hfit)))
  | unacked _ hfit hw =>
    exact conduct_close ((hnumbered.snoc (.sent _ (hreq hfit))).trans hw.conduct)
  | @answered ev u header body rc slots _ hfit hw _ _ _ _ =>
    have hend := ((hnumbered.snoc (.sent _ (hreq hfit))).trans hw.conduct).snoc (.handlers u slots)
    rw [List.append_nil] at hend
    unfold Session.closeIf
    split
    · exact conduct_close hend
    · exact hend

theorem Runs.conduct {op : Op} (h : Runs cfg s op rc ev t) (hs : Outbound cfg s)
    (hallowed : ∀ options, op = .connect options → allowed options.cleansession) :
    Chain (SessionAct cfg allowed) s ev t := by
  cases h with
  | connect h => exact h.conduct hs (hallowed _ rfl)
  | publish h => exact h.conduct
  | subscribe h =>
    exact h.conduct (serializeSubscribe_serializes _ _ _ _ _) (.inr (.inl rfl))
  | unsubscribe h =>
    exact h.conduct (serializeUnsubscribe_serializes _ _ _ _) (.inr (.inr (.inl rfl)))
  | yield hw => exact hw.conduct
  | disconnect hd =>
    cases hd with
    | unfit => exact conduct_close (.nil s)
    | sent htype => exact conduct_close (.single (.sent s (disconnect_isRequest htype)))
    | unsent htype => exact conduct_close (.single (.unsent s (disconnect_isRequest htype)))
  | setMessageHandler => exact .single (.handlers s _)
  | setDefaultMessageHandler => exact .single (.defaultHandler s _)

end

variable {σ τ κ : Type} [Network σ] [Timer τ κ]

theorem reachable_invariant {cfg : Config} {commandTimeoutMs : Nat} {I : Session → Prop}
    (hact : ∀ {s ev t}, I s → SessionAct cfg (fun _ => True) s ev t → I t)
    (hinitial : I (.initial cfg commandTimeoutMs)) (idle : τ) (calls : List (Call σ κ)) :
    Outbound cfg (System.run cfg (.start cfg commandTimeoutMs idle) calls).client.toSession ∧
      I (System.run cfg (.start cfg commandTimeoutMs idle) calls).client.toSession := by
  have hsteps : Steps (System.perform cfg) (fun _ _ => True)
      (System.start cfg commandTimeoutMs idle) calls := Steps.of_forall fun _ _ => trivial
  refine hsteps.invariant (I := fun y => Outbound cfg y.client.toSession ∧ I y.client.toSession)
    (fun {y call} _ h => ?_) ?_
  · have hchain : Chain (SessionAct cfg fun _ => True) _ _ _ :=
      (y.perform_runs cfg call).2.conduct h.1 fun _ _ => trivial
    exact ⟨h.1.chain hchain, hchain.preserves hact h.2⟩
  · rw [System.start, Client.construct_toSession]
    exact ⟨Outbound.initial cfg commandTimeoutMs, hinitial⟩

theorem reachable_outbound (cfg : Config) (commandTimeoutMs : Nat) (idle : τ)
    (calls : List (Call σ κ)) :
    Outbound cfg (System.run cfg (.start cfg commandTimeoutMs idle) calls).client.toSession :=
  (reachable_invariant (I := fun _ => True) (fun _ _ => trivial) trivial idle calls).1

end MbedMqtt
