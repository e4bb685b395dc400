import MbedMqtt.Library.Sift
import MbedMqtt.Gateway.Stage
import MbedMqtt.Gateway.Process
import MbedMqtt.Contract.BrokerLoss

namespace MbedMqtt.MQTTSNGW

open PacketHandleTask

def Event.published (c : Nat) : Event → Option SNPublish
  | .clientRecv d (.publish (some packet)) => if d = c then some packet else none
  | _ => none

def publishesOf (sent : List MQTTGWPacket) : List MQTTGWPacket := sent.filter (·.getType = PUBLISH)

def Translated (packet : SNPublish) (publish : MQTTGWPacket) : Prop :=
  ∃ topic topiclen bounded,
    publish = MQTTSNPublishHandler.translate packet topic topiclen bounded

section Turns

variable {gw : Gateway} {ids : MessageIds} {clients : Nat → Client} {client : Client}
  {handled : Handled}

theorem publishesOf_nil {sent : List MQTTGWPacket} (h : ∀ packet ∈ sent, packet.getType ≠ PUBLISH) :
    publishesOf sent = [] := by
  rw [publishesOf, List.filter_eq_nil_iff]
  intro packet hmem
  simpa using h packet hmem

theorem publishesOf_connect (connect : Connect) (username password : Option Bytes) :
    publishesOf [.setCONNECT connect username password] = [] := by
  refine publishesOf_nil ?_
  intro packet hmem
  rw [List.mem_singleton.mp hmem, setCONNECT_getType]
  decide

structure Upstream (given : Option SNPublish) (handled : Handled) : Prop where
  sifted : Sifted Translated given.toList (publishesOf handled.brokerSend)
  suspended : handled.suspended = []

theorem Upstream.silent {given : Option SNPublish} (hsent : publishesOf handled.brokerSend = [])
    (hsuspended : handled.suspended = []) : Upstream given handled :=
  ⟨hsent ▸ .nil _, hsuspended⟩

theorem ClientTurn.upstream {packet : MQTTSNPacket} (h : ClientTurn gw client packet handled)
    (hqosm1 : client.isQoSm1 = false) (c : Nat) :
    Upstream ((Event.clientRecv c packet).published c) handled := by
  cases h with
  | connect data =>
    simp only [MQTTSNConnectionHandler.handleConnect]
    split_ifs
    · exact .silent rfl rfl
    · exact .silent rfl rfl
    · exact .silent (publishesOf_connect _ _ _) rfl
  | willtopic data => exact .silent rfl rfl
  | willmsg willmsg =>
    unfold MQTTSNConnectionHandler.handleWillmsg
    split_ifs
    · exact .silent rfl rfl
    · exact .silent (publishesOf_connect _ _ _) rfl
    · exact .silent rfl rfl
  | publish packet relayed =>
    have hgiven : (Event.clientRecv c (.publish (some packet))).published c = some packet :=
      if_pos rfl
    rw [hgiven]
    refine ⟨?_, relayed.suspended hqosm1⟩
    rcases relayed.upstream with hsent | ⟨topic, topiclen, bounded, hsent⟩
    · rw [hsent]
      exact .nil _
    · have htype : (MQTTSNPublishHandler.translate packet topic topiclen bounded).getType = PUBLISH :=
        MQTTGWPacket.setPUBLISH_getType _
      have hone : publishesOf handled.brokerSend =
          [MQTTSNPublishHandler.translate packet topic topiclen bounded] := by
        rw [hsent, publishesOf, List.filter_cons_of_pos (by simpa using htype), List.filter_nil]
      rw [hone]
      exact .single ⟨topic, topiclen, bounded, rfl⟩
  | settled _ settled =>
    exact .silent (publishesOf_nil fun packet hmem => (settled.upstream packet hmem).2)
      (settled.suspended hqosm1)

theorem BrokerTurn.upstream {packet : MQTTGWPacket} (h : BrokerTurn client packet handled)
    (hqosm1 : client.isQoSm1 = false) (given : Option SNPublish) : Upstream given handled := by
  cases h with
  | connack _ => exact .silent rfl rfl
  | pingresp _ => exact .silent rfl rfl
  | settled _ _ settled =>
    exact .silent (publishesOf_nil fun packet hmem => (settled.upstream packet hmem).2)
      (settled.suspended hqosm1)

theorem handleEvent_upstream {ev : Event} {c : Nat} (hoff : gw.aggregaterActive = false)
    (hplain : ∀ d, (clients d).isAggregater = false) (hqosm1 : (clients c).isQoSm1 = false)
    (h : handleEvent gw ids clients ev = .done c handled) : Upstream (ev.published c) handled := by
  cases handleEvent_dispatched h with
  | @client _ packet answer hpacket =>
    rw [clientPacket, if_neg (by simp [isAggregatedClient, hoff])] at hpacket
    have hupstream := (transparentClientPacket_turn hpacket).upstream hqosm1 c
    exact ⟨hupstream.sifted, hupstream.suspended⟩
  | transparent _ hpacket => exact (transparentBrokerPacket_turn hpacket).upstream hqosm1 _
  | @aggregate d _ haggregater => simp [hplain d] at haggregater

theorem published_unconcerned {ev : Event} {c : Nat} (h : ev.concerns c = false) :
    ev.published c = none := by
  cases ev with
  | clientRecv d packet =>
    have hd : d ≠ c := by simpa [Event.concerns] using h
    cases packet with
    | publish data =>
      cases data with
      | none => rfl
      | some packet => exact if_neg hd
    | _ => rfl
  | _ => rfl

end Turns

def Process.Act.published (c : Nat) : Process.Act → Option SNPublish
  | .clientRecv d packet => (Event.clientRecv d packet).published c
  | _ => none

def receivedFrom (c : Nat) (acts : List Process.Act) : List SNPublish :=
  acts.filterMap (Process.Act.published c)

theorem receivedFrom_single (c : Nat) (act : Process.Act) :
    receivedFrom c [act] = (act.published c).toList := by
  rw [receivedFrom, List.filterMap_cons, List.filterMap_nil]
  cases act.published c with
  | none => rfl
  | some packet => rfl

def awaiting (c : Nat) (events : List Event) : List SNPublish := events.filterMap (Event.published c)

def queuedFor (c : Nat) (que : List (Nat × MQTTGWPacket)) : List MQTTGWPacket :=
  (que.filter fun m => m.1 = c && m.2.getType = PUBLISH).map (·.2)

def sentFor (c : Nat) (sent : List Sending) : List MQTTGWPacket :=
  (sent.filter fun m => m.client = c && m.packet.getType = PUBLISH).map (·.packet)

def Client.direct (client : Client) : Bool :=
  client.clientType = .regular || client.clientType = .forwarded

def Proxy.Without (c : Nat) (proxy : Proxy) : Prop :=
  ∀ ev ∈ proxy.suspendedPacketEventQue, ev.published c = none

def Adapter.Without (c : Nat) (adapter : Adapter) : Prop :=
  ∀ channel, (adapter.proxyOf channel).Without c

namespace Process

def forwarded (s : Process) (c : Nat) : List MQTTGWPacket :=
  sentFor c s.sent ++ queuedFor c s.brokerSendQue

structure Orderly (c : Nat) (received : List SNPublish) (s : Process) : Prop where
  direct : (s.task.clients c).direct = true
  plain : ∀ d, (s.task.clients d).isAggregater = false
  suspended : ∀ type, (s.adapters type).Without c
  relayed : ∃ handled, List.Sublist (handled ++ awaiting c s.task.packetEventQue.items) received ∧
    Sifted Translated handled (s.forwarded c)

end Process

section Queues

variable {c : Nat}

theorem awaiting_append (events later : List Event) :
    awaiting c (events ++ later) = awaiting c events ++ awaiting c later := List.filterMap_append

theorem awaiting_nil {events : List Event} (h : ∀ ev ∈ events, ev.published c = none) :
    awaiting c events = [] := List.filterMap_eq_nil_iff.mpr h

theorem awaiting_postAll (que : Que Event) {events : List Event}
    (h : ∀ ev ∈ events, ev.published c = none) :
    awaiting c (que.postAll events).items = awaiting c que.items := by
  have haccepted : (que.accepted events).Sublist events := List.take_sublist _ _
  rw [Fifo.items_postAll, awaiting_append,
    awaiting_nil fun ev hmem => h ev (haccepted.subset hmem), List.append_nil]

theorem awaiting_pop (que : Que Event) :
    List.Sublist (awaiting c que.pop.items) (awaiting c que.items) :=
  (List.tail_sublist _).filterMap _

theorem queuedFor_append (que later : List (Nat × MQTTGWPacket)) :
    queuedFor c (que ++ later) = queuedFor c que ++ queuedFor c later := by
  simp [queuedFor]

theorem queuedFor_own (sent : List MQTTGWPacket) :
    queuedFor c (sent.map fun packet => (c, packet)) = publishesOf sent := by
  simp only [queuedFor, publishesOf, List.filter_map, List.map_map]
  have hid : ((fun m : Nat × MQTTGWPacket => m.2) ∘ fun packet => (c, packet)) = id := rfl
  rw [hid, List.map_id]
  congr 1
  funext packet
  simp

theorem queuedFor_other {d : Nat} (hd : d ≠ c) (sent : List MQTTGWPacket) :
    queuedFor c (sent.map fun packet => (d, packet)) = [] := by
  rw [queuedFor, List.map_eq_nil_iff, List.filter_eq_nil_iff]
  intro m hmem
  obtain ⟨packet, -, rfl⟩ := List.mem_map.mp hmem
  simp [hd]

theorem sentFor_append (sent later : List Sending) :
    sentFor c (sent ++ later) = sentFor c sent ++ sentFor c later := by
  simp [sentFor]

-- a packet keeps its place when it moves from the queue to the network
theorem forwarded_sent (sent : List Sending) (d : Nat) (managed : Option AdapterType)
    (connection : Nat) (packet : MQTTGWPacket) (rest : List (Nat × MQTTGWPacket)) :
    sentFor c (sent ++ [⟨d, managed, connection, packet⟩]) ++ queuedFor c rest =
      sentFor c sent ++ queuedFor c ((d, packet) :: rest) := by
  rw [sentFor_append, List.append_assoc]
  congr 1
  simp only [sentFor, queuedFor, List.filter_cons, List.filter_nil]
  split <;> rfl

end Queues

section Adapters

variable {c : Nat}

theorem Proxy.Without.checkConnection {proxy : Proxy} (h : proxy.Without c) (timeup : Timeup)
    (d : Nat) (client : Client) : (proxy.checkConnection timeup d client).1.Without c := by
  unfold Proxy.checkConnection
  split_ifs
  · exact h
  · exact h
  · exact h

theorem Proxy.checkConnection_published (proxy : Proxy) (timeup : Timeup) (d : Nat)
    (client : Client) : ∀ ev ∈ (proxy.checkConnection timeup d client).2.2, ev.published c = none := by
  intro ev hmem
  unfold Proxy.checkConnection at hmem
  split_ifs at hmem
  · obtain rfl := List.mem_singleton.mp hmem
    rfl
  · obtain rfl := List.mem_singleton.mp hmem
    rfl
  · cases hmem

theorem Proxy.Without.recv {proxy : Proxy} (h : proxy.Without c) (packet : MQTTSNPacket) :
    (proxy.recv packet).1.Without c ∧ ∀ ev ∈ (proxy.recv packet).2, ev.published c = none := by
  cases packet with
  | connack rc =>
    simp only [Proxy.recv]
    split
    · exact ⟨List.forall_mem_nil _, h⟩
    · exact ⟨h, List.forall_mem_nil _⟩
  | pingresp => exact ⟨h, List.forall_mem_nil _⟩
  | _ => exact ⟨h, List.forall_mem_nil _⟩

theorem Adapter.Without.setProxy {adapter : Adapter} (h : adapter.Without c) {proxy : Proxy}
    (hproxy : proxy.Without c) (channel : Channel) : (adapter.setProxy proxy channel).Without c := by
  intro other
  cases channel with
  | plain =>
    cases other with
    | plain => exact hproxy
    | secure => exact h .secure
  | secure =>
    cases other with
    | plain => exact h .plain
    | secure => exact hproxy

theorem Proxy.Without.savePacket {proxy : Proxy} (h : proxy.Without c) {d : Nat} (hd : d ≠ c)
    (packet : MQTTSNPacket) : (proxy.savePacket d packet).Without c := by
  intro ev hmem
  rcases List.mem_append.mp hmem with hmem | hmem
  · exact h ev hmem
  · obtain rfl := List.mem_singleton.mp hmem
    exact published_unconcerned (by simpa [Event.concerns] using hd)

theorem Adapter.Without.savePackets {adapter : Adapter} (h : adapter.Without c) {d : Nat}
    {packets : List MQTTSNPacket} (hd : d = c → packets = []) (secure : Bool) :
    (packets.foldl (fun adapter packet => adapter.savePacket secure d packet) adapter).Without c := by
  induction packets generalizing adapter with
  | nil => exact h
  | cons packet packets ih =>
    have hother : d ≠ c := fun heq => absurd (hd heq) (List.cons_ne_nil _ _)
    refine ih ?_ fun heq => absurd heq hother
    intro channel
    unfold Adapter.savePacket
    cases secure with
    | true =>
      cases channel with
      | plain => exact h .plain
      | secure => exact (h .secure).savePacket hother packet
    | false =>
      cases channel with
      | plain => exact (h .plain).savePacket hother packet
      | secure => exact h .secure

end Adapters

namespace Process.Orderly

variable {cfg : Config} {c : Nat} {received : List SNPublish} {s after : Process}

theorem weaken (h : Orderly c received s)
    (hdirect : (after.task.clients c).direct = true)
    (hplain : ∀ d, (after.task.clients d).isAggregater = false)
    (hsuspended : ∀ type, (after.adapters type).Without c)
    (hawaiting : List.Sublist (awaiting c after.task.packetEventQue.items)
      (awaiting c s.task.packetEventQue.items))
    (hforwarded : List.Sublist (after.forwarded c) (s.forwarded c)) : Orderly c received after where
  direct := hdirect
  plain := hplain
  suspended := hsuspended
  relayed := by
    obtain ⟨handled, hsub, hsifted⟩ := h.relayed
    exact ⟨handled, ((List.Sublist.refl handled).append hawaiting).trans hsub,
      hsifted.fewer hforwarded⟩

theorem crash (h : Orderly c received s) : Orderly c received s.crash :=
  h.weaken h.direct h.plain h.suspended (.refl _) (.refl _)

theorem post (h : Orderly c received s) {events : List Event}
    (hnone : ∀ ev ∈ events, ev.published c = none) : Orderly c received (s.post events) := by
  refine h.weaken h.direct h.plain h.suspended ?_ (.refl _)
  rw [Process.post, awaiting_postAll _ hnone]

theorem arrive (h : Orderly c received s) (ev : Event) :
    Orderly c (received ++ (ev.published c).toList) (s.post [ev]) where
  direct := h.direct
  plain := h.plain
  suspended := h.suspended
  relayed := by
    obtain ⟨handled, hsub, hsifted⟩ := h.relayed
    refine ⟨handled, ?_, hsifted⟩
    have haccepted : (s.task.packetEventQue.accepted [ev]).Sublist [ev] := List.take_sublist _ _
    have hone : awaiting c [ev] = (ev.published c).toList := by
      rw [awaiting, List.filterMap_cons, List.filterMap_nil]
      cases ev.published c with
      | none => rfl
      | some packet => rfl
    simp only [Process.post, Fifo.items_postAll, awaiting_append, ← List.append_assoc]
    rw [← hone]
    exact hsub.append (haccepted.filterMap _)

theorem later (h : Orderly c received s) (more : List SNPublish) :
    Orderly c (received ++ more) s where
  direct := h.direct
  plain := h.plain
  suspended := h.suspended
  relayed := by
    obtain ⟨handled, hsub, hsifted⟩ := h.relayed
    exact ⟨handled, hsub.trans (List.sublist_append_left _ _), hsifted⟩

theorem setClient (h : Orderly c received s) {d : Nat} {client : Client}
    (hdirect : (s.task.clients d).direct = true → client.direct = true)
    (hplain : (s.task.clients d).isAggregater = false → client.isAggregater = false) :
    Orderly c received (s.setClient d client) := by
  refine h.weaken ?_ ?_ h.suspended (.refl _) (.refl _)
  · exact update_related (R := fun before after => before.direct = true → after.direct = true)
      (fun _ => id) hdirect c h.direct
  · intro e
    exact update_related (R := fun before after => before.isAggregater = false →
      after.isAggregater = false) (fun _ => id) hplain e (h.plain e)

theorem setClient_same (h : Orderly c received s) {d : Nat} {client : Client}
    (hidentity : client.identity = (s.task.clients d).identity) :
    Orderly c received (s.setClient d client) := by
  have htype : client.clientType = (s.task.clients d).clientType := congrArg Prod.fst hidentity
  refine h.setClient ?_ ?_
  · simp only [Client.direct, htype]
    exact id
  · simp only [Client.isAggregater, htype]
    exact id

theorem setAdapter (h : Orderly c received s) {type : AdapterType} {adapter : Adapter}
    (hadapter : adapter.Without c) : Orderly c received (s.setAdapter type adapter) :=
  h.weaken h.direct h.plain
    ((Function.forall_update_iff s.adapters fun _ adapter => adapter.Without c).mpr
      ⟨hadapter, fun type _ => h.suspended type⟩) (.refl _) (.refl _)

theorem checkProxy (h : Orderly c received s) (type : AdapterType) (timeup : Timeup)
    (channel : Channel) : Orderly c received (Process.checkProxy s type timeup channel) := by
  simp only [Process.checkProxy]
  split
  · exact h.crash
  · refine ((h.setClient_same ?_).setAdapter ?_).post ?_
    · exact (Proxy.checkConnection_stands _ _ _ _).identity
    · exact (h.suspended type).setProxy ((h.suspended type channel).checkConnection _ _ _) channel
    · exact Proxy.checkConnection_published _ _ _ _

theorem checkAdapter (h : Orderly c received s) (timeup : AdapterType → Channel → Timeup)
    (type : AdapterType) : Orderly c received (Process.checkAdapter s timeup type) := by
  simp only [Process.checkAdapter]
  split
  · exact (h.checkProxy type _ _).checkProxy type _ _
  · exact h.checkProxy type _ _

theorem checkConnection (h : Orderly c received s) (cfg : Config)
    (timeup : AdapterType → Channel → Timeup) :
    Orderly c received (Process.checkConnection cfg s timeup) := by
  have haggregater : Orderly c received
      (if cfg.gw.aggregaterActive then Process.checkAdapter s timeup .aggregater else s) := by
    split
    · exact h.checkAdapter timeup _
    · exact h
  simp only [Process.checkConnection]
  split
  · exact haggregater.checkAdapter timeup _
  · exact haggregater

theorem brokerRecv (h : Orderly c received s) (cfg : Config) (d : Nat) (reading : Reading) :
    Orderly c received (BrokerRecvTask.run cfg s d reading) := by
  have hnone : ∀ packet, ∀ ev ∈ [Event.brokerRecv d packet], ev.published c = none := by
    intro packet ev hmem
    obtain rfl := List.mem_singleton.mp hmem
    rfl
  unfold BrokerRecvTask.run
  split
  · exact h
  cases reading with
  | packet packet =>
    simp only [BrokerRecvTask.receive]
    split
    · exact h.post (hnone packet)
    · exact h
  | disconnected =>
    simp only [BrokerRecvTask.receive, BrokerRecvTask.erase]
    split
    · exact h.weaken h.direct h.plain h.suspended (.refl _) (.refl _)
    · exact h.weaken h.direct h.plain h.suspended (.refl _) (.refl _)
  | failed =>
    simp only [BrokerRecvTask.receive]
    split
    · exact h.post (hnone _)
    · exact h
  | noMemory => exact h

theorem unicast (h : Orderly c received s) (cfg : Config) (d : Nat) (packet : MQTTSNPacket) :
    Orderly c received (ClientSendTask.unicastToClient cfg s d packet) := by
  unfold ClientSendTask.unicastToClient
  split
  · exact h
  · rename_i type _
    split
    · exact h
    · rename_i channel _
      obtain ⟨hkept, hevents⟩ := (h.suspended type channel).recv packet
      have hadapter : ((s.adapters type).recv packet channel).1.Without c :=
        (h.suspended type).setProxy hkept channel
      have hset : Orderly c received
          (s.setAdapter type ((s.adapters type).recv packet channel).1) := h.setAdapter hadapter
      have hposted := hset.post hevents
      exact hposted.weaken hposted.direct hposted.plain hposted.suspended (.refl _) (.refl _)

theorem clientSend (h : Orderly c received s) (cfg : Config) :
    Orderly c received (ClientSendTask.run cfg s) := by
  unfold ClientSendTask.run
  split
  · exact h
  split
  · exact h.crash
  · refine unicast ?_ cfg _ _
    exact h.weaken h.direct h.plain h.suspended (.refl _) (.refl _)

theorem brokerSend (h : Orderly c received s) (cfg : Config) (attempt : Attempt) :
    Orderly c received (BrokerSendTask.run cfg s attempt) := by
  unfold BrokerSendTask.run
  split
  · exact h
  rename_i d packet rest hque
  simp only
  split
  · exact h.crash
  have hdropped : Orderly c received { s with brokerSendQue := rest } := by
    refine h.weaken h.direct h.plain h.suspended (.refl _) ?_
    refine List.Sublist.append_left ?_ _
    rw [hque]
    exact (((List.sublist_cons_self _ _).filter _).map _)
  generalize BrokerSendTask.getClient cfg s d = connection
  cases BrokerSendTask.exchange packet (s.network connection) attempt with
  | refused => exact hdropped.weaken hdropped.direct hdropped.plain hdropped.suspended (.refl _) (.refl _)
  | broken =>
    refine post (s := Process.setNetwork _ _ _) ?_ ?_
    · exact hdropped.weaken hdropped.direct hdropped.plain hdropped.suspended (.refl _) (.refl _)
    · intro ev hmem
      obtain rfl := List.mem_singleton.mp hmem
      rfl
  | sent =>
    have hsent : Orderly c received { { s with brokerSendQue := rest }.setNetwork connection
        .established with
        sent := s.sent ++ [⟨d, (s.task.clients d).managedBy, connection, packet⟩] } := by
      refine h.weaken h.direct h.plain h.suspended (.refl _) ?_
      have hmoved := forwarded_sent (c := c) s.sent d (s.task.clients d).managedBy connection packet
        rest
      rw [← hque] at hmoved
      change List.Sublist (sentFor c (s.sent ++ [⟨d, _, connection, packet⟩]) ++ queuedFor c rest)
        (sentFor c s.sent ++ queuedFor c s.brokerSendQue)
      rw [hmoved]
    simp only [BrokerSendTask.conclude]
    split
    · exact hsent.setClient_same rfl
    · exact hsent

theorem dispatch (h : Orderly c received s) {ids : MessageIds} {ev : Event} {rest : List Event}
    {target : Nat} {handled : Handled} (hoff : cfg.gw.aggregaterActive = false)
    (hitems : s.task.packetEventQue.items = ev :: rest)
    (hresult : handleEvent cfg.gw ids s.task.clients ev = .done target handled) :
    Orderly c received (Process.dispatch cfg { s with task := finish s.task (.done target handled) }
      target handled) := by
  have hconcerns := handleEvent_target h.plain hresult c
  have hupstream : (target = c → handled.suspended = []) ∧
      Sifted Translated (ev.published c).toList
        (queuedFor c (handled.brokerSend.map fun packet => (target, packet))) := by
    by_cases htarget : target = c
    · subst htarget
      have hqosm1 : (s.task.clients target).isQoSm1 = false := by
        have hdirect := h.direct
        simp only [Client.direct, Bool.or_eq_true, decide_eq_true_eq] at hdirect
        rcases hdirect with htype | htype
        · simp [Client.isQoSm1, htype]
        · simp [Client.isQoSm1, htype]
      have hanswer := handleEvent_upstream hoff h.plain hqosm1 hresult
      exact ⟨fun _ => hanswer.suspended, by rw [queuedFor_own]; exact hanswer.sifted⟩
    · rw [queuedFor_other htarget]
      exact ⟨fun heq => absurd heq htarget, .nil _⟩
  have hclients := h.setClient_same (handleEvent_identity hresult)
  refine ⟨hclients.direct, hclients.plain, ?_, ?_⟩
  · refine (Function.forall_update_iff s.adapters fun _ adapter => adapter.Without c).mpr
      ⟨(h.suspended _).savePackets hupstream.1 _, fun type _ => h.suspended type⟩
  · obtain ⟨done, hsub, hsifted⟩ := h.relayed
    refine ⟨done ++ (ev.published c).toList, ?_, ?_⟩
    · have hqueue : awaiting c (apply (take s.task) target handled).packetEventQue.items =
          awaiting c rest := by
        simp only [apply]
        rw [awaiting_postAll, take_items hitems]
        intro later hmem
        obtain ⟨packet, -, rfl⟩ := List.mem_map.mp hmem
        rfl
      have hawaited : awaiting c s.task.packetEventQue.items =
          (ev.published c).toList ++ awaiting c rest := by
        rw [hitems, awaiting, List.filterMap_cons, awaiting]
        cases ev.published c with
        | none => rfl
        | some packet => rfl
      rw [hawaited, ← List.append_assoc] at hsub
      change List.Sublist (_ ++ awaiting c (apply (take s.task) target handled).packetEventQue.items) _
      rwa [hqueue]
    · change Sifted Translated _ (sentFor c s.sent ++ queuedFor c (s.brokerSendQue ++ _))
      rw [queuedFor_append, ← List.append_assoc]
      exact hsifted.append hupstream.2

theorem packetHandle (h : Orderly c received s) (hoff : cfg.gw.aggregaterActive = false)
    (ids : MessageIds) : Orderly c received (Process.packetHandle cfg s ids) := by
  cases hitems : s.task.packetEventQue.items with
  | nil =>
    rw [Process.packetHandle, hitems]
    exact h
  | cons ev rest =>
    rw [Process.packetHandle, hitems]
    simp only
    split
    · exact h.crash
    cases hresult : handleEvent cfg.gw ids s.task.clients ev with
    | nothing =>
      exact h.weaken h.direct h.plain h.suspended (awaiting_pop _) (.refl _)
    | fault => exact h.weaken h.direct h.plain h.suspended (.refl _) (.refl _)
    | done target handled =>
      simp only [Process.conclude]
      split
      · exact h.crash
      · exact h.dispatch hoff hitems hresult

theorem step (h : Orderly c received s) (hoff : cfg.gw.aggregaterActive = false) (act : Process.Act) :
    Orderly c (received ++ receivedFrom c [act]) (Process.step cfg s act) := by
  rw [receivedFrom_single]
  unfold Process.step
  split
  · exact h.later _
  cases act with
  | searchgw =>
    refine (h.post ?_).later []
    intro ev hmem
    obtain rfl := List.mem_singleton.mp hmem
    rfl
  | clientRecv d packet =>
    simp only
    split
    · exact h.later _
    · exact h.arrive _
  | setForwarder d =>
    simp only
    split
    · exact h.later []
    · exact (h.setClient (fun _ => rfl) (fun _ => rfl)).later []
  | brokerRecv d reading => exact (h.brokerRecv cfg d reading).later []
  | packetHandle ids => exact (h.packetHandle hoff ids).later []
  | checkConnection timeup =>
    simp only
    split
    · exact (h.checkConnection cfg timeup).later []
    · exact h.later []
  | brokerSend attempt => exact (h.brokerSend cfg attempt).later []
  | clientSend => exact (h.clientSend cfg).later []

end Process.Orderly

namespace Process

theorem run_orderly {cfg : Config} (hoff : cfg.gw.aggregaterActive = false) {c : Nat} {s : Process}
    (h : Orderly c [] s) (acts : List Act) :
    Orderly c (receivedFrom c acts) (run cfg s acts) := by
  have hsteps : Steps (step cfg) (fun _ _ => True) s acts := Steps.of_forall fun _ _ => trivial
  refine hsteps.history (I := fun acts s => Orderly c (receivedFrom c acts) s) ?_ h
  intro acts act _ horderly
  rw [receivedFrom, List.filterMap_append]
  exact horderly.step hoff act

theorem upstream_in_order {cfg : Config} (hoff : cfg.gw.aggregaterActive = false)
    {clients : Nat → Client} (hplain : ∀ d, (clients d).isAggregater = false) {c : Nat}
    (hdirect : (clients c).direct = true) (hasSecureConnection : Bool)
    (client clientSecure : AdapterType → Nat) (acts : List Act) :
    Sifted Translated (receivedFrom c acts)
      (sentFor c (run cfg (initial clients fun type =>
        .setup hasSecureConnection (client type) (clientSecure type)) acts).sent) := by
  have hstart : Orderly c [] (initial clients fun type =>
      .setup hasSecureConnection (client type) (clientSecure type)) := by
    refine ⟨hdirect, hplain, fun type channel => ?_, [], .refl _, .nil _⟩
    cases channel with
    | plain => exact List.forall_mem_nil _
    | secure => exact List.forall_mem_nil _
  obtain ⟨handled, hsub, hsifted⟩ := (run_orderly hoff hstart acts).relayed
  exact (hsifted.of_sublist ((List.sublist_append_left _ _).trans hsub)).fewer
    (List.sublist_append_left _ _)

def shortPublish (payload : UInt8) : MQTTSNPacket :=
  .publish (some ⟨false, .QOS0, false, 0, ⟨.short, .shortName 0x61 0x62⟩, [payload]⟩)

-- the second PUBLISH meets a broker that does not take it
def threePublishes : List Act :=
  [.clientRecv 0 (shortPublish 1), .clientRecv 1 (shortPublish 9), .clientRecv 0 (shortPublish 2),
    .packetHandle noIds, .packetHandle noIds, .brokerSend ⟨true, true⟩, .brokerSend ⟨true, true⟩,
    .packetHandle noIds, .clientRecv 0 (shortPublish 3), .brokerSend ⟨true, false⟩,
    .packetHandle noIds, .brokerSend ⟨true, true⟩]

theorem upstream_in_order_three :
    (sentFor 0 (run plainConfig (initial freshClients fun _ => .setup false 8 9)
      threePublishes).sent).length = 2 ∧
    Sifted Translated (receivedFrom 0 threePublishes)
      (sentFor 0 (run plainConfig (initial freshClients fun _ => .setup false 8 9)
        threePublishes).sent) :=
  ⟨by decide +kernel, upstream_in_order rfl (fun _ => rfl) rfl false (fun _ => 8) (fun _ => 9) _⟩

end Process

end MbedMqtt.MQTTSNGW
