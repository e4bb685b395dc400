import MbedMqtt.Client.Transport
import MbedMqtt.Network.Socket
import MbedMqtt.Network.Script

namespace MbedMqtt

structure Packet where
  header : UInt8
  body : Bytes
  typed : headerType header ≠ 0
  bounded : body.length < 268435456

def Packet.bytes (p : Packet) : Bytes := framed p.header p.body

def Socket.Chunked (s : Socket) : Prop := ∀ r ∈ s.recvs, ∃ size, r = RecvAnswer.chunk size

theorem accumulateMqttRead_chunked {s : Socket} (hs : s.Chunked) {bytes rest : Bytes}
    (hstream : s.stream = bytes ++ rest) :
    ∃ s', s'.Chunked ∧ s'.stream = rest ∧
      accumulateMqttRead s bytes.length = (⟨bytes.length, bytes⟩, s') := by
  obtain ⟨recvs, hrecvs, heq⟩ := accumulateLoop_chunks bytes.length bytes.length bytes.length [] s
    hs le_rfl (by rw [hstream, List.length_append]; omega)
  refine ⟨{ s with stream := s.stream.drop bytes.length, recvs := recvs }, hrecvs, ?_, ?_⟩
  · simp [hstream]
  · rw [accumulateMqttRead, heq]
    simp [hstream]

theorem netchar_feeds {s : Socket} (hs : s.Chunked) {bytes rest : Bytes}
    (hstream : s.stream = bytes ++ rest) :
    ∃ s' : Socket, s'.Chunked ∧ s'.stream = rest ∧ Base128.Feeds netchar bytes s s' := by
  induction bytes generalizing s with
  | nil => exact ⟨s, hs, hstream, .nil s⟩
  | cons b bytes ih =>
    have hstream' : s.stream = [b] ++ (bytes ++ rest) := hstream
    obtain ⟨s₁, hs₁, hstream₁, hread⟩ := accumulateMqttRead_chunked hs hstream'
    obtain ⟨s₂, hs₂, hstream₂, hfeeds⟩ := ih hs₁ hstream₁
    have hnet : Network.read s 1 = (⟨1, [b]⟩, s₁) := hread
    exact ⟨s₂, hs₂, hstream₂, .cons (by simp [netchar, hnet]) hfeeds⟩

theorem readBody_chunked {s : Socket} (hs : s.Chunked) {body rest : Bytes}
    (hstream : s.stream = body ++ rest) :
    ∃ s', s'.Chunked ∧ s'.stream = rest ∧
      readBody s body.length = (⟨body.length, body⟩, s') := by
  cases body with
  | nil => exact ⟨s, hs, hstream, rfl⟩
  | cons b body =>
    obtain ⟨s', hs', hstream', hread⟩ := accumulateMqttRead_chunked hs hstream
    refine ⟨s', hs', hstream', ?_⟩
    rw [readBody, if_pos (by simp)]
    exact hread

variable {τ κ : Type} [Timer τ κ]

theorem readPacket_chunked {cfg : Config} (c : Client τ) {w : World Socket τ κ}
    (hs : w.net.Chunked) {p : Packet} {rest : Bytes} (hstream : w.net.stream = p.bytes ++ rest)
    (hfit : p.bytes.length ≤ cfg.maxPacketSize) :
    ∃ net : Socket, net.Chunked ∧ net.stream = rest ∧
      readPacket cfg c w = received c { w with net := net } p.header p.body := by
  have hsplit : w.net.stream = [p.header] ++ (packetEncode p.body.length ++ (p.body ++ rest)) := by
    rw [hstream, Packet.bytes, framed]
    simp
  obtain ⟨s₁, hs₁, hstream₁, hheader⟩ := accumulateMqttRead_chunked hs hsplit
  obtain ⟨s₂, hs₂, hstream₂, hfeeds⟩ := netchar_feeds hs₁ hstream₁
  obtain ⟨s₃, hs₃, hstream₃, hbody⟩ := readBody_chunked hs₂ hstream₂
  have hlength := packetDecode_encode p.bounded hfeeds
  exact ⟨s₃, hs₃, hstream₃, readPacket_received hheader hlength hfit hbody⟩

def readPackets (cfg : Config) : Nat → Client τ → World Socket τ κ → List (Outcome Socket τ κ)
  | 0, _, _ => []
  | n + 1, c, w =>
      let r := readPacket cfg c w
      r :: readPackets cfg n r.client r.world

inductive ReadInOrder : List Packet → Bytes → List (Outcome Socket τ κ) → Prop
  | done (rest : Bytes) : ReadInOrder [] rest []
  | next {p : Packet} {ps : List Packet} {rest : Bytes} {r : Outcome Socket τ κ}
      {rs : List (Outcome Socket τ κ)} (hrc : r.rc = headerType p.header)
      (hbuf : p.bytes <+: r.client.readbuf)
      (hstream : r.world.net.stream = ps.flatMap Packet.bytes ++ rest)
      (hrest : ReadInOrder ps rest rs) : ReadInOrder (p :: ps) rest (r :: rs)

theorem received_boundary (c : Client τ) (w : World Socket τ κ) (p : Packet) :
    (received c w p.header p.body).rc = headerType p.header ∧
      p.bytes <+: (received c w p.header p.body).client.readbuf ∧
      (received c w p.header p.body).world.net = w.net := by
  unfold received
  simp only
  split
  · exact ⟨rfl, ⟨_, rfl⟩, rfl⟩
  · exact ⟨rfl, ⟨_, rfl⟩, rfl⟩

theorem readPackets_in_order (cfg : Config) (packets : List Packet) (rest : Bytes) (c : Client τ)
    (w : World Socket τ κ) (hfit : ∀ p ∈ packets, p.bytes.length ≤ cfg.maxPacketSize)
    (hchunked : w.net.Chunked) (hstream : w.net.stream = packets.flatMap Packet.bytes ++ rest) :
    ReadInOrder packets rest (readPackets cfg packets.length c w) := by
  induction packets generalizing c w with
  | nil => exact .done rest
  | cons p ps ih =>
    rw [List.flatMap_cons, List.append_assoc] at hstream
    obtain ⟨net, hnet, hnext, hread⟩ := readPacket_chunked c hchunked hstream
      (hfit p List.mem_cons_self)
    obtain ⟨hrc, hbuf, hworld⟩ := received_boundary c { w with net := net } p
    rw [← hread] at hrc hbuf hworld
    have hnext' : (readPacket cfg c w).world.net.stream = ps.flatMap Packet.bytes ++ rest := by
      rw [hworld]
      exact hnext
    have hnet' : (readPacket cfg c w).world.net.Chunked := by
      rw [hworld]
      exact hnet
    exact .next hrc hbuf hnext' (ih _ _ (fun q hq => hfit q (List.mem_cons_of_mem p hq)) hnet' hnext')

def pingresp : Packet := ⟨208, [], by decide, by decide⟩

def puback : Packet := ⟨64, [0, 7], by decide, by decide⟩

theorem readPackets_split_chunks :
    ReadInOrder [puback, pingresp] [48] (readPackets (.standard .qos1) 2
      (.construct (.standard .qos1) 30000 OracleTimer.oracle)
      ⟨⟨[64, 2, 0, 7, 208, 0, 48], [.chunk 1, .chunk 1, .chunk 1], []⟩, [], [], .oracle, []⟩) :=
  readPackets_in_order (.standard .qos1) [puback, pingresp] [48] _ _ (by decide)
    (by intro r hr; simp at hr; exact ⟨1, hr⟩) rfl

end MbedMqtt
