import MbedMqtt.Network.Datagram
import MbedMqtt.SNClient.State

namespace MbedMqtt.MQTTSN

open MQTTSNGW

class DatagramNetwork (σ : Type) extends Network σ where
  read_le : ∀ s n, (read s n).1.rc ≤ n

instance {σ : Type} [SocketType σ] : DatagramNetwork (MQTTNetworkMbedOs σ) where
  read_le n len := by
    rcases (n.read_accumulated len).rc with ⟨hrc, -⟩ | hrc
    · exact hrc.le
    · exact hrc.trans (Int.natCast_nonneg len)

instance : DatagramNetwork UdpSocket where
  read s n := (⟨(s.recv n).1, (s.recv n).2.1⟩, (s.recv n).2.2)
  write := UdpSocket.send
  read_length := UdpSocket.recv_length
  read_le := UdpSocket.recv_le

def World.answered (datagrams : List Bytes) (ticks : Nat) : World UdpSocket Bool :=
  ⟨⟨datagrams.map .datagram, []⟩, List.replicate ticks false, [], []⟩

variable {σ τ κ : Type} [DatagramNetwork σ] [Timer τ κ]

-- every write offers `length` bytes, however many are sent: the ones behind `sendbuf` are `readbuf`'s
def sendLoop (timer : τ) (memory : Bytes) (length : Nat) :
    Nat → Nat → World σ κ → Nat × World σ κ
  | 0, sent, w => (sent, w)
  | fuel + 1, sent, w =>
      if sent < length then
        if w.expired timer then (sent, w.tick)
        else
          let (rc, net) := Network.write w.net ((memory.drop sent).take length)
          let w := { w.tick with net := net }
          if rc < 0 then (sent, w) else sendLoop timer memory length fuel (sent + rc.toNat) w
      else (sent, w)

def sendPacket (c : Client τ) (w : World σ κ) (length : Nat) (timer : τ) : Outcome σ τ κ :=
  let packet := c.sendbuf.take length
  let (sent, w) := sendLoop timer (c.sendbuf ++ c.readbuf) length (w.clock.length + 1) 0 w
  if sent = length then
    if 0 < c.duration then
      { rc := SUCCESS
        client := { c with lastSent := w.countdown c.duration }
        world := w.tick.record [.sent packet] }
    else ⟨SUCCESS, c, w.record [.sent packet]⟩
  else ⟨FAILURE, c, w.record [.unsent packet]⟩

def readPacket (cfg : Config) (c : Client τ) (w : World σ κ) : Outcome σ τ κ :=
  let (r, net) := Network.read w.net cfg.maxPacketSize
  let c := c.fillReadbuf r.bytes
  let w := { w with net := net }
  if r.rc < MQTTSN_MIN_PACKET_LENGTH then ⟨FAILURE, c, w⟩
  else
    let length := (packetDecode r.rc 0).value (c.memory cfg)
    if length.value ≠ r.rc then ⟨FAILURE, c, w⟩
    else
      let type := c.memory cfg length.lenlen
      let w := w.record [.received type (c.readbuf.take r.rc.toNat)]
      if 0 < c.duration then
        { rc := type.toNat
          client := { c with lastReceived := w.countdown c.duration }
          world := w.tick }
      else ⟨type.toNat, c, w⟩

structure Arrived (cfg : Config) (c : Client τ) (type : UInt8) (packet : Bytes) : Prop where
  held : ∃ tail, c.readbuf = packet ++ tail
  size : packet.length ≤ cfg.maxPacketSize
  lenlen : lengthFieldSize (c.memory cfg) ≤ packet.length
  field : lengthField (c.memory cfg) = packet.length
  type : c.memory cfg (lengthFieldSize (c.memory cfg)) = type

omit [Timer τ κ] in
theorem Arrived.congr {cfg : Config} {c c' : Client τ} {type : UInt8} {packet : Bytes}
    (h : Arrived cfg c type packet) (hbuf : c'.readbuf = c.readbuf) :
    Arrived cfg c' type packet := by
  have hmem := Client.memory_congr cfg hbuf
  exact ⟨hbuf ▸ h.held, h.size, hmem ▸ h.lenlen, hmem ▸ h.field, hmem ▸ h.type⟩

structure Sends (c : Client τ) (w : World σ κ) (length : Nat) (r : Outcome σ τ κ) : Prop where
  client : ∃ t, r.client = { c with lastSent := t }
  quiet : ∃ events, r.world.log = w.log ++ events ∧ heard events = []
  rc : r.rc = SUCCESS ∨ r.rc = FAILURE

theorem sendLoop_log (timer : τ) (memory : Bytes) (length fuel sent : Nat) (w : World σ κ) :
    (sendLoop timer memory length fuel sent w).2.log = w.log := by
  induction fuel generalizing sent w with
  | zero => rfl
  | succ fuel ih =>
    simp only [sendLoop]
    split_ifs
    · rfl
    · rfl
    · rw [ih]
      rfl
    · rfl

theorem sendLoop_clock (timer : τ) (memory : Bytes) (length fuel sent : Nat) (w : World σ κ) :
    (sendLoop timer memory length fuel sent w).2.clock.length ≤ w.clock.length := by
  have htick : w.tick.clock.length ≤ w.clock.length := by simp [World.tick]
  induction fuel generalizing sent w with
  | zero => exact le_rfl
  | succ fuel ih =>
    simp only [sendLoop]
    split_ifs
    · exact htick
    · exact htick
    · exact (ih _ _ (by simp [World.tick])).trans htick
    · exact le_rfl

omit [DatagramNetwork σ] in
theorem tick_clock_lt {w : World σ κ} {timer : τ} (h : ¬w.expired timer = true) :
    w.tick.clock.length < w.clock.length := by
  cases hw : w.clock with
  | nil => simp [World.expired, hw] at h
  | cons now rest => simp [World.tick, hw]

theorem sendLoop_fuel (timer : τ) (memory : Bytes) (length : Nat) {fuel fuel' : Nat} (sent : Nat)
    (w : World σ κ) (h : w.clock.length < fuel) (h' : w.clock.length < fuel') :
    sendLoop timer memory length fuel sent w = sendLoop timer memory length fuel' sent w := by
  induction fuel generalizing fuel' sent w with
  | zero => omega
  | succ fuel ih =>
    obtain ⟨fuel', rfl⟩ : ∃ k, fuel' = k + 1 := ⟨fuel' - 1, by omega⟩
    simp only [sendLoop]
    split_ifs with hless hexpired
    · rfl
    · rfl
    · have htick := tick_clock_lt hexpired
      exact ih _ _ (by simp only; omega) (by simp only; omega)
    · rfl

theorem sendPacket_sends (c : Client τ) (w : World σ κ) (length : Nat) (timer : τ) :
    Sends c w length (sendPacket c w length timer) := by
  have hlog := sendLoop_log timer (c.sendbuf ++ c.readbuf) length (w.clock.length + 1) 0 w
  simp only [sendPacket]
  split_ifs
  · exact ⟨⟨_, rfl⟩, ⟨_, congrArg (· ++ _) hlog, rfl⟩, .inl rfl⟩
  · exact ⟨⟨c.lastSent, rfl⟩, ⟨_, congrArg (· ++ _) hlog, rfl⟩, .inl rfl⟩
  · exact ⟨⟨c.lastSent, rfl⟩, ⟨_, congrArg (· ++ _) hlog, rfl⟩, .inr rfl⟩

theorem sendPacket_clock (c : Client τ) (w : World σ κ) (length : Nat) (timer : τ) :
    (sendPacket c w length timer).world.clock.length ≤ w.clock.length := by
  have hclock := sendLoop_clock timer (c.sendbuf ++ c.readbuf) length (w.clock.length + 1) 0 w
  simp only [sendPacket]
  split_ifs
  · simp only [World.record, World.tick, List.length_tail]
    omega
  · exact hclock
  · exact hclock

inductive Reads (cfg : Config) (w : World σ κ) (r : Outcome σ τ κ) : Prop
  | nothing (hrc : r.rc = FAILURE) (hlog : r.world.log = w.log)
  | packet {type : UInt8} {packet : Bytes} (hrc : r.rc = type.toNat)
      (hlog : r.world.log = w.log ++ [.received type packet])
      (harrived : Arrived cfg r.client type packet)

omit [DatagramNetwork σ] [Timer τ κ] in
theorem decoded_arrived {cfg : Config} {c : Client τ} {bytes tail : Bytes} {rc : Int}
    (hbuf : c.readbuf = bytes ++ tail) (hlen : (bytes.length : Int) = rc)
    (hsize : rc ≤ cfg.maxPacketSize) (hmin : 2 ≤ rc)
    (hvalue : ((packetDecode rc 0).value (c.memory cfg)).value = rc) :
    ((packetDecode rc 0).value (c.memory cfg)).lenlen = lengthFieldSize (c.memory cfg) ∧
      Arrived cfg c (c.memory cfg (lengthFieldSize (c.memory cfg))) bytes := by
  have hfield : lengthFieldSize (c.memory cfg) ≤ rc := by
    by_contra hshort
    rw [lengthFieldSize] at hshort
    split_ifs at hshort with hone
    · rw [packetDecode_error (by omega) (by omega) hone] at hvalue
      simp only at hvalue
      omega
    · omega
  rw [packetDecode_value hfield] at hvalue ⊢
  exact ⟨rfl, ⟨tail, hbuf⟩, by omega, by omega, by rw [hlen]; exact hvalue, rfl⟩

theorem readPacket_reads (cfg : Config) (c : Client τ) (w : World σ κ) :
    Reads cfg w (readPacket cfg c w) := by
  have hle := DatagramNetwork.read_le w.net cfg.maxPacketSize
  have hlength := Network.read_length w.net cfg.maxPacketSize
  unfold readPacket
  generalize Network.read w.net cfg.maxPacketSize = answer at hle hlength ⊢
  obtain ⟨⟨rc, bytes⟩, net⟩ := answer
  simp only at hle hlength ⊢
  split_ifs with hmin hvalue hduration
  · exact .nothing rfl rfl
  · exact .nothing rfl rfl
  all_goals
    have hrc : 2 ≤ rc := Int.not_lt.mp hmin
    have hbytes : (bytes.length : Int) = rc := hlength (by omega)
    have hbuf : (c.fillReadbuf bytes).readbuf = bytes ++ c.readbuf.drop bytes.length :=
      store_zero c.readbuf bytes
    obtain ⟨hlenlen, harrived⟩ := decoded_arrived hbuf hbytes hle hrc (not_not.mp hvalue)
    have htake : (c.fillReadbuf bytes).readbuf.take rc.toNat = bytes := by
      rw [hbuf, ← hbytes, Int.toNat_natCast, List.take_left]
    rw [hlenlen, htake]
  · exact .packet rfl rfl (harrived.congr rfl)
  · exact .packet rfl rfl harrived

theorem readPacket_session (cfg : Config) (c : Client τ) (w : World σ κ) :
    (readPacket cfg c w).client.toSession = c.toSession := by
  simp only [readPacket]
  split_ifs <;> rfl

theorem readPacket_clock (cfg : Config) (c : Client τ) (w : World σ κ) :
    (readPacket cfg c w).world.clock.length ≤ w.clock.length := by
  simp only [readPacket]
  split_ifs
  · exact le_rfl
  · exact le_rfl
  · simp [World.tick, World.record]
  · exact le_rfl

end MbedMqtt.MQTTSN
