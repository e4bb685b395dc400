import MbedMqtt.Network.Script
import MbedMqtt.SNClient.Wait

namespace MbedMqtt.MQTTSN

open MQTTSNGW

variable {τ κ : Type} [Timer τ κ]

def messageType (datagram : Bytes) : UInt8 :=
  memoryOf 0 datagram (lengthFieldSize (memoryOf 0 datagram))

structure WellFormed (cfg : Config) (datagram : Bytes) : Prop where
  min : 2 ≤ datagram.length
  max : datagram.length ≤ cfg.maxPacketSize
  field : lengthField (memoryOf 0 datagram) = datagram.length
  type : lengthFieldSize (memoryOf 0 datagram) < datagram.length

instance (cfg : Config) (datagram : Bytes) : Decidable (WellFormed cfg datagram) :=
  decidable_of_iff
    (2 ≤ datagram.length ∧ datagram.length ≤ cfg.maxPacketSize ∧
      lengthField (memoryOf 0 datagram) = datagram.length ∧
      lengthFieldSize (memoryOf 0 datagram) < datagram.length)
    ⟨fun ⟨h₁, h₂, h₃, h₄⟩ => ⟨h₁, h₂, h₃, h₄⟩, fun ⟨h₁, h₂, h₃, h₄⟩ => ⟨h₁, h₂, h₃, h₄⟩⟩

-- one call of `readPacket` for each datagram
def Delivers (cfg : Config) :
    List Bytes → Client τ → World (MQTTNetworkMbedOs UdpSocket) κ → Prop
  | [], _, _ => True
  | datagram :: rest, c, w =>
      (readPacket cfg c w).rc = (messageType datagram).toNat ∧
        (readPacket cfg c w).client.readbuf.take datagram.length = datagram ∧
        Delivers cfg rest (readPacket cfg c w).client (readPacket cfg c w).world

section Read

variable {cfg : Config} {datagram : Bytes} (later : List UdpAnswer) (sends : List Int)

omit [Timer τ κ] in
theorem lengthField_agree {mem : Int → UInt8} (h : LaidOut mem 0 datagram)
    (hwell : WellFormed cfg datagram) :
    lengthFieldSize mem = lengthFieldSize (memoryOf 0 datagram) ∧
      lengthField mem = datagram.length := by
  have hmin := hwell.min
  have htype := hwell.type
  have hsize := lengthFieldSize_agree h (by omega)
  refine ⟨hsize, ?_⟩
  have hzero := laidOut_agree h le_rfl (by omega)
  rw [← hwell.field, lengthField, lengthField, hzero]
  rw [lengthFieldSize] at htype
  split_ifs at htype ⊢ with hone
  · have hhigh := laidOut_agree h (by decide : (0 : Int) ≤ 1) (by omega)
    have hlow := laidOut_agree h (by decide : (0 : Int) ≤ 1 + 1) (by omega)
    simp only [readInt, Fetch.value_bind, Fetch.value_item, Fetch.value_pure, hhigh, hlow]
  · rfl

theorem read_full (h : WellFormed cfg datagram) (hfull : datagram.length = cfg.maxPacketSize) :
    Network.read (⟨⟨.datagram datagram :: later, sends⟩⟩ : MQTTNetworkMbedOs UdpSocket)
        cfg.maxPacketSize =
      (⟨cfg.maxPacketSize, datagram⟩, ⟨⟨later, sends⟩⟩) := by
  have hmin := h.min
  have hstep := accumulateFrom_datagram cfg.maxPacketSize [] later sends
    (by omega : 0 < datagram.length) hfull.le le_rfl
  have hdone (fuel : Nat) (buffer : Bytes) (s : UdpSocket) :
      accumulateFrom cfg.maxPacketSize fuel 0 buffer s = (⟨cfg.maxPacketSize, buffer⟩, s) := by
    cases fuel <;> rfl
  rw [hfull, Nat.sub_self, hdone] at hstep
  simp only [Network.read, MQTTNetworkMbedOs.read, hstep, List.nil_append]

theorem read_short (h : WellFormed cfg datagram) (hshort : datagram.length < cfg.maxPacketSize) :
    Accumulated cfg.maxPacketSize datagram
      (Network.read (⟨⟨.datagram datagram :: later, sends⟩⟩ : MQTTNetworkMbedOs UdpSocket)
        cfg.maxPacketSize).1 := by
  have hmin := h.min
  have hstep := accumulateFrom_datagram cfg.maxPacketSize [] later sends
    (by omega : 0 < datagram.length) hshort.le le_rfl
  simp only [Network.read, MQTTNetworkMbedOs.read, hstep, List.nil_append]
  exact accumulateFrom_accumulated _ _ _ datagram _ (by omega) (by omega)

end Read

section ReadPacket

variable {cfg : Config} {c : Client τ} {w : World (MQTTNetworkMbedOs UdpSocket) κ}
variable {datagram : Bytes} {later : List UdpAnswer}

theorem readPacket_short (hanswers : w.net.socket.answers = .datagram datagram :: later)
    (h : WellFormed cfg datagram) (hshort : datagram.length < cfg.maxPacketSize) :
    (readPacket cfg c w).rc = FAILURE := by
  have hnet : w.net = ⟨⟨.datagram datagram :: later, w.net.socket.sends⟩⟩ := by
    rw [← hanswers]
  obtain ⟨⟨more, hmore⟩, hrc⟩ := read_short later w.net.socket.sends h hshort
  rw [← hnet] at hmore hrc
  unfold readPacket
  generalize Network.read w.net cfg.maxPacketSize = answer at hmore hrc ⊢
  obtain ⟨⟨rc, bytes⟩, net⟩ := answer
  simp only at hmore hrc ⊢
  rcases hrc with ⟨rfl, -⟩ | hrc
  · have hbuf : (c.fillReadbuf bytes).readbuf = datagram ++ (more ++ c.readbuf.drop bytes.length) := by
      rw [Client.fillReadbuf, store_zero, hmore, List.append_assoc]
    obtain ⟨hsize, hfield⟩ := lengthField_agree (Client.memory_laidOut cfg hbuf) h
    have htype := h.type
    have hdecode := @packetDecode_value ((c.fillReadbuf bytes).memory cfg) cfg.maxPacketSize 0
      (by omega)
    have hne : lengthField ((c.fillReadbuf bytes).memory cfg) ≠ cfg.maxPacketSize := by omega
    simp only [hdecode, ne_eq, hne, not_false_eq_true, if_true]
    split_ifs <;> rfl
  · have hlow : rc < MQTTSN_MIN_PACKET_LENGTH := hrc.trans_lt (by decide)
    rw [if_pos hlow]

theorem readPacket_full (hanswers : w.net.socket.answers = .datagram datagram :: later)
    (h : WellFormed cfg datagram) (hfull : datagram.length = cfg.maxPacketSize) :
    (readPacket cfg c w).rc = (messageType datagram).toNat ∧
      (readPacket cfg c w).client.readbuf.take datagram.length = datagram ∧
      (readPacket cfg c w).world.net.socket.answers = later := by
  have hnet : w.net = ⟨⟨.datagram datagram :: later, w.net.socket.sends⟩⟩ := by
    rw [← hanswers]
  have hread := read_full later w.net.socket.sends h hfull
  rw [← hnet] at hread
  have hbuf : (c.fillReadbuf datagram).readbuf = datagram ++ c.readbuf.drop datagram.length :=
    store_zero c.readbuf datagram
  have hlaid := Client.memory_laidOut cfg hbuf
  obtain ⟨hsize, hfield⟩ := lengthField_agree hlaid h
  have hmin := h.min
  have htype := h.type
  have hdecode := @packetDecode_value ((c.fillReadbuf datagram).memory cfg) cfg.maxPacketSize 0
    (by omega)
  have hpos := lengthFieldSize_pos (memoryOf 0 datagram)
  have hbyte : (c.fillReadbuf datagram).memory cfg (lengthFieldSize (memoryOf 0 datagram)) =
      messageType datagram := laidOut_agree hlaid hpos.le htype
  have hlong : ¬(cfg.maxPacketSize : Int) < 2 := by omega
  have hvalue : lengthField ((c.fillReadbuf datagram).memory cfg) = cfg.maxPacketSize := by omega
  have htake : (c.fillReadbuf datagram).readbuf.take datagram.length = datagram := by
    rw [hbuf, List.take_left]
  unfold readPacket
  simp only [hread, hlong, if_false, hdecode, hvalue, ne_eq, not_true_eq_false, hsize, hbyte]
  split_ifs
  · exact ⟨rfl, htake, rfl⟩
  · exact ⟨rfl, htake, rfl⟩

end ReadPacket

theorem datagrams_delivered_iff (cfg : Config) (c : Client τ)
    (w : World (MQTTNetworkMbedOs UdpSocket) κ) (datagrams : List Bytes) (later : List UdpAnswer)
    (hanswers : w.net.socket.answers = datagrams.map .datagram ++ later)
    (hwell : ∀ datagram ∈ datagrams, WellFormed cfg datagram) :
    Delivers cfg datagrams c w ↔ ∀ datagram ∈ datagrams, datagram.length = cfg.maxPacketSize := by
  induction datagrams generalizing c w with
  | nil => simp [Delivers]
  | cons datagram rest ih =>
    obtain ⟨hfirst, hrest⟩ := List.forall_mem_cons.mp hwell
    rw [Delivers, List.forall_mem_cons]
    rcases hfirst.max.lt_or_eq with hshort | hfull
    · have hrc := readPacket_short (c := c) hanswers hfirst hshort
      constructor
      · rintro ⟨htype, -⟩
        rw [hrc] at htype
        simp only [FAILURE] at htype
        omega
      · rintro ⟨hfull, -⟩
        omega
    · obtain ⟨hrc, hbuf, hnext⟩ := readPacket_full (c := c) hanswers hfirst hfull
      rw [ih _ _ hnext hrest]
      exact ⟨fun h => ⟨hfull, h.2.2⟩, fun h => ⟨hrc, hbuf, h.2⟩⟩

def pingresp : Bytes := [2, MQTTSN_PINGRESP]

def fullDatagram : Bytes := 100 :: MQTTSN_PUBLISH :: List.replicate 98 0

def arriving (datagrams : List Bytes) : World (MQTTNetworkMbedOs UdpSocket) Bool :=
  ⟨⟨⟨datagrams.map .datagram, []⟩⟩, [], [], []⟩

def listening : Client OracleTimer := .construct (.standard .qos1) 30000 .oracle 0 true

theorem datagrams_delivered_full :
    Delivers (.standard .qos1) [fullDatagram, fullDatagram] listening
      (arriving [fullDatagram, fullDatagram]) :=
  (datagrams_delivered_iff (.standard .qos1) listening (arriving [fullDatagram, fullDatagram])
    [fullDatagram, fullDatagram] [] rfl (by decide)).mpr (by decide)

theorem pingresp_not_delivered :
    WellFormed (.standard .qos1) pingresp ∧
      ¬Delivers (.standard .qos1) [pingresp] listening (arriving [pingresp]) := by
  refine ⟨by decide, fun h => ?_⟩
  have hrc : (readPacket (.standard .qos1) listening (arriving [pingresp])).rc = FAILURE := by decide
  exact absurd (hrc.symm.trans h.1) (by decide)

end MbedMqtt.MQTTSN
