import MbedMqtt.Contract.ClientCPing

namespace MbedMqtt.MQTTClientC

variable {σ τ κ : Type} [Network σ] [Timer τ κ]

-- what the reader keeps of a client
structure SameReader (cfg : Config) (c : Client τ) (d : MbedMqtt.Client τ) : Prop where
  size : c.readbufSize = cfg.maxPacketSize
  readbuf : c.readbuf = d.readbuf
  keepAliveInterval : c.keepAliveInterval = d.keepAliveInterval
  lastReceived : c.lastReceived = d.lastReceived

-- the C client passes on the code of a failed first read, and reports a short body as a timeout
def AgreedCodes (cfg : Config) (net : σ) (rc cppRc : Int) : Prop :=
  let (r, net) := Network.read net 1
  let ((_, remLen), net) := decodePacket net
  if r.rc ≠ 1 then rc = r.rc ∧ cppRc = 0
  else if 1 + (packetEncode remLen).length + remLen ≤ cfg.maxPacketSize ∧
      (readBody net remLen).1.rc ≠ remLen then rc = 0 ∧ cppRc = FAILURE
  else rc = cppRc

theorem packetEncode_length_le {n : Nat} (hn : n < 268435456) : (packetEncode n).length ≤ 4 :=
  Base128.encode_length_le (by decide) (by simpa using hn)

theorem readPacket_agrees {cfg : Config} (hroom : 5 ≤ cfg.maxPacketSize) {c : Client τ}
    {d : MbedMqtt.Client τ} (h : SameReader cfg c d) (w : World σ τ κ) :
    SameReader cfg (readPacket c w).client (MbedMqtt.readPacket cfg d w).client ∧
      (readPacket c w).world = (MbedMqtt.readPacket cfg d w).world ∧
      AgreedCodes cfg w.net (readPacket c w).rc (MbedMqtt.readPacket cfg d w).rc := by
  obtain ⟨hsize, hbuf, hkeep, hlast⟩ := h
  rcases hheader : Network.read w.net 1 with ⟨r, net₁⟩
  rcases hlength : decodePacket net₁ with ⟨⟨len, remLen⟩, net₂⟩
  by_cases hrc : r.rc = 1
  swap
  · simp only [readPacket, MbedMqtt.readPacket, AgreedCodes, hheader, hlength, hrc, ne_eq,
      not_false_eq_true, if_true, hbuf]
    exact ⟨⟨hsize, rfl, hkeep, hlast⟩, trivial, trivial, trivial⟩
  have hbound : remLen < 268435456 := by simpa [hlength] using decodePacket_bound net₁
  have hlen := packetEncode_length_le hbound
  have hfit : (1 + (packetEncode remLen).length ≤ c.readbufSize ∧
      c.readbufSize - (1 + (packetEncode remLen).length) < remLen) =
      (cfg.maxPacketSize < 1 + (packetEncode remLen).length + remLen) := by
    rw [hsize, eq_iff_iff]
    omega
  have hcodes (rc cppRc : Int) : AgreedCodes cfg w.net rc cppRc ↔
      if 1 + (packetEncode remLen).length + remLen ≤ cfg.maxPacketSize ∧
        (readBody net₂ remLen).1.rc ≠ remLen then rc = 0 ∧ cppRc = FAILURE else rc = cppRc := by
    simp only [AgreedCodes, hheader, hlength, hrc, ne_eq, not_true_eq_false, if_false]
  simp only [hcodes, readPacket, MbedMqtt.readPacket, hheader, hrc, ne_eq, not_true_eq_false, if_false,
    hlength, hfit, hbuf]
  by_cases hover : cfg.maxPacketSize < 1 + (packetEncode remLen).length + remLen
  · simp only [hover, if_true, Nat.not_le.mpr hover, false_and, if_false]
    exact ⟨⟨hsize, rfl, hkeep, hlast⟩, trivial, trivial⟩
  rcases hbody : readBody net₂ remLen with ⟨b, net₃⟩
  simp only [hover, if_false, Nat.not_lt.mp hover, true_and]
  by_cases hwhole : b.rc = remLen
  · simp only [hwhole, not_true_eq_false, if_false, hkeep]
    split
    · exact ⟨⟨hsize, rfl, hkeep, rfl⟩, rfl, rfl⟩
    · exact ⟨⟨hsize, rfl, hkeep, hlast⟩, rfl, rfl⟩
  · simp only [hwhole, not_false_eq_true, if_true]
    exact ⟨⟨hsize, rfl, hkeep, hlast⟩, trivial, trivial, trivial⟩

structure Read (σ τ κ : Type) where
  world : World σ τ κ
  rc : Int

def readPackets : Nat → Client τ → World σ τ κ → List (Read σ τ κ) × World σ τ κ
  | 0, _, w => ([], w)
  | n + 1, c, w =>
      let r := readPacket c w
      let (reads, after) := readPackets n r.client r.world
      (⟨w, r.rc⟩ :: reads, after)

def cppReadPackets (cfg : Config) :
    Nat → MbedMqtt.Client τ → World σ τ κ → List (Read σ τ κ) × World σ τ κ
  | 0, _, w => ([], w)
  | n + 1, d, w =>
      let r := MbedMqtt.readPacket cfg d w
      let (reads, after) := cppReadPackets cfg n r.client r.world
      (⟨w, r.rc⟩ :: reads, after)

def AgreedReads (cfg : Config) (read cppRead : Read σ τ κ) : Prop :=
  read.world = cppRead.world ∧ AgreedCodes cfg read.world.net read.rc cppRead.rc

theorem readers_agree {cfg : Config} (hroom : 5 ≤ cfg.maxPacketSize) {c : Client τ}
    {d : MbedMqtt.Client τ} (h : SameReader cfg c d) (n : Nat) (w : World σ τ κ) :
    (readPackets n c w).2 = (cppReadPackets cfg n d w).2 ∧
      List.Forall₂ (AgreedReads cfg) (readPackets n c w).1 (cppReadPackets cfg n d w).1 := by
  induction n generalizing c d w with
  | zero => exact ⟨rfl, .nil⟩
  | succ n ih =>
    obtain ⟨hsame, hworld, hcodes⟩ := readPacket_agrees hroom h w
    obtain ⟨hend, hreads⟩ := ih hsame (readPacket c w).world
    rw [hworld] at hend hreads
    simp only [readPackets, cppReadPackets, hworld]
    exact ⟨hend, .cons ⟨rfl, hcodes⟩ hreads⟩

-- a PUBACK, a packet whose body is one byte short, then nothing
def shortWorld : World Script OracleTimer Bool :=
  ⟨⟨[64, 2, 0, 7, 64, 2, 0], [], []⟩, [true], [], .oracle, []⟩

def shortConfig : Config := ⟨.qos1, 8, 5, 10, true⟩

def shortClient : MbedMqtt.Client OracleTimer :=
  { MbedMqtt.Client.construct shortConfig 1000 OracleTimer.oracle with keepAliveInterval := 1 }

theorem readers_agree_short :
    (readPackets 3 pingClient shortWorld).2 = (cppReadPackets shortConfig 3 shortClient shortWorld).2 ∧
      List.Forall₂ (AgreedReads shortConfig) (readPackets 3 pingClient shortWorld).1
        (cppReadPackets shortConfig 3 shortClient shortWorld).1 :=
  readers_agree (by decide) ⟨rfl, rfl, rfl, rfl⟩ 3 shortWorld

end MbedMqtt.MQTTClientC
