import MbedMqtt.Client.State

namespace MbedMqtt

variable {σ τ κ : Type} [Network σ] [Timer τ κ]

def sendLoop (timer : τ) (packet : Bytes) : Nat → Nat → World σ τ κ → Nat × World σ τ κ
  | 0, sent, w => (sent, w)
  | fuel + 1, sent, w =>
      if sent < packet.length then
        let (rc, net) := Network.write w.net (packet.drop sent)
        let w := { w with net := net }
        if rc < 0 then (sent, w)
        else if w.expired timer then (sent + rc.toNat, w.tick)
        else sendLoop timer packet fuel (sent + rc.toNat) w.tick
      else (sent, w)

def sendPacket (c : Client τ) (w : World σ τ κ) (length : Nat) (timer : τ) : Outcome σ τ κ :=
  let packet := c.sendbuf.take length
  let (sent, w) := sendLoop timer packet (w.clock.length + 1) 0 w
  if sent = packet.length then
    if 0 < c.keepAliveInterval then
      { rc := SUCCESS
        client := { c with lastSent := w.countdown c.keepAliveInterval }
        world := w.tick.record [.sent packet] }
    else { rc := SUCCESS, client := c, world := w.record [.sent packet] }
  else { rc := FAILURE, client := c, world := w.record [.unsent packet] }

def netchar (net : σ) : Option UInt8 × σ :=
  let (r, net) := Network.read net 1
  if r.rc = 1 then (some (r.bytes.headD 0), net) else (none, net)

def decodePacket (net : σ) : (Nat × Nat) × σ := packetDecode netchar net

def readBody (net : σ) (remLen : Nat) : ReadResult × σ :=
  if 0 < remLen then Network.read net remLen else (⟨0, []⟩, net)

def readPacket (cfg : Config) (c : Client τ) (w : World σ τ κ) : Outcome σ τ κ :=
  let (r, net) := Network.read w.net 1
  let readbuf := store c.readbuf 0 r.bytes
  if r.rc ≠ 1 then ⟨0, { c with readbuf := readbuf }, { w with net := net }⟩
  else
    let ((_, remLen), net) := decodePacket net
    let readbuf := store readbuf 1 (packetEncode remLen)
    let len := 1 + (packetEncode remLen).length
    if cfg.maxPacketSize < len + remLen then
      ⟨BUFFER_OVERFLOW, { c with readbuf := readbuf }, { w with net := net }⟩
    else
      let (r, net) := readBody net remLen
      let readbuf := store readbuf len r.bytes
      if r.rc ≠ remLen then ⟨FAILURE, { c with readbuf := readbuf }, { w with net := net }⟩
      else
        let header := byteAt readbuf 0
        let w := { w with net := net }.record [.received header ((readbuf.drop len).take remLen)]
        if 0 < c.keepAliveInterval then
          { rc := headerType header
            client := { c with readbuf := readbuf, lastReceived := w.countdown c.keepAliveInterval }
            world := w.tick }
        else { rc := headerType header, client := { c with readbuf := readbuf }, world := w }

theorem sendLoop_log (timer : τ) (packet : Bytes) (fuel sent : Nat) (w : World σ τ κ) :
    (sendLoop timer packet fuel sent w).2.log = w.log := by
  induction fuel generalizing sent w with
  | zero => rfl
  | succ fuel ih =>
    simp only [sendLoop]
    split
    · split
      · rfl
      · split
        · rfl
        · rw [ih]; rfl
    · rfl

theorem sendLoop_clock (timer : τ) (packet : Bytes) (fuel sent : Nat) (w : World σ τ κ) :
    (sendLoop timer packet fuel sent w).2.clock.length ≤ w.clock.length := by
  induction fuel generalizing sent w with
  | zero => exact le_rfl
  | succ fuel ih =>
    simp only [sendLoop]
    split
    · split
      · exact le_rfl
      · split
        · simp [World.tick]
        · exact (ih _ _).trans (by simp [World.tick])
    · exact le_rfl

theorem sendLoop_fuel (timer : τ) (packet : Bytes) {fuel fuel' : Nat} (sent : Nat)
    (w : World σ τ κ) (h : w.clock.length < fuel) (h' : w.clock.length < fuel') :
    sendLoop timer packet fuel sent w = sendLoop timer packet fuel' sent w := by
  induction fuel generalizing fuel' sent w with
  | zero => omega
  | succ fuel ih =>
    obtain ⟨fuel', rfl⟩ : ∃ k, fuel' = k + 1 := ⟨fuel' - 1, by omega⟩
    simp only [sendLoop]
    split
    · split
      · rfl
      · split
        · rfl
        · rename_i hexp
          have hpos : w.clock ≠ [] := by
            intro hnil
            simp [World.expired, hnil] at hexp
          have hlen := List.length_pos_of_ne_nil hpos
          apply ih <;> simp only [World.tick, List.length_tail] <;> omega
    · rfl

theorem sendPacket_cases (c : Client τ) (w : World σ τ κ) (length : Nat) (timer : τ) :
    ∃ t, (sendPacket c w length timer).client = { c with lastSent := t } ∧
      ((sendPacket c w length timer).rc = SUCCESS ∧
          (sendPacket c w length timer).world.log = w.log ++ [.sent (c.sendbuf.take length)] ∨
        (sendPacket c w length timer).rc = FAILURE ∧
          (sendPacket c w length timer).world.log = w.log ++ [.unsent (c.sendbuf.take length)]) := by
  have hlog := sendLoop_log timer (c.sendbuf.take length) (w.clock.length + 1) 0 w
  simp only [sendPacket]
  split
  · split
    · exact ⟨_, rfl, .inl ⟨rfl, by simp [hlog]⟩⟩
    · exact ⟨c.lastSent, rfl, .inl ⟨rfl, by simp [hlog]⟩⟩
  · exact ⟨c.lastSent, rfl, .inr ⟨rfl, by simp [hlog]⟩⟩

theorem sendPacket_clock (c : Client τ) (w : World σ τ κ) (length : Nat) (timer : τ) :
    (sendPacket c w length timer).world.clock.length ≤ w.clock.length := by
  have hclock := sendLoop_clock timer (c.sendbuf.take length) (w.clock.length + 1) 0 w
  simp only [sendPacket]
  split
  · split
    · simp only [World.record, World.tick, List.length_tail]
      omega
    · exact hclock
  · exact hclock

theorem decodePacket_bound (net : σ) : (decodePacket net).1.2 < 268435456 :=
  packetDecode_bound netchar net

theorem readBody_length (net : σ) {remLen : Nat} (h : (readBody net remLen).1.rc = remLen) :
    (readBody net remLen).1.bytes.length = remLen := by
  unfold readBody at h ⊢
  split at h
  · rename_i hpos
    have hlen := Network.read_length net remLen (by omega)
    rw [if_pos hpos]
    omega
  · rename_i hpos
    rw [if_neg hpos]
    simp only [List.length_nil]
    omega

theorem readPacket_frame (cfg : Config) (c : Client τ) (w : World σ τ κ) :
    ∃ buf t, (readPacket cfg c w).client = { c with readbuf := buf, lastReceived := t } := by
  simp only [readPacket]
  split
  · exact ⟨_, c.lastReceived, rfl⟩
  · split
    · exact ⟨_, c.lastReceived, rfl⟩
    · split
      · exact ⟨_, c.lastReceived, rfl⟩
      · split
        · exact ⟨_, _, rfl⟩
        · exact ⟨_, c.lastReceived, rfl⟩

theorem readPacket_clock (cfg : Config) (c : Client τ) (w : World σ τ κ) :
    (readPacket cfg c w).world.clock.length ≤ w.clock.length := by
  simp only [readPacket]
  split
  · exact le_rfl
  · split
    · exact le_rfl
    · split
      · exact le_rfl
      · split
        · simp [World.tick, World.record]
        · exact le_rfl

def received (c : Client τ) (w : World σ τ κ) (header : UInt8) (body : Bytes) : Outcome σ τ κ :=
  let readbuf := framed header body ++ c.readbuf.drop (framed header body).length
  let w := w.record [.received header body]
  if 0 < c.keepAliveInterval then
    { rc := headerType header
      client := { c with readbuf := readbuf, lastReceived := w.countdown c.keepAliveInterval }
      world := w.tick }
  else { rc := headerType header, client := { c with readbuf := readbuf }, world := w }

theorem store_framed (buf : Bytes) (header : UInt8) (body : Bytes) :
    store (store (store buf 0 [header]) 1 (packetEncode body.length))
        (1 + (packetEncode body.length).length) body =
      framed header body ++ buf.drop (framed header body).length := by
  have h1 : store buf 0 [header] = [header] ++ buf.drop 1 := store_zero buf [header]
  have h2 := store_append [header] (buf.drop 1) (packetEncode body.length)
  have h3 := store_append ([header] ++ packetEncode body.length)
    ((buf.drop 1).drop (packetEncode body.length).length) body
  rw [List.length_append] at h3
  rw [h1]
  change store (store ([header] ++ buf.drop 1) [header].length (packetEncode body.length))
    ([header].length + (packetEncode body.length).length) body = _
  rw [h2, h3]
  simp [framed, List.drop_drop, Nat.add_assoc, Nat.add_comm]

theorem framed_body (header : UInt8) (body tail : Bytes) :
    ((framed header body ++ tail).drop (1 + (packetEncode body.length).length)).take body.length =
      body := by
  rw [framed, Nat.add_comm, List.append_assoc, List.cons_append, List.drop_succ_cons]
  simp

theorem readPacket_received {cfg : Config} {c : Client τ} {w : World σ τ κ} {header : UInt8}
    {body : Bytes} {len : Nat} {net₁ net₂ net₃ : σ}
    (hheader : Network.read w.net 1 = (⟨1, [header]⟩, net₁))
    (hlength : decodePacket net₁ = ((len, body.length), net₂))
    (hfit : (framed header body).length ≤ cfg.maxPacketSize)
    (hbody : readBody net₂ body.length = (⟨body.length, body⟩, net₃)) :
    readPacket cfg c w = received c { w with net := net₃ } header body := by
  have hsize : ¬cfg.maxPacketSize < 1 + (packetEncode body.length).length + body.length := by
    rw [framed_length] at hfit
    omega
  simp only [readPacket, hheader, hlength, hbody, hsize, ne_eq, not_true_eq_false, if_false,
    store_framed, byteAt_framed, framed_body, received]

theorem readPacket_cases (cfg : Config) (c : Client τ) (w : World σ τ κ) :
    (∃ header body net, (framed header body).length ≤ cfg.maxPacketSize ∧
      body.length < 268435456 ∧
      readPacket cfg c w = received c { w with net := net } header body) ∨
    ((readPacket cfg c w).rc ≤ 0 ∧ (readPacket cfg c w).world.log = w.log) := by
  rcases hheader : Network.read w.net 1 with ⟨⟨rc, bytes⟩, net₁⟩
  by_cases hrc : rc = 1
  swap
  · exact .inr (by simp [readPacket, hheader, hrc])
  subst hrc
  have hone := Network.read_length w.net 1 (by simp [hheader])
  obtain ⟨header, rfl⟩ : ∃ b, bytes = [b] := by
    simp only [hheader] at hone
    exact List.length_eq_one_iff.mp (by omega)
  rcases hlength : decodePacket net₁ with ⟨⟨len, remLen⟩, net₂⟩
  have hbound : remLen < 268435456 := by simpa [hlength] using decodePacket_bound net₁
  by_cases hfit : cfg.maxPacketSize < 1 + (packetEncode remLen).length + remLen
  · exact .inr (by simp [readPacket, hheader, hlength, hfit])
  rcases hbody : readBody net₂ remLen with ⟨⟨rc, body⟩, net₃⟩
  by_cases hrc : rc = remLen
  swap
  · exact .inr (by simp [readPacket, hheader, hlength, hfit, hbody, hrc])
  subst hrc
  obtain rfl : remLen = body.length := by
    have h := readBody_length net₂ (congrArg (·.1.rc) hbody)
    simpa [hbody] using h.symm
  have hsize : (framed header body).length ≤ cfg.maxPacketSize := by
    rw [framed_length]
    omega
  exact .inl ⟨header, body, net₃, hsize, hbound, readPacket_received hheader hlength hsize hbody⟩

end MbedMqtt
