import MbedMqtt.Packet.ConnectServer

namespace MbedMqtt

def optionalString (present : Bool) (s : MQTTString) : Bytes :=
  if present then writeCString s.text else []

def willBytes (options : ConnectData) : Bytes :=
  if options.willFlag then
    writeCString options.will.topicName.text ++ writeCString options.will.message.text
  else []

def connectFields (options : ConnectData) : Bytes :=
  connectFlags options :: (writeInt options.keepAliveInterval ++
    (writeCString options.clientID.text ++ (willBytes options ++
      (optionalString options.username.present options.username ++
        optionalString options.password.present options.password))))

def connectBody (options : ConnectData) : Bytes := protocolName options ++ connectFields options

structure ConnectSingle (options : ConnectData) : Prop where
  version : options.mqttVersion = 3 ∨ options.mqttVersion = 4
  clientID : options.clientID.Single
  topicName : options.will.topicName.Single
  message : options.will.message.Single
  username : options.username.Single
  password : options.password.Single

theorem optionalString_length {present : Bool} {s : MQTTString} (hs : s.Single) :
    (optionalString present s).length = if present then mqttstrlen s + 2 else 0 := by
  unfold optionalString
  split
  · rw [writeCString_length, hs.strlen, Nat.add_comm]
  · rfl

theorem optionalString_write {present : Bool} {s : MQTTString} (hs : s.Single) :
    (if present then writeMQTTString s else []) = optionalString present s := by
  rw [optionalString, hs.write]

theorem willBytes_length {options : ConnectData} (h : ConnectSingle options) :
    (willBytes options).length = if options.willFlag then
      mqttstrlen options.will.topicName + 2 + mqttstrlen options.will.message + 2 else 0 := by
  unfold willBytes
  split
  · rw [List.length_append, writeCString_length, writeCString_length, h.topicName.strlen,
      h.message.strlen]
    omega
  · rfl

theorem protocolName_length {options : ConnectData}
    (h : options.mqttVersion = 3 ∨ options.mqttVersion = 4) :
    (protocolName options).length + 3 = if options.mqttVersion = 3 then 12
      else if options.mqttVersion = 4 then 10 else 0 := by
  rcases h with h | h
  · simp [protocolName, h, writeCString_length]
  · simp [protocolName, h, writeCString_length]

theorem connectBody_length {options : ConnectData} (h : ConnectSingle options) :
    (connectBody options).length = connectLength options := by
  have hname := protocolName_length h.version
  simp only [connectBody, connectFields, List.length_append, List.length_cons, writeInt_length,
    writeCString_length, willBytes_length h, optionalString_length h.username,
    optionalString_length h.password, connectLength, ← hname, h.clientID.strlen]
  omega

theorem serializeConnect_framed (buflen : Nat) {options : ConnectData} (h : ConnectSingle options) :
    serializeConnect buflen options =
      if buflen < packetLen (connectLength options) then (MQTTPACKET_BUFFER_TOO_SHORT, [])
      else
        let packet := framed (headerByte CONNECT 0 0 0) (connectBody options)
        (packet.length, packet) := by
  have hwill : (if options.willFlag then
      writeMQTTString options.will.topicName ++ writeMQTTString options.will.message else []) =
      willBytes options := by
    rw [willBytes, h.topicName.write, h.message.write]
  simp only [serializeConnect, framed, connectBody_length h, hwill, h.clientID.write,
    optionalString_write h.username, optionalString_write h.password]
  simp only [connectBody, connectFields, List.cons_append, List.append_assoc]

def StringsFit (options : ConnectData) : Prop :=
  options.clientID.text.length ≤ 65535 ∧
    (options.willFlag = true → options.will.topicName.text.length ≤ 65535 ∧
      options.will.message.text.length ≤ 65535) ∧
    (options.username.present = true → options.username.text.length ≤ 65535) ∧
    (options.password.present = true → options.password.text.length ≤ 65535)

def credentialsSupplied (options : ConnectData) : Bool :=
  (!options.username.present || options.password.present || !options.username.text.isEmpty) &&
    (!options.password.present || !options.password.text.isEmpty)

theorem readWill_laidAt {options : ConnectData} {buf : Bytes} {curdata : Nat} (enddata : Nat)
    (will : WillOptions) (hfit : StringsFit options) (h : LaidAt buf curdata (willBytes options))
    (hend : curdata + (willBytes options).length ≤ enddata) :
    readWill (connectFlags options) will buf curdata enddata =
      some (if options.willFlag then
          ⟨.ofLenString options.will.topicName.text, .ofLenString options.will.message.text,
            options.will.retained % 2, options.will.qos % 4⟩
        else will, curdata + (willBytes options).length) := by
  unfold readWill
  rw [flagsWill_connectFlags]
  by_cases hw : options.willFlag = true
  · obtain ⟨htopic, hmessage⟩ := hfit.2.1 hw
    obtain ⟨hqos, hretain⟩ := flagsWill_fields hw
    simp only [willBytes, hw, if_true, List.length_append] at h hend ⊢
    obtain ⟨h1, h2⟩ := LaidAt.append.mp h
    rw [readMQTTLenString_next enddata h1 htopic (by omega)]
    simp only
    rw [readMQTTLenString_next enddata h2 hmessage (by omega), hqos, hretain]
    simp only [Nat.add_assoc]
  · simp [hw, willBytes]

theorem readCredential_laidAt {buf text : Bytes} {curdata : Nat} (enddata : Nat)
    (hlen : text.length ≤ 65535) (h : LaidAt buf curdata (writeCString text))
    (hend : curdata + (writeCString text).length ≤ enddata) :
    readCredential buf curdata enddata =
      if enddata - curdata < 3 then none
      else some (.ofLenString text, curdata + (writeCString text).length) := by
  rw [readCredential, readMQTTLenString_next enddata h hlen hend]

theorem readCredentials_laidAt {options : ConnectData} {buf : Bytes} {curdata : Nat}
    (enddata : Nat) (username password : MQTTString) (hfit : StringsFit options)
    (hpw : options.password.present = true → options.username.present = true)
    (h : LaidAt buf curdata (optionalString options.username.present options.username ++
      optionalString options.password.present options.password))
    (hend : curdata + (optionalString options.username.present options.username ++
      optionalString options.password.present options.password).length = enddata) :
    readCredentials (connectFlags options) username password buf curdata enddata =
      if credentialsSupplied options then
        some (if options.username.present then .ofLenString options.username.text else username,
          if options.password.present then .ofLenString options.password.text else password)
      else none := by
  obtain ⟨-, -, husername, hpassword⟩ := hfit
  unfold readCredentials credentialsSupplied
  rw [flagsUsername_connectFlags, flagsPassword_connectFlags]
  cases hu : options.username.present with
  | false =>
    have hp : options.password.present = false := by
      rw [hu] at hpw
      simpa using hpw
    simp [hp]
  | true =>
    cases hp : options.password.present with
    | false =>
      simp only [hu, hp, optionalString, if_true, Bool.false_eq_true, if_false, List.append_nil]
        at h hend
      have hread := readCredential_laidAt enddata (husername hu) h (by omega)
      rw [writeCString_length] at hend
      cases htext : options.username.text with
      | nil =>
        rw [htext, List.length_nil] at hend
        rw [if_pos (by omega)] at hread
        simp [hread]
      | cons b bs =>
        rw [htext, List.length_cons] at hend
        rw [if_neg (by omega), htext] at hread
        simp [hread]
    | true =>
      simp only [hu, hp, optionalString, if_true, List.length_append] at h hend
      obtain ⟨h1, h2⟩ := LaidAt.append.mp h
      have hname := readCredential_laidAt enddata (husername hu) h1 (by omega)
      have hword := readCredential_laidAt enddata (hpassword hp) h2 (by omega)
      simp only [writeCString_length] at hend hname hword
      rw [if_neg (by omega)] at hname
      cases htext : options.password.text with
      | nil =>
        rw [htext, List.length_nil] at hend
        rw [if_pos (by omega)] at hword
        simp [hname, hword]
      | cons b bs =>
        rw [htext, List.length_cons] at hend
        rw [if_neg (by omega), htext] at hword
        simp [hname, hword]

def receivedConnect (options data : ConnectData) : ConnectData where
  mqttVersion := data.mqttVersion
  clientID := .ofLenString options.clientID.text
  keepAliveInterval := options.keepAliveInterval
  cleansession := options.cleansession
  willFlag := options.willFlag
  will := if options.willFlag then
      ⟨.ofLenString options.will.topicName.text, .ofLenString options.will.message.text,
        options.will.retained % 2, options.will.qos % 4⟩
    else data.will
  username := if options.username.present then .ofLenString options.username.text else data.username
  password := if options.password.present then .ofLenString options.password.text else data.password

theorem readConnectFields_laidAt {options : ConnectData} (data : ConnectData) {buf : Bytes}
    {curdata enddata : Nat} (hkeep : options.keepAliveInterval < 65536) (hfit : StringsFit options)
    (hpw : options.password.present = true → options.username.present = true)
    (h : LaidAt buf curdata (connectFields options))
    (hend : curdata + (connectFields options).length = enddata) :
    readConnectFields data buf curdata enddata =
      if credentialsSupplied options then some (receivedConnect options data) else none := by
  simp only [connectFields, List.length_cons, List.length_append, writeInt_length] at hend
  obtain ⟨hflags, h⟩ := LaidAt.cons.mp h
  obtain ⟨hint, h⟩ := LaidAt.append.mp h
  obtain ⟨hclient, h⟩ := LaidAt.append.mp h
  obtain ⟨hwill, hcred⟩ := LaidAt.append.mp h
  have hflag : byteAt buf curdata = connectFlags options := hflags.getD 0
  have hread : readInt buf (curdata + 1) = options.keepAliveInterval := by
    rw [readInt_laidAt hint, Nat.mod_eq_of_lt hkeep]
  rw [writeInt_length] at hclient hwill hcred
  have hname := readMQTTLenString_next enddata hclient hfit.1 (by omega)
  have hw := readWill_laidAt enddata data.will hfit hwill (by omega)
  have hc := readCredentials_laidAt enddata data.username data.password hfit hpw hcred
    (by rw [List.length_append]; omega)
  simp only [readConnectFields, hflag, hread, hname, hw, hc, flagsCleansession_connectFlags,
    flagsWill_connectFlags]
  cases credentialsSupplied options <;> rfl

theorem protocolName_checked (charSigned : Bool) {options : ConnectData}
    (h : options.mqttVersion = 3 ∨ options.mqttVersion = 4) :
    ∃ name version, protocolName options = writeCString name ++ [version] ∧
      name.length ≤ 65535 ∧
      checkVersion (.ofLenString name) (readChar charSigned version) = true := by
  rcases h with h | h
  · refine ⟨[77, 81, 73, 115, 100, 112], 3, by simp [protocolName, h], by decide, ?_⟩
    cases charSigned <;> decide
  · refine ⟨[77, 81, 84, 84], 4, by simp [protocolName, h], by decide, ?_⟩
    cases charSigned <;> decide

theorem deserializeConnect_framed (charSigned : Bool) (data : ConnectData) {options : ConnectData}
    (tail : Bytes) (h : ConnectSingle options) (hlen : connectLength options < 34359738368) :
    ∃ curdata, LaidAt (framed (headerByte CONNECT 0 0 0) (connectBody options) ++ tail) curdata
        (connectFields options) ∧
      curdata + (connectFields options).length =
        (framed (headerByte CONNECT 0 0 0) (connectBody options)).length ∧
      deserializeConnect charSigned data
          (framed (headerByte CONNECT 0 0 0) (connectBody options) ++ tail)
          (framed (headerByte CONNECT 0 0 0) (connectBody options)).length =
        readConnectFields data (framed (headerByte CONNECT 0 0 0) (connectBody options) ++ tail)
          curdata (framed (headerByte CONNECT 0 0 0) (connectBody options)).length := by
  have hheader := byteAt_framed (headerByte CONNECT 0 0 0) (connectBody options) tail
  have htype : headerType (headerByte CONNECT 0 0 0) = CONNECT := headerType_headerByte ..
  have hlaid := laidAt_framed (headerByte CONNECT 0 0 0) (connectBody options) tail
  have hsize := framed_length (headerByte CONNECT 0 0 0) (connectBody options)
  have hdec : (decodeBuf (framed (headerByte CONNECT 0 0 0) (connectBody options) ++ tail) 1).1 =
      (packetEncode (connectBody options).length).length := by
    rw [← connectBody_length h] at hlen
    have hd := decodeBuf_encode_length [headerByte CONNECT 0 0 0] (connectBody options ++ tail) hlen
    simpa [framed] using hd
  generalize framed (headerByte CONNECT 0 0 0) (connectBody options) ++ tail = buf
    at hheader hlaid hdec ⊢
  generalize (framed (headerByte CONNECT 0 0 0) (connectBody options)).length = len at hsize ⊢
  generalize (packetEncode (connectBody options).length).length = n at hlaid hdec hsize
  obtain ⟨name, version, hname, hshort, hcheck⟩ := protocolName_checked charSigned h.version
  rw [connectBody, LaidAt.append] at hlaid
  rw [connectBody, List.length_append] at hsize
  obtain ⟨hprotocol, hfields⟩ := hlaid
  refine ⟨_, hfields, by omega, ?_⟩
  rw [hname] at hprotocol hsize ⊢
  rw [List.length_append] at hsize ⊢
  obtain ⟨hstring, hversion⟩ := LaidAt.append.mp hprotocol
  have hread := readMQTTLenString_next len hstring hshort (by omega)
  have hbyte : byteAt buf (1 + n + (writeCString name).length) = version := hversion.getD 0
  simp only [deserializeConnect, hheader, htype, hdec, hread, hbyte, hcheck]
  simp only [ne_eq, not_true_eq_false, if_false, if_true]
  rw [if_neg (by omega)]
  rfl

theorem readWill_short {flags : UInt8} {will will' : WillOptions} {buf : Bytes}
    {curdata enddata next : Nat} (h : readWill flags will buf curdata enddata = some (will', next))
    (hw : flagsWill flags = true) :
    will'.topicName.text.length ≤ 65535 ∧ will'.message.text.length ≤ 65535 := by
  rw [readWill, if_pos hw] at h
  split at h
  · simp at h
  · rename_i topicName after htopic
    split at h
    · simp at h
    · rename_i message after' hmessage
      obtain ⟨ht, hlt, -⟩ := readMQTTLenString_eq_some htopic
      obtain ⟨hm, hlm, -⟩ := readMQTTLenString_eq_some hmessage
      simp only [Option.some.injEq, Prod.mk.injEq] at h
      rw [← h.1]
      exact ⟨ht.trans hlt, hm.trans hlm⟩

theorem readCredential_short {buf : Bytes} {curdata enddata next : Nat} {s : MQTTString}
    (h : readCredential buf curdata enddata = some (s, next)) : s.text.length ≤ 65535 := by
  unfold readCredential at h
  split at h
  · simp at h
  · obtain ⟨hs, hl, -⟩ := readMQTTLenString_eq_some h
    exact hs.trans hl

theorem readCredentials_short {flags : UInt8} {username password username' password' : MQTTString}
    {buf : Bytes} {curdata enddata : Nat}
    (h : readCredentials flags username password buf curdata enddata = some (username', password')) :
    (flagsUsername flags = true → username'.text.length ≤ 65535) ∧
      (flagsPassword flags = true → password'.text.length ≤ 65535) := by
  unfold readCredentials at h
  split at h
  · split at h
    · simp at h
    · rename_i name after hname
      split at h
      · split at h
        · simp at h
        · rename_i word after' hword
          simp only [Option.some.injEq, Prod.mk.injEq] at h
          rw [← h.1, ← h.2]
          exact ⟨fun _ => readCredential_short hname, fun _ => readCredential_short hword⟩
      · rename_i hp
        simp only [Option.some.injEq, Prod.mk.injEq] at h
        rw [← h.1]
        exact ⟨fun _ => readCredential_short hname, fun hp' => absurd hp' hp⟩
  · rename_i hu
    split at h
    · simp at h
    · rename_i hp
      exact ⟨fun hu' => absurd hu' hu, fun hp' => absurd hp' hp⟩

theorem readConnectFields_short {data out : ConnectData} {buf : Bytes} {curdata enddata : Nat}
    (h : readConnectFields data buf curdata enddata = some out) :
    out.clientID.text.length ≤ 65535 ∧
      (flagsWill (byteAt buf curdata) = true → out.will.topicName.text.length ≤ 65535 ∧
        out.will.message.text.length ≤ 65535) ∧
      (flagsUsername (byteAt buf curdata) = true → out.username.text.length ≤ 65535) ∧
      (flagsPassword (byteAt buf curdata) = true → out.password.text.length ≤ 65535) := by
  unfold readConnectFields at h
  simp only at h
  split at h
  · simp at h
  · rename_i clientID after hclient
    split at h
    · simp at h
    · rename_i will after' hwill
      split at h
      · simp at h
      · rename_i username password hcred
        obtain ⟨hs, hl, -⟩ := readMQTTLenString_eq_some hclient
        simp only [Option.some.injEq] at h
        rw [← h]
        exact ⟨hs.trans hl, readWill_short hwill, readCredentials_short hcred⟩

structure SameConnect (options out : ConnectData) : Prop where
  version : out.mqttVersion = options.mqttVersion
  clientID : out.clientID.text = options.clientID.text
  keepAliveInterval : out.keepAliveInterval = options.keepAliveInterval
  cleansession : out.cleansession = options.cleansession
  willFlag : out.willFlag = options.willFlag
  will : options.willFlag = true → out.will.topicName.text = options.will.topicName.text ∧
    out.will.message.text = options.will.message.text ∧ out.will.qos = options.will.qos ∧
    out.will.retained = options.will.retained
  username : out.username.present = options.username.present ∧
    (options.username.present = true → out.username.text = options.username.text)
  password : out.password.present = options.password.present ∧
    (options.password.present = true → out.password.text = options.password.text)

def ConnectTrips (charSigned : Bool) (data : ConnectData) (buf : Bytes) (buflen : Nat)
    (options : ConnectData) : Prop :=
  let s := serializeConnect buflen options
  0 < s.1 → ∃ out, deserializeConnect charSigned data (store buf 0 s.2) s.1.toNat = some out ∧
    SameConnect options out

theorem stringsFit_of_same {options out data : ConnectData} {buf : Bytes} {curdata enddata : Nat}
    (hflag : byteAt buf curdata = connectFlags options) (hsame : SameConnect options out)
    (h : readConnectFields data buf curdata enddata = some out) : StringsFit options := by
  obtain ⟨hclient, hwill, husername, hpassword⟩ := readConnectFields_short h
  rw [hflag, flagsWill_connectFlags] at hwill
  rw [hflag, flagsUsername_connectFlags] at husername
  rw [hflag, flagsPassword_connectFlags] at hpassword
  refine ⟨hsame.clientID ▸ hclient, ?_, ?_, ?_⟩
  · intro hw
    obtain ⟨htopic, hmessage, -⟩ := hsame.will hw
    exact ⟨htopic ▸ (hwill hw).1, hmessage ▸ (hwill hw).2⟩
  · intro hu
    exact hsame.username.2 hu ▸ husername hu
  · intro hp
    exact hsame.password.2 hp ▸ hpassword hp

theorem present_ofLenString (text : Bytes) : (MQTTString.ofLenString text).present = true := rfl

theorem sameConnect_received {options data : ConnectData} (hqos : options.will.qos ≤ 2)
    (hretained : options.will.retained ≤ 1) :
    SameConnect options (receivedConnect options data) ↔
      data.mqttVersion = options.mqttVersion ∧
        (options.username.present = false → data.username.present = false) ∧
        (options.password.present = false → data.password.present = false) := by
  constructor
  · intro h
    refine ⟨h.version, ?_, ?_⟩
    · intro hu
      simpa [receivedConnect, hu] using h.username.1
    · intro hp
      simpa [receivedConnect, hp] using h.password.1
  · rintro ⟨hversion, husername, hpassword⟩
    refine ⟨hversion, text_ofLenString _, rfl, rfl, rfl, ?_, ?_, ?_⟩
    · intro hw
      simp only [receivedConnect, hw, if_true, text_ofLenString, true_and]
      omega
    · cases hu : options.username.present with
      | false => simp [receivedConnect, hu, husername hu]
      | true => simp [receivedConnect, hu, present_ofLenString]
    · cases hp : options.password.present with
      | false => simp [receivedConnect, hp, hpassword hp]
      | true => simp [receivedConnect, hp, present_ofLenString]

theorem connect_round_trip_iff (charSigned : Bool) (data : ConnectData) (buf : Bytes)
    {buflen : Nat} {options : ConnectData} (hbuf : buflen < 2147483648)
    (h : ConnectSingle options) (hkeep : options.keepAliveInterval < 65536)
    (hqos : options.will.qos ≤ 2) (hretained : options.will.retained ≤ 1)
    (hpw : options.password.present = true → options.username.present = true) :
    ConnectTrips charSigned data buf buflen options ↔
      buflen < packetLen (connectLength options) ∨
        StringsFit options ∧ credentialsSupplied options = true ∧
          data.mqttVersion = options.mqttVersion ∧
          (options.username.present = false → data.username.present = false) ∧
          (options.password.present = false → data.password.present = false) := by
  have hpacket := serializeConnect_framed buflen h
  by_cases hshort : buflen < packetLen (connectLength options)
  · rw [if_pos hshort] at hpacket
    simp [ConnectTrips, hpacket, hshort]
  · rw [if_neg hshort] at hpacket
    have hlen := lt_packetLen (connectLength options)
    simp only [ConnectTrips, hpacket, store_zero, Int.toNat_natCast, hshort, false_or]
    generalize buf.drop (framed (headerByte CONNECT 0 0 0) (connectBody options)).length = tail
    obtain ⟨curdata, hlaid, hend, hparse⟩ := deserializeConnect_framed charSigned data tail h
      (by omega)
    have hflag := hlaid.getD 0
    have hpos : (0 : Int) < (framed (headerByte CONNECT 0 0 0) (connectBody options)).length := by
      rw [framed_length]
      omega
    rw [hparse]
    constructor
    · intro htrip
      obtain ⟨out, hout, hsame⟩ := htrip hpos
      have hfit := stringsFit_of_same hflag hsame hout
      rw [readConnectFields_laidAt data hkeep hfit hpw hlaid hend] at hout
      split at hout
      · rename_i hsupplied
        rw [Option.some.injEq] at hout
        rw [← hout, sameConnect_received hqos hretained] at hsame
        exact ⟨hfit, hsupplied, hsame⟩
      · simp at hout
    · rintro ⟨hfit, hsupplied, hrest⟩ -
      rw [readConnectFields_laidAt data hkeep hfit hpw hlaid hend, if_pos hsupplied]
      exact ⟨_, rfl, (sameConnect_received hqos hretained).mpr hrest⟩

def fullOptions : ConnectData :=
  { ConnectData.initializer with
    clientID := .ofCString [109, 101]
    keepAliveInterval := 20
    willFlag := true
    will := ⟨.ofCString [119], .ofCString [], 0, 1⟩
    username := .ofLenString []
    password := .ofCString [112, 119] }

theorem fullOptions_single : ConnectSingle fullOptions where
  version := .inr rfl
  clientID := single_ofCString _
  topicName := single_ofCString _
  message := single_ofCString _
  username := single_ofLenString _
  password := single_ofCString _

theorem connect_round_trip_full :
    ConnectTrips true ConnectData.initializer (List.replicate 100 0) 100 fullOptions :=
  (connect_round_trip_iff true ConnectData.initializer (List.replicate 100 0) (by decide)
    fullOptions_single (by decide) (by decide) (by decide) (by decide)).mpr
    (.inr ⟨⟨by decide, by decide, by decide, by decide⟩, by decide, rfl, by decide, by decide⟩)

def emptyUsername : ConnectData :=
  { ConnectData.initializer with clientID := .ofCString [109, 101], username := .ofCString [] }

def version31 : ConnectData :=
  { ConnectData.initializer with mqttVersion := 3, clientID := .ofCString [109, 101] }

theorem connect_trip_empty_username_fails :
    ¬ConnectTrips true ConnectData.initializer (List.replicate 100 0) 100 emptyUsername ∧
      ¬ConnectTrips true ConnectData.initializer (List.replicate 100 0) 100 version31 := by
  constructor
  · intro h
    obtain ⟨out, hout, -⟩ := h (by decide)
    have hnone : deserializeConnect true ConnectData.initializer
        (store (List.replicate 100 0) 0 (serializeConnect 100 emptyUsername).2)
        (serializeConnect 100 emptyUsername).1.toNat = none := by decide
    rw [hnone] at hout
    cases hout
  · intro h
    obtain ⟨out, hout, hsame⟩ := h (by decide)
    have hsome : (deserializeConnect true ConnectData.initializer
        (store (List.replicate 100 0) 0 (serializeConnect 100 version31).2)
        (serializeConnect 100 version31).1.toNat).map (·.mqttVersion) = some 4 := by decide
    rw [hout, Option.map_some, hsame.version] at hsome
    cases hsome

end MbedMqtt
