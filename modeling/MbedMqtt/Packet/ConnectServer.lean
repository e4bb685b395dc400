import MbedMqtt.Packet.Text
import MbedMqtt.Packet.Connect

namespace MbedMqtt

def flagsCleansession (flags : UInt8) : Bool := flags.toNat / 2 % 2 = 1
def flagsWill (flags : UInt8) : Bool := flags.toNat / 4 % 2 = 1
def flagsWillQoS (flags : UInt8) : Nat := flags.toNat / 8 % 4
def flagsWillRetain (flags : UInt8) : Nat := flags.toNat / 32 % 2
def flagsPassword (flags : UInt8) : Bool := flags.toNat / 64 % 2 = 1
def flagsUsername (flags : UInt8) : Bool := flags.toNat / 128 % 2 = 1

def memcmpName (protocol : MQTTString) (name : Bytes) : Bool :=
  (protocol.data.getD []).take (min name.length protocol.len) =
    name.take (min name.length protocol.len)

def checkVersion (protocol : MQTTString) (version : Int) : Bool :=
  version = 3 && memcmpName protocol [77, 81, 73, 115, 100, 112] ||
    version = 4 && memcmpName protocol [77, 81, 84, 84]

def readWill (flags : UInt8) (will : WillOptions) (buf : Bytes) (curdata enddata : Nat) :
    Option (WillOptions × Nat) :=
  if flagsWill flags then
    match readMQTTLenString buf curdata enddata with
    | none => none
    | some (topicName, curdata) =>
        match readMQTTLenString buf curdata enddata with
        | none => none
        | some (message, curdata) =>
            some (⟨topicName, message, flagsWillRetain flags, flagsWillQoS flags⟩, curdata)
  else some (will, curdata)

def readCredential (buf : Bytes) (curdata enddata : Nat) : Option (MQTTString × Nat) :=
  if enddata - curdata < 3 then none else readMQTTLenString buf curdata enddata

def readCredentials (flags : UInt8) (username password : MQTTString) (buf : Bytes)
    (curdata enddata : Nat) : Option (MQTTString × MQTTString) :=
  if flagsUsername flags then
    match readCredential buf curdata enddata with
    | none => none
    | some (username, curdata) =>
        if flagsPassword flags then
          match readCredential buf curdata enddata with
          | none => none
          | some (password, _) => some (username, password)
        else some (username, password)
  else if flagsPassword flags then none
  else some (username, password)

def readConnectFields (data : ConnectData) (buf : Bytes) (curdata enddata : Nat) :
    Option ConnectData :=
  let flags := byteAt buf curdata
  match readMQTTLenString buf (curdata + 1 + 2) enddata with
  | none => none
  | some (clientID, next) =>
      match readWill flags data.will buf next enddata with
      | none => none
      | some (will, next) =>
          match readCredentials flags data.username data.password buf next enddata with
          | none => none
          | some (username, password) =>
              some
                { mqttVersion := data.mqttVersion
                  clientID := clientID
                  keepAliveInterval := readInt buf (curdata + 1)
                  cleansession := flagsCleansession flags
                  willFlag := flagsWill flags
                  will := will
                  username := username
                  password := password }

def deserializeConnect (charSigned : Bool) (data : ConnectData) (buf : Bytes) (len : Nat) :
    Option ConnectData :=
  let header := byteAt buf 0
  if headerType header ≠ CONNECT then none
  else
    match readMQTTLenString buf (1 + (decodeBuf buf 1).1) len with
    | none => none
    | some (protocol, curdata) =>
        if len < curdata then none
        else if checkVersion protocol (readChar charSigned (byteAt buf curdata)) then
          readConnectFields data buf (curdata + 1) len
        else none

theorem connectFlags_toNat (options : ConnectData) :
    (connectFlags options).toNat =
      options.cleansession.toNat * 2 + options.willFlag.toNat * 4 +
        (if options.willFlag then options.will.qos % 4 * 8 + options.will.retained % 2 * 32 else 0) +
        options.password.present.toNat * 64 + options.username.present.toNat * 128 := by
  have hc := options.cleansession.toNat_le
  have hw := options.willFlag.toNat_le
  have hp := options.password.present.toNat_le
  have hu := options.username.present.toNat_le
  rw [connectFlags, UInt8.toNat_ofNat']
  split <;> omega

theorem flagsCleansession_connectFlags (options : ConnectData) :
    flagsCleansession (connectFlags options) = options.cleansession := by
  rw [flagsCleansession, connectFlags_toNat]
  cases options.cleansession <;> cases options.willFlag <;> simp <;> omega

theorem flagsWill_connectFlags (options : ConnectData) :
    flagsWill (connectFlags options) = options.willFlag := by
  have hc := options.cleansession.toNat_le
  rw [flagsWill, connectFlags_toNat]
  cases options.willFlag <;> simp <;> omega

theorem flagsPassword_connectFlags (options : ConnectData) :
    flagsPassword (connectFlags options) = options.password.present := by
  have hc := options.cleansession.toNat_le
  have hw := options.willFlag.toNat_le
  rw [flagsPassword, connectFlags_toNat]
  cases options.password.present <;> simp <;> split <;> omega

theorem flagsUsername_connectFlags (options : ConnectData) :
    flagsUsername (connectFlags options) = options.username.present := by
  have hc := options.cleansession.toNat_le
  have hw := options.willFlag.toNat_le
  have hp := options.password.present.toNat_le
  rw [flagsUsername, connectFlags_toNat]
  cases options.username.present <;> simp <;> split <;> omega

theorem flagsWill_fields {options : ConnectData} (h : options.willFlag = true) :
    flagsWillQoS (connectFlags options) = options.will.qos % 4 ∧
      flagsWillRetain (connectFlags options) = options.will.retained % 2 := by
  have hc := options.cleansession.toNat_le
  have hp := options.password.present.toNat_le
  rw [flagsWillQoS, flagsWillRetain, connectFlags_toNat, h]
  simp only [if_true, Bool.toNat_true]
  omega

end MbedMqtt
