import MbedMqtt.Gateway.ClientRecvTask
import MbedMqtt.Gateway.TopicChain
import MbedMqtt.Library.FirstMatch

namespace MbedMqtt.MQTTSNGW

abbrev MAX_CLIENTID_LENGTH : Nat := 64

def newline : UInt8 := 0x0a
def comma : UInt8 := 0x2c
def hash : UInt8 := 0x23

-- the bytes of the string of blanks, which has an ideographic space in it
def blanks : Bytes := [0x20, 0xe3, 0x80, 0x80, 0x09, 0x0a]

def strip (data : Bytes) : Bytes := data.filter fun byte => !blanks.contains byte

def isDigit (byte : UInt8) : Bool := 0x30 ≤ byte && byte ≤ 0x39

def isSpace (byte : UInt8) : Bool := byte = 0x20 || 0x09 ≤ byte && byte ≤ 0x0d

def decimal (digits : Bytes) : Nat := digits.foldl (fun value digit => 10 * value + (digit.toNat - 0x30)) 0

-- nothing where it throws
def stoul (text : Bytes) : Option Nat :=
  let text := text.dropWhile isSpace
  let negative := text.head? = some 0x2d
  let digits := (if negative ∨ text.head? = some 0x2b then text.tail else text).takeWhile isDigit
  if digits = [] ∨ 2 ^ 64 ≤ decimal digits then none
  else some (if negative then (2 ^ 64 - decimal digits) % 2 ^ 64 else decimal digits)

-- what one call stores, of at most so many bytes, and what it leaves in the file
def fgets : Nat → Bytes → Bytes × Bytes
  | 0, file => ([], file)
  | _ + 1, [] => ([], [])
  | n + 1, c :: file =>
      if c = newline then ([c], file) else (c :: (fgets n file).1, (fgets n file).2)

-- `MAX_CLIENTID_LENGTH + 254` counts the NUL
def lineLimit : Nat := MAX_CLIENTID_LENGTH + 254 - 1

def readLines : Nat → Bytes → List Bytes
  | 0, _ => []
  | _ + 1, [] => []
  | fuel + 1, c :: file =>
      (fgets lineLimit (c :: file)).1 :: readLines fuel (fgets lineLimit (c :: file)).2

-- a `char*`: the literal of `common_topic`, or a copy on the heap
inductive CharPointer where
  | commonTopic
  | heap (text : Bytes)
  deriving DecidableEq, Repr

def strdup (text : Bytes) : CharPointer := .heap (cStr text)

def CharPointer.text : CharPointer → Bytes
  | .commonTopic => [0x2a]
  | .heap text => text

structure PredefinedClient where
  clientId : Bytes
  topics : TopicTable
  aggregated : Bool
  hasPredefTopic : Bool
  deriving DecidableEq, Repr

-- `gateway` says whether `_gateway` is set
structure PredefinedList where
  clients : List PredefinedClient
  authorize : Bool
  gateway : Bool
  gatewayTopics : TopicTable
  deriving DecidableEq, Repr

structure PredefinedLine where
  id : Bytes
  topicName : Bytes
  topicID : UInt16
  deriving DecidableEq, Repr

-- the fields of a line without its blanks; `npos` is one below 0
def parseLine (data : Bytes) : Option PredefinedLine :=
  let pos0 := find data comma 0
  let next := match pos0 with
    | some pos => pos + 1
    | none => 0
  let pos1 := find data comma next
  let id := match pos0 with
    | some pos => data.take pos
    | none => data
  let topicName := match pos1 with
    | some pos => substr data next (pos - next)
    | none => data.drop next
  let number := match pos1 with
    | some pos => data.drop (pos + 1)
    | none => data
  (stoul number).map fun value => ⟨id, topicName, UInt16.ofNat value⟩

namespace PredefinedList

def initial : PredefinedList := ⟨[], false, false, .initial⟩

def getClient (list : PredefinedList) (clientId : Bytes) : Option Nat :=
  list.clients.findIdx? fun client => strncmpEqual clientId.length client.clientId clientId

def newClient (aggregate : Bool) (clientId : Bytes) : PredefinedClient :=
  ⟨clientId, .initial, aggregate, false⟩

def addTopic (topicName : Bytes) (topicId : UInt16) (client : PredefinedClient) :
    PredefinedClient :=
  { client with topics := client.topics.addName topicName topicId, hasPredefTopic := true }

-- nothing where `_gateway` is dereferenced unset
def createPredefinedTopic (list : PredefinedList) (clientId : CharPointer) (topicName : Bytes)
    (topicId : UInt16) (aggregate : Bool) : Option PredefinedList :=
  if clientId = .commonTopic then
    if list.gateway then
      some { list with gatewayTopics := list.gatewayTopics.addName topicName topicId }
    else none
  else
    let client := list.getClient clientId.text
    if list.authorize && client.isNone then some list
    else if MAX_CLIENTS < list.clients.length then some list
    else
      match client with
      | some i =>
          some { list with clients := list.clients.modify i (addTopic topicName topicId) }
      | none =>
          some { list with clients :=
            list.clients ++ [addTopic topicName topicId (newClient aggregate clientId.text)] }

def readLine (list : PredefinedList) (aggregate : Bool) (buf : Bytes) : Option PredefinedList :=
  if buf.head? = some hash then some list
  else
    let data := strip (cStr buf)
    if data = [] then some list
    else
      match parseLine data with
      | none => none
      | some line =>
          list.createPredefinedTopic (strdup line.id) line.topicName line.topicID aggregate

def readAll (aggregate : Bool) : PredefinedList → List Bytes → Option PredefinedList
  | list, [] => some list
  | list, buf :: bufs =>
      match list.readLine aggregate buf with
      | none => none
      | some list => readAll aggregate list bufs

-- nothing where it throws, the file nothing where it does not open
def readPredefinedList (list : PredefinedList) (file : Option Bytes) (aggregate : Bool) :
    Option (PredefinedList × Bool) :=
  match file with
  | none => some (list, false)
  | some file => (readAll aggregate list (readLines file.length file)).map fun list => (list, true)

end PredefinedList

end MbedMqtt.MQTTSNGW
