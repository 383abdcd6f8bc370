import IisAsgiHandler.Library.EventMachine
import IisAsgiHandler.Library.Redis
import IisAsgiHandler.Messages

/-!
# The Redis channel layer

`Send` stores a message under a generated key and appends that key to the list
of the channel; `ReceiveMany` pops a key from one of several lists and fetches
the message.  Each call issues its commands one at a time, and the commands of
different calls interleave.
-/

namespace IisAsgiHandler
namespace RedisChannelLayer

open Redis (Database Command Reply)

/-- `m_expiry`, in seconds. -/
def mExpiry : Nat := 60

/-- The prefix that is used when no other is given. -/
def defaultPrefix : Bytes := ascii "asgi:"

def charset : Bytes :=
  ascii "0123456789ABCDEFGHIJKLMNOPQRSTUVWXYZabcdefghijklmnopqrstuvwxyz"

/-- What `GenerateRandomAscii` can return. -/
def IsRandomAscii (length : Nat) (text : Bytes) : Prop :=
  text.length = length ∧ ∀ byte ∈ text, byte ∈ charset

instance (length : Nat) (text : Bytes) : Decidable (IsRandomAscii length text) :=
  inferInstanceAs
    (Decidable (text.length = length ∧ ∀ byte ∈ text, byte ∈ charset))

/-! ## `Send` -/

/-- The command that a `Send` issues next.  From the second command on, the
time is kept at which the life of the data key was set. -/
inductive SendStage where
  | set
  | expireData
  | push (since : Nat)
  | expireChannel (since : Nat)
  | done (since : Nat)
  deriving DecidableEq

/-- A call of `Send`. -/
structure Send where
  channel : Bytes
  buffer : Bytes
  dataKey : Bytes
  stage : SendStage := .set
  deriving DecidableEq

namespace Send

/-- The list of the channel.  Redis is given the text up to its first NUL. -/
def channelKey (mPrefix : Bytes) (send : Send) : Bytes :=
  cStr (mPrefix ++ send.channel)

/-- The next command.  The data key is binary where it is pushed. -/
def command (mPrefix : Bytes) (send : Send) : Option Command :=
  match send.stage with
  | .set => some (.set (cStr send.dataKey) send.buffer)
  | .expireData => some (.expire (cStr send.dataKey) mExpiry)
  | .push _ => some (.rpush (send.channelKey mPrefix) send.dataKey)
  | .expireChannel _ =>
      some (.expire (send.channelKey mPrefix) (mExpiry + 10))
  | .done _ => none

/-- The replies are not looked at. -/
def advance (now : Nat) (send : Send) : Send :=
  match send.stage with
  | .set => { send with stage := .expireData }
  | .expireData => { send with stage := .push now }
  | .push since => { send with stage := .expireChannel since }
  | .expireChannel since => { send with stage := .done since }
  | .done since => { send with stage := .done since }

end Send

/-! ## `ReceiveMany` -/

inductive ReceiveStage where
  | pop
  | get (channel dataKey : Bytes)
  | done (channel payload : Bytes)
  /-- The call threw, or read what is not there. -/
  | crashed
  deriving DecidableEq

/-- A call of `ReceiveMany`; the keys are shuffled. -/
structure Receive where
  channels : List Bytes
  keys : List Bytes
  stage : ReceiveStage := .pop
  deriving DecidableEq

/-- The vector is created with as many empty strings as there are channels, and
the prefixed names are appended to them. -/
def prefixedChannels (mPrefix : Bytes) (channels : List Bytes) : List Bytes :=
  List.replicate channels.length [] ++ channels.map (mPrefix ++ ·)

/-- After `BLPOP`.  Removing more bytes than the key has throws. -/
def afterPop (mPrefix : Bytes) : Option Reply → ReceiveStage
  | some .nil => .done [] []
  | some (.array (key :: dataKey :: _)) =>
      if mPrefix.length ≤ key.length then
        .get (key.drop mPrefix.length) dataKey
      else .crashed
  | _ => .crashed

/-- After `GET`.  The text of any reply but nil is taken for the message. -/
def afterGet (channel : Bytes) : Option Reply → ReceiveStage
  | none => .crashed
  | some .nil => .done [] []
  | some (.string str) => .done channel str
  | some (.status str) => .done channel str
  | some (.error str) => .done channel str
  | some (.integer _) => .done channel []
  | some (.array _) => .done channel []

namespace Receive

/-- The next command; the arguments are NUL-terminated. -/
def command (receive : Receive) : Option Command :=
  match receive.stage with
  | .pop => some (.blpop (receive.keys.map cStr))
  | .get _ dataKey => some (.get (cStr dataKey))
  | .done _ _ => none
  | .crashed => none

def advance (mPrefix : Bytes) (reply : Option Reply) (receive : Receive) :
    Receive :=
  match receive.stage with
  | .pop => { receive with stage := afterPop mPrefix reply }
  | .get channel _ => { receive with stage := afterGet channel reply }
  | .done channel payload => { receive with stage := .done channel payload }
  | .crashed => { receive with stage := .crashed }

end Receive

/-! ## Calls over one database -/

inductive Call where
  | send (send : Send)
  | receive (receive : Receive)
  deriving DecidableEq

/-- The database, and all calls so far with what each has come to. -/
structure Layer where
  db : Database := {}
  calls : List Call := []

inductive LayerLabel where
  /-- `Send` is called and generates its key. -/
  | startSend (channel buffer random : Bytes)
  /-- `ReceiveMany` is called and shuffles its keys. -/
  | startReceive (channels keys : List Bytes)
  /-- A call issues its next command. -/
  | runCommand (index : Nat)
  /-- Time passes, in milliseconds. -/
  | elapse (milliseconds : Nat)
  deriving DecidableEq

inductive LayerEvent where
  /-- A `Send` appended its key to the list of its channel. -/
  | pushed (index : Nat) (channel item payload : Bytes)
  /-- A `ReceiveMany` popped a key, while that key held some string. -/
  | popped (index : Nat) (key item : Bytes) (held : Option Bytes)
  /-- A `ReceiveMany` returned. -/
  | returned (index : Nat) (channels : List Bytes) (channel payload : Bytes)
  deriving DecidableEq

def sendEvents (index : Nat) (send : Send) (reply : Reply) : List LayerEvent :=
  match send.stage, reply with
  | .push _, .integer _ =>
      [.pushed index send.channel send.dataKey send.buffer]
  | _, _ => []

def receiveEvents
    (index : Nat) (db : Database) (receive next : Receive) (reply : Reply) :
    List LayerEvent :=
  (match receive.stage, reply with
    | .pop, .array [key, item] =>
        [.popped index key item (db.stringAt (cStr item))]
    | _, _ => []) ++
  match next.stage with
  | .done channel payload =>
      [.returned index receive.channels channel payload]
  | _ => []

/-- One command of a call. -/
def Layer.runCommand (mPrefix : Bytes) (layer : Layer) (index : Nat) :
    Option (Layer × List LayerEvent) :=
  match layer.calls[index]? with
  | none => none
  | some (.send send) =>
      (send.command mPrefix).map fun command =>
        let (db, reply) := layer.db.execute command
        ({ db := db
           calls := layer.calls.set index (.send (send.advance layer.db.now)) },
          sendEvents index send reply)
  | some (.receive receive) =>
      receive.command.map fun command =>
        let (db, reply) := layer.db.execute command
        let next := receive.advance mPrefix (some reply)
        ({ db := db, calls := layer.calls.set index (.receive next) },
          receiveEvents index layer.db receive next reply)

/-- Any number of clients that share a database and a prefix. -/
def channelLayer (mPrefix : Bytes) :
    EventMachine Layer LayerLabel LayerEvent := fun layer label =>
  match label with
  | .startSend channel buffer random =>
      if IsRandomAscii 10 random then
        some ({ layer with
          calls := layer.calls ++ [.send {
            channel := channel, buffer := buffer,
            dataKey := mPrefix ++ random }] }, [])
      else none
  | .startReceive channels keys =>
      if keys.Perm (prefixedChannels mPrefix channels) then
        some ({ layer with
          calls := layer.calls ++ [.receive {
            channels := channels, keys := keys }] }, [])
      else none
  | .runCommand index => layer.runCommand mPrefix index
  | .elapse milliseconds =>
      some ({ layer with db := layer.db.elapse milliseconds }, [])

end RedisChannelLayer
end IisAsgiHandler
