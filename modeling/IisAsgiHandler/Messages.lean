import Mathlib.Algebra.GroupWithZero.Nat
import Mathlib.Data.List.TakeWhile

/-!
# ASGI messages

The messages that travel over the channel layer, with the fields and the
defaults of the message classes.  A `std::string` and a `std::vector<char>` are
lists of bytes.  What a message says once it is packed is kept as a record;
the encoding of that record is not part of this module.
-/

namespace IisAsgiHandler

/-- The bytes of a `std::string` or of a `std::vector<char>`. -/
abbrev Bytes := List UInt8

/-- The bytes of a string literal of the source. -/
def ascii (text : String) : Bytes := text.toUTF8.data.toList

/-- What `c_str()` shows to a reader that stops at the first NUL. -/
def cStr (text : Bytes) : Bytes := text.takeWhile (· ≠ 0)

/-- Without a NUL, it shows everything. -/
theorem cStr_of_notMem {text : Bytes} (clean : (0 : UInt8) ∉ text) :
    cStr text = text := by
  rw [cStr, List.takeWhile_eq_self_iff]
  intro byte member
  rw [decide_eq_true_eq]
  rintro rfl
  exact clean member

/-- Number of values of a `DWORD` or a `ULONG`. -/
def dwordSize : Nat := 2 ^ 32

/-- Number of values of a `USHORT`. -/
def ushortSize : Nat := 2 ^ 16

/-- The value of a signed 32-bit `int` after an increment. -/
def nextInt (value : Int) : Int := (value + 1).bmod (2 ^ 32)

/-- Counting keeps a counter at its count, up to the values of an `int`. -/
theorem nextInt_bmod (count : Nat) :
    nextInt ((count : Int).bmod (2 ^ 32)) =
      ((count + 1 : Nat) : Int).bmod (2 ^ 32) := by
  rw [nextInt, Int.bmod_add_bmod, Int.natCast_add, Int.natCast_one]

/-! ## HTTP -/

/-- The `http.request` message. -/
structure AsgiHttpRequestMsg where
  replyChannel : Bytes := []
  httpVersion : Bytes := []
  method : Bytes := []
  scheme : Bytes := []
  path : Bytes := []
  queryString : Bytes := []
  rootPath : Bytes := []
  headers : List (Bytes × Bytes) := []
  body : Bytes := []
  deriving DecidableEq

/-- A response, or one chunk of a streaming response. -/
structure AsgiHttpResponseMsg where
  status : Int := 0
  headers : List (Bytes × Bytes) := []
  content : Bytes := []
  moreContent : Bool := false
  deriving DecidableEq

/-! ## WebSocket -/

/-- The `websocket.connect` message. -/
structure AsgiWsConnectMsg where
  replyChannel : Bytes := []
  scheme : Bytes := []
  path : Bytes := []
  queryString : Bytes := []
  rootPath : Bytes := []
  headers : List (Bytes × Bytes) := []
  deriving DecidableEq

/-- The order that is packed of every connect message. -/
def AsgiWsConnectMsg.packedOrder : Int := 0

namespace AsgiWsReceiveMsg

/-- The initial size of the receive buffer and the size by which it grows. -/
def bufferChunkSize : Nat := 4096

/-- The free space that must remain before the buffer is expanded. -/
def bufferChunkIncreaseThreshold : Nat := bufferChunkSize / 4

end AsgiWsReceiveMsg

/-- The `websocket.receive` message with its buffer; `dataSize` counts the
bytes of the buffer that belong to the message. -/
structure AsgiWsReceiveMsg where
  order : Int := 1
  replyChannel : Bytes := []
  path : Bytes := []
  data : Bytes := List.replicate AsgiWsReceiveMsg.bufferChunkSize 0
  dataSize : Nat := 0
  utf8 : Bool := true
  deriving DecidableEq

/-- What a packed `websocket.receive` message says.  A byte read past the end
of the buffer has no value. -/
structure PackedReceiveMsg where
  replyChannel : Bytes
  path : Bytes
  order : Int
  bytes : List (Option UInt8)
  deriving DecidableEq

/-- The message that the application sends to a WebSocket. -/
structure AsgiWsSendMsg where
  bytes : Bytes := []
  close : Bool := false
  deriving DecidableEq

end IisAsgiHandler
