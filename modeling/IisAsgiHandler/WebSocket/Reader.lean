import IisAsgiHandler.Library.Buffer
import IisAsgiHandler.Library.EventMachine
import IisAsgiHandler.Library.PendingCalls
import IisAsgiHandler.RequestHandler

/-!
# The reader of a WebSocket

`WsReader` reads fragments into the buffer of its message and sends the message
when a final fragment has arrived.  A thread that is in `ReadAsync` is a frame:
it is inside a call to `ReadFragment`, or the call has been accepted for later
and is about to return.  An accepted call is an operation until the WebSocket
module calls `ReadCallback`, which may happen before the call has returned.

Every call passes the start of the buffer, and the size of the whole buffer.
At any time exactly one call is not over, so what a step does to the message
does not depend on the thread that takes it.
-/

namespace IisAsgiHandler

/-- What a successful `ReadFragment` delivers. -/
structure Fragment where
  payload : Bytes
  utf8 : Bool := false
  final : Bool := true
  close : Bool := false
  deriving DecidableEq

/-- What a reader shows to the WebSocket module and to the channel layer. -/
inductive ReaderEvent
  /-- A call to `ReadFragment` is made, at the start of the buffer. -/
  | readFragment (length : Nat)
  | fragment (fragment : Fragment)
  /-- The reader receives the failure of a call. -/
  | readFailed
  /-- `m_msg.data_size` grows. -/
  | counted (numBytes : Nat)
  | send (channel : Bytes) (msg : PackedReceiveMsg)
  deriving DecidableEq

/-- Who has called `ReadAsync`. -/
inductive ReadCaller
  | start
  | readCallback
  deriving DecidableEq

/-- The reader, with the threads in its `ReadAsync` and its pending calls to
`ReadFragment`, each with the length that it was offered. -/
structure WsReader where
  msg : AsgiWsReceiveMsg := {}
  calls : PendingCalls ReadCaller Nat := {}
  deriving DecidableEq

/-- What happens next to a reader. -/
inductive ReaderLabel
  /-- `ReadFragment` completes at once. -/
  | readReturns (index : Nat) (fragment : Fragment)
  /-- `ReadFragment` fails at once. -/
  | readFails (index : Nat)
  /-- `ReadFragment` is accepted, to complete later. -/
  | readPends (index : Nat)
  /-- The accepted call returns, and `ReadAsync` with it. -/
  | leave (index : Nat)
  /-- The module calls `ReadCallback`. -/
  | readCallback (index : Nat) (hr : HResult) (fragment : Fragment)
  deriving DecidableEq

namespace WsReader

/-- What `msgpack::pack` writes of a message.  Lengths of binary data are
32-bit numbers. -/
def pack (msg : AsgiWsReceiveMsg) : PackedReceiveMsg where
  replyChannel := msg.replyChannel
  path := msg.path
  order := msg.order
  bytes := Buffer.read msg.data (msg.dataSize % dwordSize)

/-- `SendToApplication`: send the message and reset it for the next one. -/
def sendToApplication (msg : AsgiWsReceiveMsg) :
    AsgiWsReceiveMsg × List ReaderEvent :=
  ({ msg with
      data := Buffer.resize 0 msg.data AsgiWsReceiveMsg.bufferChunkSize
      dataSize := 0
      order := nextInt msg.order },
    [.send (ascii "websocket.receive") (pack msg)])

/-- `ReadAsyncComplete`.  The result and `close` are not looked at. -/
def readAsyncComplete
    (msg : AsgiWsReceiveMsg)
    (_hr : HResult)
    (numBytes : Nat)
    (utf8 final _close : Bool) : AsgiWsReceiveMsg × List ReaderEvent :=
  let msg := { msg with dataSize := msg.dataSize + numBytes, utf8 := utf8 }
  let (msg, events) :=
    if final then sendToApplication msg
    else if msg.data.length - AsgiWsReceiveMsg.bufferChunkIncreaseThreshold ≤
        msg.dataSize then
      ({ msg with
        data := Buffer.resize 0 msg.data
          (msg.data.length + AsgiWsReceiveMsg.bufferChunkSize) }, [])
    else (msg, [])
  (msg, .counted numBytes :: events)

/-- The length that `ReadAsync` offers; it is a `DWORD`. -/
def offeredLength (msg : AsgiWsReceiveMsg) : Nat := msg.data.length % dwordSize

/-- A thread enters `ReadAsync`, up to its first call. -/
def readAsync (reader : WsReader) (caller : ReadCaller) :
    WsReader × List ReaderEvent :=
  ({ reader with
      calls := reader.calls.enter caller (offeredLength reader.msg) },
    [.readFragment (offeredLength reader.msg)])

/-- `Start`. -/
def start (reader : WsReader) (replyChannel requestPath : Bytes) :
    WsReader × List ReaderEvent :=
  { reader with
    msg := { reader.msg with
      replyChannel := replyChannel
      path := requestPath } }.readAsync .start

/-- A fragment is stored at the start of the buffer. -/
def deliver (msg : AsgiWsReceiveMsg) (fragment : Fragment) : AsgiWsReceiveMsg :=
  { msg with data := Buffer.store msg.data 0 fragment.payload }

/-- The loop of `ReadAsync` goes on, in the same frame, after
`ReadAsyncComplete`. -/
def loop
    (reader : WsReader)
    (index : Nat)
    (caller : ReadCaller)
    (completed : AsgiWsReceiveMsg × List ReaderEvent) :
    WsReader × List ReaderEvent :=
  ({ msg := completed.1
     calls := reader.calls.callAgain index caller (offeredLength completed.1) },
    completed.2 ++ [.readFragment (offeredLength completed.1)])

@[simp] theorem loop_msg
    (reader : WsReader)
    (index : Nat)
    (caller : ReadCaller)
    (completed : AsgiWsReceiveMsg × List ReaderEvent) :
    (reader.loop index caller completed).1.msg = completed.1 := rfl

@[simp] theorem loop_events
    (reader : WsReader)
    (index : Nat)
    (caller : ReadCaller)
    (completed : AsgiWsReceiveMsg × List ReaderEvent) :
    (reader.loop index caller completed).2 =
      completed.2 ++ [.readFragment (offeredLength completed.1)] := rfl

/-- What a label does to a reader. -/
def step : EventMachine WsReader ReaderLabel ReaderEvent
  | reader, .readReturns index fragment =>
      match reader.calls.frames[index]? with
      | some ⟨caller, some length⟩ =>
          if fragment.payload.length ≤ length then
            let looped := reader.loop index caller
              (readAsyncComplete (deliver reader.msg fragment) sOk
                fragment.payload.length fragment.utf8 fragment.final
                fragment.close)
            some (looped.1, .fragment fragment :: looped.2)
          else none
      | _ => none
  | reader, .readFails index =>
      match reader.calls.frames[index]? with
      | some ⟨caller, some length⟩ =>
          -- The length that the call was offered is still in place.
          let looped := reader.loop index caller
            (readAsyncComplete reader.msg sOk length false false false)
          some (looped.1, .readFailed :: looped.2)
      | _ => none
  | reader, .readPends index =>
      match reader.calls.frames[index]? with
      | some ⟨caller, some length⟩ =>
          some ({ reader with calls := reader.calls.accept index caller length },
            [])
      | _ => none
  | reader, .leave index =>
      match reader.calls.frames[index]? with
      | some ⟨_, none⟩ =>
          some ({ reader with calls := reader.calls.leave index }, [])
      | _ => none
  | reader, .readCallback index hr fragment =>
      match reader.calls.operations[index]? with
      | none => none
      | some length =>
          if failed hr = true ∨ fragment.payload.length ≤ length then
            let msg :=
              if failed hr then reader.msg else deliver reader.msg fragment
            let completed := readAsyncComplete msg hr
              fragment.payload.length fragment.utf8 fragment.final
              fragment.close
            let next := WsReader.readAsync
              ⟨completed.1, reader.calls.complete index⟩ .readCallback
            some (next.1,
              (if failed hr then .readFailed else .fragment fragment) ::
                (completed.2 ++ next.2))
          else none

/-- A reader that has not been started takes no step. -/
theorem step_empty (label : ReaderLabel) : step {} label = none := by
  cases label <;> rfl

/-- A reader that has been started. -/
def started (replyChannel requestPath : Bytes) : WsReader :=
  (({} : WsReader).start replyChannel requestPath).1

end WsReader

/-- The message that an event sends to the application. -/
def ReaderEvent.received : ReaderEvent → Option PackedReceiveMsg
  | .send channel msg =>
      if channel = ascii "websocket.receive" then some msg else none
  | _ => none

/-- The `websocket.receive` messages of a trace. -/
def receivedMessages (trace : List ReaderEvent) : List PackedReceiveMsg :=
  trace.filterMap ReaderEvent.received

/-! ## The single read -/

/-- The fragment that a label delivers. -/
def ReaderLabel.fragment : ReaderLabel → Option Fragment
  | .readReturns _ fragment => some fragment
  | .readCallback _ hr fragment => if failed hr then none else some fragment
  | _ => none

/-- Whether a label reports the failure of a read. -/
def ReaderLabel.fails : ReaderLabel → Bool
  | .readFails _ => true
  | .readCallback _ hr _ => failed hr
  | _ => false

/-- What a step does to the message, whichever thread takes it. -/
inductive WsReader.Moved
    (msg : AsgiWsReceiveMsg)
    (label : ReaderLabel) : AsgiWsReceiveMsg → List ReaderEvent → Prop
  | quiet (missing : label.fragment = none) (succeeds : label.fails = false) :
      Moved msg label msg []
  | delivered (fragment : Fragment)
      (delivers : label.fragment = some fragment)
      (succeeds : label.fails = false)
      (fits : fragment.payload.length ≤ offeredLength msg)
      {completed : AsgiWsReceiveMsg × List ReaderEvent}
      (completes : completed = readAsyncComplete (deliver msg fragment) sOk
        fragment.payload.length fragment.utf8 fragment.final fragment.close) :
      Moved msg label completed.1
        (.fragment fragment ::
          (completed.2 ++ [.readFragment (offeredLength completed.1)]))
  | failed (hr : HResult) (numBytes : Nat) (utf8 final close : Bool)
      (missing : label.fragment = none)
      (fails : label.fails = true)
      (completed : AsgiWsReceiveMsg × List ReaderEvent)
      (completes : completed =
        readAsyncComplete msg hr numBytes utf8 final close) :
      Moved msg label completed.1
        (.readFailed ::
          (completed.2 ++ [.readFragment (offeredLength completed.1)]))

namespace WsReader

variable {reader next : WsReader}
variable {label : ReaderLabel}
variable {events : List ReaderEvent}

/-- Everything that can happen to a reader. -/
inductive Stepped (reader : WsReader) :
    ReaderLabel → WsReader → List ReaderEvent → Prop
  | returns {index length : Nat} {caller : ReadCaller} {fragment : Fragment}
      {looped : WsReader × List ReaderEvent}
      (found : reader.calls.frames[index]? = some ⟨caller, some length⟩)
      (fits : fragment.payload.length ≤ length)
      (loops : looped = reader.loop index caller
        (readAsyncComplete (deliver reader.msg fragment) sOk
          fragment.payload.length fragment.utf8 fragment.final
          fragment.close)) :
      Stepped reader (.readReturns index fragment) looped.1
        (.fragment fragment :: looped.2)
  | fails {index length : Nat} {caller : ReadCaller}
      {looped : WsReader × List ReaderEvent}
      (found : reader.calls.frames[index]? = some ⟨caller, some length⟩)
      (loops : looped = reader.loop index caller
        (readAsyncComplete reader.msg sOk length false false false)) :
      Stepped reader (.readFails index) looped.1 (.readFailed :: looped.2)
  | pends {index length : Nat} {caller : ReadCaller}
      (found : reader.calls.frames[index]? = some ⟨caller, some length⟩) :
      Stepped reader (.readPends index)
        { reader with calls := reader.calls.accept index caller length } []
  | leaves {index : Nat} {caller : ReadCaller}
      (found : reader.calls.frames[index]? = some ⟨caller, none⟩) :
      Stepped reader (.leave index)
        { reader with calls := reader.calls.leave index } []
  | calledBack {index length : Nat} {hr : HResult} {fragment : Fragment}
      {completed : AsgiWsReceiveMsg × List ReaderEvent}
      (found : reader.calls.operations[index]? = some length)
      (fits : failed hr = true ∨ fragment.payload.length ≤ length)
      (completes : completed = readAsyncComplete
        (if failed hr then reader.msg else deliver reader.msg fragment) hr
        fragment.payload.length fragment.utf8 fragment.final fragment.close) :
      Stepped reader (.readCallback index hr fragment)
        (readAsync ⟨completed.1, reader.calls.complete index⟩
          .readCallback).1
        ((if failed hr then .readFailed else .fragment fragment) ::
          (completed.2 ++ [.readFragment (offeredLength completed.1)]))

theorem stepped_of_step
    (steps : step reader label = some (next, events)) :
    Stepped reader label next events := by
  cases label with
  | readReturns index fragment =>
      simp only [step] at steps
      split at steps
      · rename_i caller length found
        split at steps
        · rename_i fits
          simp only [Option.some.injEq, Prod.mk.injEq] at steps
          obtain ⟨rfl, rfl⟩ := steps
          exact .returns found fits rfl
        · contradiction
      · contradiction
  | readFails index =>
      simp only [step] at steps
      split at steps
      · rename_i caller length found
        simp only [Option.some.injEq, Prod.mk.injEq] at steps
        obtain ⟨rfl, rfl⟩ := steps
        exact .fails found rfl
      · contradiction
  | readPends index =>
      simp only [step] at steps
      split at steps
      · rename_i caller length found
        simp only [Option.some.injEq, Prod.mk.injEq] at steps
        obtain ⟨rfl, rfl⟩ := steps
        exact .pends found
      · contradiction
  | leave index =>
      simp only [step] at steps
      split at steps
      · rename_i caller found
        simp only [Option.some.injEq, Prod.mk.injEq] at steps
        obtain ⟨rfl, rfl⟩ := steps
        exact .leaves found
      · contradiction
  | readCallback index hr fragment =>
      simp only [step] at steps
      split at steps
      · contradiction
      · rename_i length found
        split at steps
        · rename_i fits
          simp only [Option.some.injEq, Prod.mk.injEq] at steps
          obtain ⟨rfl, rfl⟩ := steps
          exact .calledBack found fits rfl
        · contradiction

/-- Exactly one call is not over, and it offers the size of the buffer. -/
def SingleRead (reader : WsReader) : Prop :=
  reader.calls.offers = [offeredLength reader.msg]

/-- Starting a reader makes its first call. -/
theorem singleRead_start
    (idle : reader.calls.offers = [])
    (replyChannel requestPath : Bytes) :
    SingleRead (reader.start replyChannel requestPath).1 := by
  have entered := PendingCalls.offers_enter reader.calls ReadCaller.start
    (offeredLength reader.msg)
  rw [idle] at entered
  exact List.perm_singleton.mp entered

/-- A single offer names the argument of any call, and its place is taken by
the next one. -/
theorem single_of_perm
    {offers next : List Nat}
    {offered length nextLength : Nat}
    (single : offers = [offered])
    (found : ∃ others, offers.Perm (length :: others) ∧
      next.Perm (nextLength :: others)) :
    length = offered ∧ next = [nextLength] := by
  obtain ⟨others, before, after⟩ := found
  rw [single] at before
  have equal := List.perm_singleton.mp before.symm
  simp only [List.cons.injEq] at equal
  obtain ⟨rfl, rfl⟩ := equal
  exact ⟨rfl, List.perm_singleton.mp after⟩

/-- The single read is the call of the frame that loops, and its next call
takes the place. -/
theorem singleRead_loop
    {index length : Nat}
    {caller : ReadCaller}
    (single : SingleRead reader)
    (found : reader.calls.frames[index]? = some ⟨caller, some length⟩)
    (completed : AsgiWsReceiveMsg × List ReaderEvent) :
    length = offeredLength reader.msg ∧
      SingleRead (reader.loop index caller completed).1 := by
  obtain ⟨others, before, after⟩ := PendingCalls.offers_callAgain found
  exact single_of_perm single ⟨others, before, after _⟩

/-- Every step keeps the single read and moves the message as its label says. -/
theorem step_moved
    (single : SingleRead reader)
    (steps : step reader label = some (next, events)) :
    SingleRead next ∧ Moved reader.msg label next.msg events := by
  cases stepped_of_step steps with
  | @returns index _ _ fragment _ found fits loops =>
      subst loops
      obtain ⟨rfl, alone⟩ := singleRead_loop single found
        (readAsyncComplete (deliver reader.msg fragment) sOk
          fragment.payload.length fragment.utf8 fragment.final fragment.close)
      refine ⟨alone, ?_⟩
      rw [loop_msg, loop_events]
      exact .delivered fragment rfl rfl fits rfl
  | fails found loops =>
      subst loops
      obtain ⟨rfl, alone⟩ := singleRead_loop single found
        (readAsyncComplete reader.msg sOk _ false false false)
      refine ⟨alone, ?_⟩
      rw [loop_msg, loop_events]
      exact .failed sOk _ false false false rfl rfl _ rfl
  | pends found =>
      refine ⟨?_, .quiet rfl rfl⟩
      have kept := PendingCalls.offers_accept found
      rw [single] at kept
      exact List.perm_singleton.mp kept
  | leaves found =>
      refine ⟨?_, .quiet rfl rfl⟩
      exact (PendingCalls.offers_leave_accepted found).trans single
  | @calledBack index length hr fragment completed found fits completes =>
      obtain ⟨rfl, alone⟩ := single_of_perm single
        ⟨_, PendingCalls.offers_complete found,
          PendingCalls.offers_enter _ _ _⟩
      refine ⟨alone, ?_⟩
      cases fails : failed hr with
      | true =>
          simp only [if_true]
          exact .failed hr fragment.payload.length fragment.utf8
            fragment.final fragment.close
            (by rw [ReaderLabel.fragment, fails]; rfl) (by exact fails) _
            (by rw [completes, fails]; rfl)
      | false =>
          simp only [Bool.false_eq_true, if_false]
          have inside := fits.resolve_left (by simp [fails])
          exact .delivered fragment
            (by rw [ReaderLabel.fragment, fails]; rfl) (by exact fails)
            inside (by rw [completes, fails]; rfl)

end WsReader

end IisAsgiHandler
