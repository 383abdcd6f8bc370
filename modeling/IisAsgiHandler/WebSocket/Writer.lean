import IisAsgiHandler.Library.EventMachine
import IisAsgiHandler.Library.PendingCalls
import IisAsgiHandler.RequestHandler
import IisAsgiHandler.ResponsePump.Basic

/-!
# The writer of a WebSocket

`WsWriter` registers a callback for its reply channel, writes the message that
the callback is given, and registers again once the message has been written.
The callback runs in a task of the response pump, and an accepted call to
`WriteFragment` is completed by `WriteCallback`, possibly before the call has
returned; no lock is taken.

Every call passes the start of the message's bytes, and the number of bytes
that have not been written.
-/

namespace IisAsgiHandler

/-- The name of the reply channel of a connection. -/
def sendChannel (random : Bytes) : Bytes :=
  newChannel (ascii "websocket.send!") random

theorem sendChannel_ne_nil (random : Bytes) : sendChannel random ≠ [] := by
  have nonempty : ascii "websocket.send!" ≠ [] := by decide
  exact List.append_ne_nil_of_left_ne_nil nonempty _

/-- What a writer shows to the WebSocket module and to the response pump. -/
inductive WriterEvent
  /-- A call to `WriteFragment` is made with some bytes. -/
  | writeFragment (bytes : Bytes)
  /-- The first bytes of those that a call offers have been written to the
  socket, as one frame. -/
  | wrote (bytes : Bytes) (numBytes : Nat)
  /-- The writer receives the failure of a call. -/
  | writeFailed
  /-- `m_bytes_written` grows. -/
  | counted (numBytes : Nat)
  | addChannel (channel : Bytes)
  | fault (fault : Fault)
  deriving DecidableEq

/-- Who has called `WriteAsync`. -/
inductive WriteCaller
  | channelsCallback
  | writeCallback
  deriving DecidableEq

/-- A callback in a task of the pump, before it has prepared its message.  It
stays so when an exception ends it. -/
structure ChannelsCallback where
  data : Bytes
  thrown : Bool := false
  deriving DecidableEq

/-- The writer, with the callbacks that the pump has created tasks for, the
threads in its `WriteAsync` and its pending calls to `WriteFragment`. -/
structure WsWriter where
  replyChannel : Bytes := []
  asgiSendMsg : Option AsgiWsSendMsg := none
  bytesWritten : Nat := 0
  callbacks : List ChannelsCallback := []
  calls : PendingCalls WriteCaller Bytes := {}
  deriving DecidableEq

/-- What happens next to a writer. -/
inductive WriterLabel
  /-- A callback unpacks its message and calls `WriteAsync`. -/
  | channelsCallback (index : Nat)
  /-- `WriteFragment` completes at once. -/
  | writeReturns (index numBytes : Nat)
  /-- `WriteFragment` fails at once. -/
  | writeFails (index : Nat)
  /-- `WriteFragment` is accepted, to complete later. -/
  | writePends (index : Nat)
  /-- The accepted call returns, and `WriteAsync` with it. -/
  | leave (index : Nat)
  /-- The module calls `WriteCallback`. -/
  | writeCallback (index : Nat) (hr : HResult) (numBytes : Nat)
  deriving DecidableEq

namespace WsWriter

/-- `RegisterChannelsCallback`. -/
def registerChannelsCallback (writer : WsWriter) : List WriterEvent :=
  [.addChannel writer.replyChannel]

/-- `Start`. -/
def start (writer : WsWriter) (replyChannel : Bytes) :
    WsWriter × List WriterEvent :=
  let writer := { writer with replyChannel := replyChannel }
  (writer, writer.registerChannelsCallback)

/-- The bytes of a message that `WriteAsync` offers; their number is a
`DWORD`. -/
def offered (msg : AsgiWsSendMsg) (bytesWritten : Nat) : Bytes :=
  msg.bytes.take ((msg.bytes.length - bytesWritten) % dwordSize)

/-- A thread enters `WriteAsync`, up to its first call. -/
def writeAsync (writer : WsWriter) (caller : WriteCaller) :
    WsWriter × List WriterEvent :=
  match writer.asgiSendMsg with
  | none => (writer, [.fault .nullPointer])
  | some msg =>
      ({ writer with
          calls := writer.calls.enter caller (offered msg writer.bytesWritten) },
        [.writeFragment (offered msg writer.bytesWritten)])

/-- `WriteAsyncComplete`, with whether there is more to write.  The result is
not looked at. -/
def writeAsyncComplete (writer : WsWriter) (_hr : HResult) (numBytes : Nat) :
    WsWriter × Bool × List WriterEvent :=
  match writer.asgiSendMsg with
  | none => (writer, false, [.fault .nullPointer])
  | some msg =>
      if msg.bytes.length ≤ writer.bytesWritten + numBytes then
        ({ writer with asgiSendMsg := none, bytesWritten := 0 }, false,
          .counted numBytes :: writer.registerChannelsCallback)
      else
        ({ writer with bytesWritten := writer.bytesWritten + numBytes }, true,
          [.counted numBytes])

/-- The loop of `WriteAsync` goes on, in the same frame, after
`WriteAsyncComplete`; or the frame returns. -/
def loop
    (index : Nat)
    (caller : WriteCaller) :
    WsWriter × Bool × List WriterEvent → WsWriter × List WriterEvent
  | (writer, false, events) =>
      ({ writer with calls := writer.calls.leave index }, events)
  | (writer, true, events) =>
      match writer.asgiSendMsg with
      | none => (writer, events ++ [.fault .nullPointer])
      | some msg =>
          ({ writer with
              calls := writer.calls.callAgain index caller
                (offered msg writer.bytesWritten) },
            events ++ [.writeFragment (offered msg writer.bytesWritten)])

/-- `WriteCallback`, after `WriteAsyncComplete`. -/
def continueWriting :
    WsWriter × Bool × List WriterEvent → WsWriter × List WriterEvent
  | (writer, false, events) => (writer, events)
  | (writer, true, events) =>
      let entered := writer.writeAsync .writeCallback
      (entered.1, events ++ entered.2)

/-- What a label does to a writer. -/
def step (unpack : Bytes → Option AsgiWsSendMsg) :
    EventMachine WsWriter WriterLabel WriterEvent
  | writer, .channelsCallback index =>
      match writer.callbacks[index]? with
      | some { data, thrown := false } =>
          match unpack data with
          | none =>
              some ({ writer with
                callbacks := writer.callbacks.set index ⟨data, true⟩ }, [])
          | some msg =>
              some ({ writer with
                callbacks := writer.callbacks.eraseIdx index
                asgiSendMsg := some msg }.writeAsync .channelsCallback)
      | _ => none
  | writer, .writeReturns index numBytes =>
      match writer.calls.frames[index]? with
      | some ⟨caller, some bytes⟩ =>
          if numBytes ≤ bytes.length then
            let looped := loop index caller
              (writer.writeAsyncComplete sOk numBytes)
            some (looped.1, .wrote bytes numBytes :: looped.2)
          else none
      | _ => none
  | writer, .writeFails index =>
      match writer.calls.frames[index]? with
      | some ⟨caller, some bytes⟩ =>
          -- The number of bytes that the call was offered is still in place.
          let looped := loop index caller
            (writer.writeAsyncComplete sOk bytes.length)
          some (looped.1, .writeFailed :: looped.2)
      | _ => none
  | writer, .writePends index =>
      match writer.calls.frames[index]? with
      | some ⟨caller, some bytes⟩ =>
          some ({ writer with calls := writer.calls.accept index caller bytes },
            [])
      | _ => none
  | writer, .leave index =>
      match writer.calls.frames[index]? with
      | some ⟨_, none⟩ =>
          some ({ writer with calls := writer.calls.leave index }, [])
      | _ => none
  | writer, .writeCallback index hr numBytes =>
      match writer.calls.operations[index]? with
      | none => none
      | some bytes =>
          if failed hr = true ∨ numBytes ≤ bytes.length then
            let continued := continueWriting
              ({ writer with calls := writer.calls.complete index
                }.writeAsyncComplete hr numBytes)
            some (continued.1,
              (if failed hr then .writeFailed else .wrote bytes numBytes) ::
                continued.2)
          else none

end WsWriter

/-- Whether a label reports the failure of a write. -/
def WriterLabel.fails : WriterLabel → Bool
  | .writeFails _ => true
  | .writeCallback _ hr _ => failed hr
  | _ => false

/-! ## One message at a time -/

namespace WsWriter

variable {unpack : Bytes → Option AsgiWsSendMsg}
variable {writer next : WsWriter}
variable {label : WriterLabel}
variable {events : List WriterEvent}

/-- A writer that has not been started takes no step. -/
theorem step_empty (label : WriterLabel) : step unpack {} label = none := by
  cases label <;> rfl

/-- Everything that can happen to a writer. -/
inductive Stepped (unpack : Bytes → Option AsgiWsSendMsg) (writer : WsWriter) :
    WriterLabel → WsWriter → List WriterEvent → Prop
  | throws {index : Nat} {data : Bytes}
      (found : writer.callbacks[index]? = some ⟨data, false⟩)
      (malformed : unpack data = none) :
      Stepped unpack writer (.channelsCallback index)
        { writer with callbacks := writer.callbacks.set index ⟨data, true⟩ } []
  | prepares {index : Nat} {data : Bytes} {msg : AsgiWsSendMsg}
      {entered : WsWriter × List WriterEvent}
      (found : writer.callbacks[index]? = some ⟨data, false⟩)
      (unpacked : unpack data = some msg)
      (enters : entered = { writer with
        callbacks := writer.callbacks.eraseIdx index
        asgiSendMsg := some msg }.writeAsync .channelsCallback) :
      Stepped unpack writer (.channelsCallback index) entered.1 entered.2
  | returns {index numBytes : Nat} {caller : WriteCaller} {bytes : Bytes}
      {looped : WsWriter × List WriterEvent}
      (found : writer.calls.frames[index]? = some ⟨caller, some bytes⟩)
      (inside : numBytes ≤ bytes.length)
      (loops : looped =
        loop index caller (writer.writeAsyncComplete sOk numBytes)) :
      Stepped unpack writer (.writeReturns index numBytes) looped.1
        (.wrote bytes numBytes :: looped.2)
  | fails {index : Nat} {caller : WriteCaller} {bytes : Bytes}
      {looped : WsWriter × List WriterEvent}
      (found : writer.calls.frames[index]? = some ⟨caller, some bytes⟩)
      (loops : looped =
        loop index caller (writer.writeAsyncComplete sOk bytes.length)) :
      Stepped unpack writer (.writeFails index) looped.1
        (.writeFailed :: looped.2)
  | pends {index : Nat} {caller : WriteCaller} {bytes : Bytes}
      (found : writer.calls.frames[index]? = some ⟨caller, some bytes⟩) :
      Stepped unpack writer (.writePends index)
        { writer with calls := writer.calls.accept index caller bytes } []
  | leaves {index : Nat} {caller : WriteCaller}
      (found : writer.calls.frames[index]? = some ⟨caller, none⟩) :
      Stepped unpack writer (.leave index)
        { writer with calls := writer.calls.leave index } []
  | calledBack {index numBytes : Nat} {hr : HResult} {bytes : Bytes}
      {continued : WsWriter × List WriterEvent}
      (found : writer.calls.operations[index]? = some bytes)
      (inside : failed hr = true ∨ numBytes ≤ bytes.length)
      (continues : continued = continueWriting ({ writer with
        calls := writer.calls.complete index
          }.writeAsyncComplete hr numBytes)) :
      Stepped unpack writer (.writeCallback index hr numBytes) continued.1
        ((if failed hr then .writeFailed else .wrote bytes numBytes) ::
          continued.2)

theorem stepped_of_step
    (steps : step unpack writer label = some (next, events)) :
    Stepped unpack writer label next events := by
  cases label with
  | channelsCallback index =>
      simp only [step] at steps
      split at steps
      · rename_i data found
        split at steps
        · rename_i malformed
          cases steps
          exact .throws found malformed
        · rename_i msg unpacked
          cases steps
          exact .prepares found unpacked rfl
      · contradiction
  | writeReturns index numBytes =>
      simp only [step] at steps
      split at steps
      · rename_i caller bytes found
        split at steps
        · rename_i inside
          cases steps
          exact .returns found inside rfl
        · contradiction
      · contradiction
  | writeFails index =>
      simp only [step] at steps
      split at steps
      · rename_i caller bytes found
        cases steps
        exact .fails found rfl
      · contradiction
  | writePends index =>
      simp only [step] at steps
      split at steps
      · rename_i caller bytes found
        cases steps
        exact .pends found
      · contradiction
  | leave index =>
      simp only [step] at steps
      split at steps
      · rename_i caller found
        cases steps
        exact .leaves found
      · contradiction
  | writeCallback index hr numBytes =>
      simp only [step] at steps
      split at steps
      · contradiction
      · rename_i bytes found
        split at steps
        · rename_i inside
          cases steps
          exact .calledBack found inside rfl
        · contradiction

theorem writeAsync_registers (writer : WsWriter) (caller : WriteCaller) :
    (writer.writeAsync caller).1.replyChannel = writer.replyChannel ∧
      ∀ channel, .addChannel channel ∉ (writer.writeAsync caller).2 := by
  rw [writeAsync]
  split
  · exact ⟨rfl, by simp⟩
  · exact ⟨rfl, by simp⟩

theorem writeAsyncComplete_registers
    (writer : WsWriter)
    (hr : HResult)
    (numBytes : Nat) :
    (writer.writeAsyncComplete hr numBytes).1.replyChannel =
        writer.replyChannel ∧
      ∀ channel,
        .addChannel channel ∈ (writer.writeAsyncComplete hr numBytes).2.2 →
        channel = writer.replyChannel := by
  rw [writeAsyncComplete]
  split
  · exact ⟨rfl, by simp⟩
  · split
    · exact ⟨rfl, by simp [registerChannelsCallback]⟩
    · exact ⟨rfl, by simp⟩

theorem loop_registers
    (index : Nat)
    (caller : WriteCaller)
    (completed : WsWriter × Bool × List WriterEvent) :
    (loop index caller completed).1.replyChannel = completed.1.replyChannel ∧
      ∀ channel, .addChannel channel ∈ (loop index caller completed).2 →
        .addChannel channel ∈ completed.2.2 := by
  obtain ⟨writer, more, events⟩ := completed
  cases more with
  | false => exact ⟨rfl, fun _ member => member⟩
  | true =>
      simp only [loop]
      split
      · exact ⟨rfl, by simp⟩
      · exact ⟨rfl, by simp⟩

/-- A frame whose call completes at once registers the writer's channel, or
none. -/
theorem loop_completed_registers
    (writer : WsWriter)
    (index : Nat)
    (caller : WriteCaller)
    (hr : HResult)
    (numBytes : Nat) :
    (loop index caller (writer.writeAsyncComplete hr numBytes)).1.replyChannel =
        writer.replyChannel ∧
      ∀ channel, .addChannel channel ∈
          (loop index caller (writer.writeAsyncComplete hr numBytes)).2 →
        channel = writer.replyChannel := by
  obtain ⟨completed, counted⟩ := writer.writeAsyncComplete_registers hr numBytes
  obtain ⟨kept, looped⟩ := loop_registers index caller
    (writer.writeAsyncComplete hr numBytes)
  refine ⟨kept.trans completed, ?_⟩
  intro channel member
  exact counted channel (looped channel member)

theorem continueWriting_registers
    (completed : WsWriter × Bool × List WriterEvent) :
    (continueWriting completed).1.replyChannel = completed.1.replyChannel ∧
      ∀ channel, .addChannel channel ∈ (continueWriting completed).2 →
        .addChannel channel ∈ completed.2.2 := by
  obtain ⟨writer, more, events⟩ := completed
  cases more with
  | false => exact ⟨rfl, fun _ member => member⟩
  | true =>
      obtain ⟨kept, none⟩ := writeAsync_registers writer .writeCallback
      refine ⟨kept, ?_⟩
      intro channel member
      rcases List.mem_append.mp member with earlier | entered
      · exact earlier
      · exact absurd entered (none channel)

/-- A writer keeps its channel and registers no other. -/
theorem step_registers
    (steps : step unpack writer label = some (next, events)) :
    next.replyChannel = writer.replyChannel ∧
      ∀ channel, .addChannel channel ∈ events →
        channel = writer.replyChannel := by
  cases stepped_of_step steps with
  | throws | pends | leaves => exact ⟨rfl, by simp⟩
  | @prepares index _ msg _ _ _ enters =>
      subst enters
      obtain ⟨kept, none⟩ := writeAsync_registers { writer with
        callbacks := writer.callbacks.eraseIdx index
        asgiSendMsg := some msg } .channelsCallback
      exact ⟨kept, fun channel member => absurd member (none channel)⟩
  | returns _ _ loops | fails _ loops =>
      subst loops
      obtain ⟨kept, registers⟩ := writer.loop_completed_registers _ _ sOk _
      exact ⟨kept, fun channel member =>
        registers channel (by simpa using member)⟩
  | @calledBack index numBytes hr _ _ _ _ continues =>
      subst continues
      obtain ⟨completed, counted⟩ := writeAsyncComplete_registers
        { writer with calls := writer.calls.complete index } hr numBytes
      obtain ⟨kept, continued⟩ := continueWriting_registers
        ({ writer with calls := writer.calls.complete index
          }.writeAsyncComplete hr numBytes)
      refine ⟨kept.trans completed, ?_⟩
      intro channel member
      refine counted channel (continued channel ?_)
      rcases List.mem_cons.mp member with outcome | later
      · split at outcome <;> contradiction
      · exact later

@[simp] theorem writeAsync_callbacks (writer : WsWriter) (caller : WriteCaller) :
    (writer.writeAsync caller).1.callbacks = writer.callbacks := by
  rw [writeAsync]
  split <;> rfl

@[simp] theorem writeAsyncComplete_callbacks
    (writer : WsWriter)
    (hr : HResult)
    (numBytes : Nat) :
    (writer.writeAsyncComplete hr numBytes).1.callbacks = writer.callbacks := by
  rw [writeAsyncComplete]
  split
  · rfl
  · split <;> rfl

@[simp] theorem loop_callbacks
    (index : Nat)
    (caller : WriteCaller)
    (completed : WsWriter × Bool × List WriterEvent) :
    (loop index caller completed).1.callbacks = completed.1.callbacks := by
  obtain ⟨writer, more, events⟩ := completed
  cases more with
  | false => rfl
  | true =>
      simp only [loop]
      split <;> rfl

@[simp] theorem continueWriting_callbacks
    (completed : WsWriter × Bool × List WriterEvent) :
    (continueWriting completed).1.callbacks = completed.1.callbacks := by
  obtain ⟨writer, more, events⟩ := completed
  cases more with
  | false => rfl
  | true => exact writer.writeAsync_callbacks .writeCallback

/-- Only a callback that begins changes the callbacks. -/
theorem step_callbacks
    (other : ∀ index, label ≠ .channelsCallback index)
    (steps : step unpack writer label = some (next, events)) :
    next.callbacks = writer.callbacks := by
  cases stepped_of_step steps with
  | throws | prepares => exact absurd rfl (other _)
  | pends | leaves => rfl
  | returns _ _ loops | fails _ loops => simp [loops]
  | calledBack _ _ continues => simp [continues]

/-- At most one message is in hand, by a callback or in writing, and exactly
the one in writing has a call that is not over. -/
structure Serial (writer : WsWriter) : Prop where
  single : writer.calls.offers =
    (writer.asgiSendMsg.map fun msg =>
      offered msg writer.bytesWritten).toList
  idle : writer.asgiSendMsg = none → writer.bytesWritten = 0
  exclusive : writer.callbacks.length + writer.asgiSendMsg.toList.length ≤ 1

/-- What follows a call of which some bytes have been counted. -/
inductive Completed
    (writer : WsWriter)
    (msg : AsgiWsSendMsg)
    (numBytes : Nat) : WsWriter → List WriterEvent → Prop
  | finished (calls : PendingCalls WriteCaller Bytes)
      (done : msg.bytes.length ≤ writer.bytesWritten + numBytes)
      (settled : calls.offers = []) :
      Completed writer msg numBytes
        { writer with asgiSendMsg := none, bytesWritten := 0, calls := calls }
        [.counted numBytes, .addChannel writer.replyChannel]
  | continued (calls : PendingCalls WriteCaller Bytes)
      (more : writer.bytesWritten + numBytes < msg.bytes.length)
      (single : calls.offers = [offered msg (writer.bytesWritten + numBytes)]) :
      Completed writer msg numBytes
        { writer with
          bytesWritten := writer.bytesWritten + numBytes
          calls := calls }
        [.counted numBytes,
          .writeFragment (offered msg (writer.bytesWritten + numBytes))]

/-- What a label reports of the call that offers some bytes. -/
inductive Outcome (label : WriterLabel) (bytes : Bytes) :
    Nat → WriterEvent → Prop
  | wrote (numBytes : Nat)
      (succeeds : label.fails = false)
      (inside : numBytes ≤ bytes.length) :
      Outcome label bytes numBytes (.wrote bytes numBytes)
  | writeFailed (numBytes : Nat) (fails : label.fails = true) :
      Outcome label bytes numBytes .writeFailed

/-- What a step does to a writer with at most one message in hand. -/
inductive Moved
    (unpack : Bytes → Option AsgiWsSendMsg)
    (writer : WsWriter)
    (label : WriterLabel) : WsWriter → List WriterEvent → Prop
  | quiet (calls : PendingCalls WriteCaller Bytes) (succeeds : label.fails = false) :
      Moved unpack writer label { writer with calls := calls } []
  | thrown (data : Bytes)
      (waits : writer.callbacks = [⟨data, false⟩])
      (malformed : unpack data = none)
      (succeeds : label.fails = false) :
      Moved unpack writer label { writer with callbacks := [⟨data, true⟩] } []
  | prepared (data : Bytes) (msg : AsgiWsSendMsg)
      (calls : PendingCalls WriteCaller Bytes)
      (waits : writer.callbacks = [⟨data, false⟩])
      (unpacked : unpack data = some msg)
      (idle : writer.asgiSendMsg = none)
      (succeeds : label.fails = false) :
      Moved unpack writer label
        { writer with
          asgiSendMsg := some msg
          bytesWritten := 0
          callbacks := []
          calls := calls }
        [.writeFragment (offered msg 0)]
  | completed (msg : AsgiWsSendMsg) (numBytes : Nat) (outcome : WriterEvent)
      {next : WsWriter} {events : List WriterEvent}
      (writing : writer.asgiSendMsg = some msg)
      (reports : Outcome label (offered msg writer.bytesWritten) numBytes outcome)
      (completes : Completed writer msg numBytes next events) :
      Moved unpack writer label next (outcome :: events)

/-- The only call that is not over offers bytes of the message in writing. -/
theorem Serial.of_offers
    {bytes : Bytes}
    {others : List Bytes}
    (serial : Serial writer)
    (offers : writer.calls.offers.Perm (bytes :: others)) :
    ∃ msg, writer.asgiSendMsg = some msg ∧
      bytes = offered msg writer.bytesWritten ∧ others = [] := by
  rw [serial.single] at offers
  cases writing : writer.asgiSendMsg with
  | none =>
      rw [writing] at offers
      exact absurd offers.symm.eq_nil (List.cons_ne_nil _ _)
  | some msg =>
      rw [writing] at offers
      have equal := List.perm_singleton.mp offers.symm
      simp only [List.cons.injEq] at equal
      exact ⟨msg, rfl, equal⟩

/-- A writer that is writing has no callback. -/
theorem Serial.callbacks_eq_nil
    {msg : AsgiWsSendMsg}
    (serial : Serial writer)
    (writing : writer.asgiSendMsg = some msg) :
    writer.callbacks = [] := by
  have exclusive := serial.exclusive
  rw [writing, Option.toList_some, List.length_singleton] at exclusive
  exact List.eq_nil_of_length_eq_zero (by omega)

/-- A callback is the only one, and no message is in writing. -/
theorem Serial.of_callback
    {index : Nat}
    {callback : ChannelsCallback}
    (serial : Serial writer)
    (found : writer.callbacks[index]? = some callback) :
    writer.callbacks = [callback] ∧ index = 0 ∧ writer.asgiSendMsg = none := by
  have exclusive := serial.exclusive
  cases callbacks : writer.callbacks with
  | nil => simp [callbacks] at found
  | cons first rest =>
      rw [callbacks, List.length_cons] at exclusive
      have noMore : rest = [] := List.eq_nil_of_length_eq_zero (by omega)
      have notWriting : writer.asgiSendMsg.toList = [] :=
        List.eq_nil_of_length_eq_zero (by omega)
      subst noMore
      rw [callbacks] at found
      cases index with
      | zero =>
          simp only [List.getElem?_cons_zero, Option.some.injEq] at found
          exact ⟨by rw [found], rfl, Option.toList_eq_nil_iff.mp notWriting⟩
      | succ index => simp at found

theorem Serial.completed
    {msg : AsgiWsSendMsg}
    {numBytes : Nat}
    (serial : Serial writer)
    (writing : writer.asgiSendMsg = some msg)
    (completes : Completed writer msg numBytes next events) :
    Serial next := by
  have noCallback := serial.callbacks_eq_nil writing
  cases completes with
  | finished calls done settled => exact ⟨settled, fun _ => rfl, by simp [noCallback]⟩
  | continued calls more single =>
      refine ⟨by rw [single, writing]; rfl, ?_, serial.exclusive⟩
      intro idle
      rw [writing] at idle
      contradiction

/-- A frame whose call is over returns, or calls again. -/
theorem Serial.completed_loop
    {index : Nat}
    {caller : WriteCaller}
    {bytes : Bytes}
    {msg : AsgiWsSendMsg}
    (serial : Serial writer)
    (found : writer.calls.frames[index]? = some ⟨caller, some bytes⟩)
    (writing : writer.asgiSendMsg = some msg)
    (hr : HResult)
    (numBytes : Nat) :
    Completed writer msg numBytes
      (loop index caller (writer.writeAsyncComplete hr numBytes)).1
      (loop index caller (writer.writeAsyncComplete hr numBytes)).2 := by
  rw [writeAsyncComplete, writing]
  by_cases done : msg.bytes.length ≤ writer.bytesWritten + numBytes
  · simp only [if_pos done, loop]
    obtain ⟨_, _, _, settled⟩ :=
      serial.of_offers (PendingCalls.offers_leave_calling found)
    exact .finished _ done settled
  · simp only [if_neg done, loop]
    obtain ⟨others, before, after⟩ := PendingCalls.offers_callAgain found
    obtain ⟨_, _, _, rfl⟩ := serial.of_offers before
    rw [← writing]
    exact .continued _ (Nat.lt_of_not_le done)
      (List.perm_singleton.mp (after _))

/-- A pending call that is completed ends the writing, or is followed by
another call. -/
theorem Serial.completed_callback
    {index : Nat}
    {bytes : Bytes}
    {msg : AsgiWsSendMsg}
    (serial : Serial writer)
    (found : writer.calls.operations[index]? = some bytes)
    (writing : writer.asgiSendMsg = some msg)
    (hr : HResult)
    (numBytes : Nat) :
    Completed writer msg numBytes
      (continueWriting ({ writer with
        calls := writer.calls.complete index }.writeAsyncComplete hr numBytes)).1
      (continueWriting ({ writer with
        calls := writer.calls.complete index
          }.writeAsyncComplete hr numBytes)).2 := by
  obtain ⟨_, _, _, settled⟩ :=
    serial.of_offers (PendingCalls.offers_complete found)
  rw [writeAsyncComplete, writing]
  by_cases done : msg.bytes.length ≤ writer.bytesWritten + numBytes
  · simp only [if_pos done, continueWriting]
    exact .finished _ done settled
  · simp only [if_neg done, continueWriting, writeAsync]
    have entered := PendingCalls.offers_enter (writer.calls.complete index)
      WriteCaller.writeCallback
      (offered msg (writer.bytesWritten + numBytes))
    rw [settled] at entered
    rw [← writing]
    exact .continued _ (Nat.lt_of_not_le done) (List.perm_singleton.mp entered)

/-- Every step keeps at most one message in hand and moves the writer as its
label says. -/
theorem step_moved
    (serial : Serial writer)
    (steps : step unpack writer label = some (next, events)) :
    Serial next ∧ Moved unpack writer label next events := by
  cases stepped_of_step steps with
  | throws found malformed =>
      obtain ⟨waits, rfl, idle⟩ := serial.of_callback found
      rw [waits, List.set_cons_zero]
      exact ⟨⟨serial.single, serial.idle, by simp [idle]⟩,
        .thrown _ waits malformed rfl⟩
  | @prepares _ data msg _ found unpacked enters =>
      obtain ⟨waits, rfl, idle⟩ := serial.of_callback found
      subst enters
      have entered := PendingCalls.offers_enter writer.calls
        WriteCaller.channelsCallback (offered msg writer.bytesWritten)
      rw [serial.single, idle, serial.idle idle] at entered
      simp only [writeAsync]
      rw [waits, List.eraseIdx_cons_zero, serial.idle idle]
      refine ⟨⟨List.perm_singleton.mp entered, ?_, Nat.le_refl 1⟩,
        .prepared data msg _ waits unpacked idle rfl⟩
      intro notWriting
      contradiction
  | @returns index numBytes _ _ _ found inside loops =>
      subst loops
      obtain ⟨msg, writing, rfl, _⟩ :=
        serial.of_offers (PendingCalls.offers_leave_calling found)
      have completes := serial.completed_loop found writing sOk numBytes
      exact ⟨serial.completed writing completes,
        .completed msg numBytes _ writing (.wrote numBytes rfl inside)
          completes⟩
  | fails found loops =>
      subst loops
      obtain ⟨msg, writing, rfl, _⟩ :=
        serial.of_offers (PendingCalls.offers_leave_calling found)
      have completes := serial.completed_loop found writing sOk
        (offered msg writer.bytesWritten).length
      exact ⟨serial.completed writing completes,
        .completed msg _ _ writing (.writeFailed _ rfl) completes⟩
  | pends found =>
      refine ⟨⟨?_, serial.idle, serial.exclusive⟩, .quiet _ rfl⟩
      obtain ⟨msg, writing, rfl, _⟩ :=
        serial.of_offers (PendingCalls.offers_leave_calling found)
      have kept := PendingCalls.offers_accept found
      rw [serial.single, writing] at kept
      rw [writing]
      exact List.perm_singleton.mp kept
  | leaves found =>
      refine ⟨⟨?_, serial.idle, serial.exclusive⟩, .quiet _ rfl⟩
      exact (PendingCalls.offers_leave_accepted found).trans serial.single
  | @calledBack index numBytes hr _ _ found fits continues =>
      subst continues
      obtain ⟨msg, writing, rfl, _⟩ :=
        serial.of_offers (PendingCalls.offers_complete found)
      have completes := serial.completed_callback found writing hr numBytes
      refine ⟨serial.completed writing completes,
        .completed msg numBytes _ writing ?_ completes⟩
      cases fails : failed hr with
      | true =>
          rw [if_pos rfl]
          exact .writeFailed numBytes fails
      | false =>
          have inside := fits.resolve_left (by simp [fails])
          rw [if_neg (by simp)]
          exact .wrote numBytes fails inside

end WsWriter

end IisAsgiHandler
