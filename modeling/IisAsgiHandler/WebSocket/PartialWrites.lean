import IisAsgiHandler.Library.Buffer
import IisAsgiHandler.WebSocket.Serialisation

/-!
# Partial writes to a WebSocket

`WriteAsync` counts the bytes that have been written, but offers the start of
the message again.  A message that is written in several pieces arrives as it
is only where all of the pieces look like its start.
-/

namespace IisAsgiHandler

namespace WsWriter

/-- How many bytes each call has written. -/
def acceptedCounts (events : List WriterEvent) : List Nat :=
  events.filterMap fun
    | .wrote _ numBytes => some numBytes
    | _ => none

/-- No step reports a failure. -/
def Succeeds (_ : WsWriter) (label : WriterLabel) : Prop :=
  label.fails = false

instance (writer : WsWriter) (label : WriterLabel) :
    Decidable (Succeeds writer label) :=
  inferInstanceAs (Decidable (_ = false))

/-- A message has just been given to the writer. -/
structure Begun (msg : AsgiWsSendMsg) (writer : WsWriter) : Prop where
  serial : Serial writer
  writing : writer.asgiSendMsg = some msg
  fresh : writer.bytesWritten = 0

/-- No message is in writing, and no call is left to complete. -/
def Finished (writer : WsWriter) : Prop :=
  writer.asgiSendMsg = none ∧ writer.calls.offers = []

instance (writer : WsWriter) : Decidable (Finished writer) :=
  inferInstanceAs (Decidable (_ ∧ _))

/-- A callback that unpacks its message begins to write it. -/
theorem Begun.of_channelsCallback
    {unpack : Bytes → Option AsgiWsSendMsg}
    {writer next : WsWriter}
    {data : Bytes}
    {msg : AsgiWsSendMsg}
    {events : List WriterEvent}
    (serial : Serial writer)
    (waits : writer.callbacks = [⟨data, false⟩])
    (unpacked : unpack data = some msg)
    (steps : step unpack writer (.channelsCallback 0) = some (next, events)) :
    Begun msg next := by
  obtain ⟨kept, _⟩ := step_moved serial steps
  have found : writer.callbacks[0]? = some ⟨data, false⟩ := by rw [waits]; rfl
  obtain ⟨_, _, idle⟩ := serial.of_callback found
  simp only [step, found, unpacked, writeAsync, Option.some.injEq,
    Prod.mk.injEq] at steps
  obtain ⟨rfl, rfl⟩ := steps
  exact ⟨kept, rfl, serial.idle idle⟩

/-- How far a message has been written: with some pieces, but not all of it, or
to its end. -/
inductive Progress (msg : AsgiWsSendMsg) (counts : List Nat) :
    WsWriter → Prop
  | writing {writer : WsWriter}
      (inWriting : writer.asgiSendMsg = some msg)
      (counted : writer.bytesWritten = counts.sum)
      (more : counts ≠ [] → counts.sum < msg.bytes.length) :
      Progress msg counts writer
  | finished {writer : WsWriter}
      (idle : writer.asgiSendMsg = none)
      (noCallback : writer.callbacks = [])
      (nonempty : counts ≠ [])
      (whole : counts.sum = msg.bytes.length) :
      Progress msg counts writer

/-- What has been written of a message, in pieces taken from its front. -/
structure Written
    (msg : AsgiWsSendMsg)
    (trace : List WriterEvent)
    (writer : WsWriter) : Prop where
  serial : Serial writer
  within : (acceptedCounts trace).sum ≤ msg.bytes.length
  frames : (writtenFrames trace).flatten =
    Buffer.restarts msg.bytes (acceptedCounts trace)
  progress : Progress msg (acceptedCounts trace) writer

namespace Written

variable {unpack : Bytes → Option AsgiWsSendMsg}
variable {writer next : WsWriter}
variable {msg : AsgiWsSendMsg}
variable {label : WriterLabel}
variable {trace events : List WriterEvent}

theorem of_begun (begun : Begun msg writer) : Written msg [] writer where
  serial := begun.serial
  within := Nat.zero_le _
  frames := rfl
  progress := .writing begun.writing begun.fresh fun some => absurd rfl some

/-- A step that writes nothing. -/
theorem quiet
    (written : Written msg trace writer)
    (serial : Serial next)
    (progress : Progress msg (acceptedCounts trace) next) :
    Written msg (trace ++ []) next := by
  rw [List.append_nil]
  exact ⟨serial, written.within, written.frames, progress⟩

/-- Of the bytes that are offered, the first have been written. -/
theorem wrote
    (written : Written msg trace writer)
    (inWriting : writer.asgiSendMsg = some msg)
    {numBytes : Nat}
    (inside : numBytes ≤ (offered msg writer.bytesWritten).length)
    (serial : Serial next)
    (completes : Completed writer msg numBytes next events) :
    Written msg
      (trace ++ .wrote (offered msg writer.bytesWritten) numBytes :: events)
      next := by
  have counted : writer.bytesWritten = (acceptedCounts trace).sum := by
    cases written.progress with
    | writing _ counted _ => exact counted
    | finished idle _ _ _ =>
        rw [inWriting] at idle
        contradiction
  have remaining : numBytes ≤ msg.bytes.length - writer.bytesWritten := by
    refine Nat.le_trans inside ?_
    rw [offered, List.length_take]
    exact Nat.le_trans (Nat.min_le_left _ _) (Nat.mod_le _ _)
  have within := written.within
  have front : (offered msg writer.bytesWritten).take numBytes =
      msg.bytes.take numBytes := by
    rw [offered, List.length_take] at inside
    rw [offered, List.take_take, Nat.min_eq_left (by omega)]
  have others : acceptedCounts events = [] ∧ writtenFrames events = [] := by
    cases completes <;> exact ⟨rfl, rfl⟩
  have counts : acceptedCounts
      (trace ++ .wrote (offered msg writer.bytesWritten) numBytes :: events) =
      acceptedCounts trace ++ [numBytes] := by
    rw [acceptedCounts, List.filterMap_append]
    exact congrArg (fun rest => acceptedCounts trace ++ numBytes :: rest)
      others.1
  have frames : writtenFrames
      (trace ++ .wrote (offered msg writer.bytesWritten) numBytes :: events) =
      writtenFrames trace ++ [msg.bytes.take numBytes] := by
    rw [writtenFrames, List.filterMap_append, ← front]
    exact congrArg (fun rest => writtenFrames trace ++
      (offered msg writer.bytesWritten).take numBytes :: rest) others.2
  refine ⟨serial, ?_, ?_, ?_⟩
  · rw [counts, List.sum_append, List.sum_singleton]
    omega
  · rw [counts, frames, List.flatten_append, written.frames, Buffer.restarts,
      Buffer.restarts, List.flatMap_append]
    simp
  · rw [counts]
    cases completes with
    | finished calls done settled =>
        refine .finished rfl (written.serial.callbacks_eq_nil inWriting)
          (by simp) ?_
        rw [List.sum_append, List.sum_singleton]
        omega
    | continued calls more single =>
        refine .writing inWriting ?_ ?_
        · rw [List.sum_append, List.sum_singleton, counted]
        · intro _
          rw [List.sum_append, List.sum_singleton]
          omega

theorem step
    (written : Written msg trace writer)
    (succeeds : Succeeds writer label)
    (steps : step unpack writer label = some (next, events)) :
    Written msg (trace ++ events) next := by
  obtain ⟨serial, moved⟩ := step_moved written.serial steps
  have noCallback : writer.callbacks = [] := by
    cases written.progress with
    | writing inWriting _ _ => exact written.serial.callbacks_eq_nil inWriting
    | finished _ noCallback _ _ => exact noCallback
  cases moved with
  | quiet calls _ =>
      refine written.quiet serial ?_
      cases written.progress with
      | writing inWriting counted more => exact .writing inWriting counted more
      | finished idle none nonempty whole =>
          exact .finished idle none nonempty whole
  | thrown data waits malformed _ =>
      rw [noCallback] at waits
      contradiction
  | prepared data other calls waits unpacked idle _ =>
      rw [noCallback] at waits
      contradiction
  | completed other numBytes outcome inWriting reports completes =>
      have same : other = msg := by
        cases written.progress with
        | writing writing _ _ =>
            exact Option.some.inj (inWriting.symm.trans writing)
        | finished idle _ _ _ =>
            rw [inWriting] at idle
            contradiction
      subst same
      cases reports with
      | writeFailed fails =>
          rw [succeeds] at fails
          contradiction
      | wrote _ inside =>
          exact written.wrote inWriting inside serial completes

theorem of_run
    {labels : List WriterLabel}
    {state : WsWriter}
    (begun : Begun msg writer)
    (run : EventMachine.Run (WsWriter.step unpack) Succeeds writer labels trace
      state) :
    Written msg trace state :=
  run.preserves_trace (Written msg) (of_begun begun)
    fun _ _ _ _ _ written succeeds steps => written.step succeeds steps

/-- Once all bytes are accounted for, the writer has stopped. -/
theorem finished
    (written : Written msg trace writer)
    (some : acceptedCounts trace ≠ [])
    (whole : (acceptedCounts trace).sum = msg.bytes.length) :
    Finished writer := by
  have idle : writer.asgiSendMsg = none := by
    cases written.progress with
    | writing _ _ more => exact absurd whole (Nat.ne_of_lt (more some))
    | finished idle _ _ _ => exact idle
  refine ⟨idle, ?_⟩
  rw [written.serial.single, idle]
  rfl

end Written

/-- When the calls for a message together accept all of it, the writer has
stopped, and the socket has received the message exactly if each piece looks
like the start of the message. -/
theorem partial_writes_iff
    {unpack : Bytes → Option AsgiWsSendMsg}
    {writer state : WsWriter}
    {msg : AsgiWsSendMsg}
    {labels : List WriterLabel}
    {trace : List WriterEvent}
    (begun : Begun msg writer)
    (run : EventMachine.Run (step unpack) Succeeds writer labels trace state)
    (some : acceptedCounts trace ≠ [])
    (whole : (acceptedCounts trace).sum = msg.bytes.length) :
    (writtenFrames trace).flatten = msg.bytes ∧ Finished state ↔
      Buffer.Repeats msg.bytes 0 (acceptedCounts trace) := by
  have written := Written.of_run begun run
  have finished := written.finished some whole
  rw [and_iff_left finished, written.frames]
  have within : 0 + (acceptedCounts trace).sum ≤ msg.bytes.length := by
    rw [Nat.zero_add]
    exact written.within
  have pieces := Buffer.restarts_eq_iff within
  rw [List.drop_zero, whole, List.take_length] at pieces
  exact pieces

/-- A writer with a message that it has begun to write. -/
def writingSample (bytes : Bytes) : WsWriter :=
  { asgiSendMsg := some { bytes := bytes }
    calls := ({} : PendingCalls WriteCaller Bytes).enter .channelsCallback
      (offered { bytes := bytes } 0) }

theorem begun_writingSample (bytes : Bytes) :
    Begun { bytes := bytes } (writingSample bytes) := by
  have serial : Serial { callbacks := [⟨[], false⟩] } :=
    ⟨rfl, fun _ => rfl, Nat.le_refl 1⟩
  have steps : step (fun _ => some { bytes := bytes })
      { callbacks := [⟨[], false⟩] } (.channelsCallback 0) =
      some (writingSample bytes,
        [.writeFragment (offered { bytes := bytes } 0)]) := rfl
  exact Begun.of_channelsCallback serial rfl rfl steps

/-- The first call completes later, with one byte, and the next one at once. -/
def onePlusOne : List WriterLabel :=
  [.writePends 0, .leave 0, .writeCallback 0 sOk 1, .writeReturns 0 1]

theorem partial_writes_iff_sample :
    ∃ trace state,
      EventMachine.Run (step fun _ => none) Succeeds
        (writingSample (ascii "aa")) onePlusOne trace state ∧
      (writtenFrames trace).flatten = ascii "aa" ∧ Finished state := by
  have checked : EventMachine.checks (step fun _ => none) Succeeds
      (writingSample (ascii "aa")) onePlusOne
      (fun _ trace => acceptedCounts trace = [1, 1]) = true := by
    decide +kernel
  obtain ⟨trace, state, run, counts⟩ := EventMachine.Run.of_checks checked
  refine ⟨trace, state, run, ?_⟩
  refine (partial_writes_iff (begun_writingSample _) run ?_ ?_).mpr ?_
  · rw [counts]
    exact List.cons_ne_nil _ _
  · rw [counts]
    rfl
  · rw [counts]
    exact ⟨rfl, rfl, trivial⟩

/-- The start of the message is written twice. -/
theorem partial_writes_repeat :
    ∃ trace state,
      Begun { bytes := ascii "hi" } (writingSample (ascii "hi")) ∧
      EventMachine.Run (step fun _ => none) Succeeds
        (writingSample (ascii "hi")) onePlusOne trace state ∧
      acceptedCounts trace = [1, 1] ∧
      (writtenFrames trace).flatten = ascii "hh" ∧
      (writtenFrames trace).flatten ≠ ascii "hi" := by
  have checked : EventMachine.checks (step fun _ => none) Succeeds
      (writingSample (ascii "hi")) onePlusOne
      (fun _ trace => acceptedCounts trace = [1, 1] ∧
        (writtenFrames trace).flatten = ascii "hh") = true := by
    decide +kernel
  obtain ⟨trace, state, run, counts, frames⟩ :=
    EventMachine.Run.of_checks checked
  refine ⟨trace, state, begun_writingSample _, run, counts, frames, ?_⟩
  rw [frames]
  decide

end WsWriter

end IisAsgiHandler
