import IisAsgiHandler.WebSocket.Reader
import IisAsgiHandler.WebSocket.Serialisation

/-!
# Failures and closes of a WebSocket

The reader and the writer log a failure and go on as if the call had succeeded:
the length that a failed call was given, or that its callback reports, is
counted, and the next call or registration follows in the same stretch of code.
The close that a fragment reports is not looked at.
-/

namespace IisAsgiHandler

/-! ## The reader -/

/-- Whether the reader has seen a failure or a close. -/
def ReaderEvent.stops : ReaderEvent → Bool
  | .readFailed => true
  | .fragment delivered => delivered.close
  | _ => false

/-- Whether the reader goes on: it reads again, counts bytes, or sends. -/
def ReaderEvent.goesOn : ReaderEvent → Bool
  | .readFragment _ => true
  | .counted numBytes => decide (numBytes ≠ 0)
  | .send _ _ => true
  | _ => false

/-- Whether a label reports a failure or a close. -/
def ReaderLabel.stops (label : ReaderLabel) : Bool :=
  label.fails || label.fragment.any Fragment.close

namespace WsReader

/-- `ReadAsyncComplete` counts and sends; it reports nothing. -/
theorem readAsyncComplete_silent
    (msg : AsgiWsReceiveMsg)
    (hr : HResult)
    (numBytes : Nat)
    (utf8 final close : Bool) :
    ∀ event ∈ (readAsyncComplete msg hr numBytes utf8 final close).2,
      event.stops = false := by
  intro event member
  cases final with
  | true =>
      simp only [readAsyncComplete, sendToApplication, if_true, List.mem_cons,
        List.not_mem_nil, or_false] at member
      rcases member with rfl | rfl <;> rfl
  | false =>
      simp only [readAsyncComplete, Bool.false_eq_true, if_false] at member
      split at member
      · rw [List.mem_singleton.mp member]
        rfl
      · rw [List.mem_singleton.mp member]
        rfl

/-- Every run of a started reader has a single read at any time. -/
theorem singleRead_of_run
    {allowed : WsReader → ReaderLabel → Prop}
    {replyChannel requestPath : Bytes}
    {labels : List ReaderLabel}
    {trace : List ReaderEvent}
    {state : WsReader}
    (run : EventMachine.Run step allowed (started replyChannel requestPath)
      labels trace state) :
    SingleRead state :=
  run.preserves SingleRead (singleRead_start rfl _ _)
    fun _ _ _ _ single _ steps => (step_moved single steps).1

/-- After a failure or a close the reader stops, exactly when there is none. -/
theorem stopsAfter_iff
    {replyChannel requestPath : Bytes}
    {labels : List ReaderLabel}
    {trace : List ReaderEvent}
    {state : WsReader}
    (run : EventMachine.Run step EventMachine.always
      (started replyChannel requestPath) labels trace state) :
    EventMachine.StopsAfter ReaderEvent.stops ReaderEvent.goesOn trace ↔
      ∀ label ∈ labels, label.stops = false := by
  refine run.stopsAfter_iff _ _ ReaderLabel.stops ?_ ?_
  · intro labels trace state label next events run steps faultless
    have moved := (step_moved (singleRead_of_run run) steps).2
    generalize next.msg = msg at moved
    cases moved with
    | quiet missing succeeds => simp
    | delivered fragment delivers succeeds fits completes =>
        have open' : fragment.close = false := by
          simpa [ReaderLabel.stops, succeeds, delivers] using faultless
        intro event member
        rcases List.mem_cons.mp member with rfl | member
        · exact open'
        · rcases List.mem_append.mp member with completed | last
          · subst completes
            exact readAsyncComplete_silent _ _ _ _ _ _ event completed
          · rw [List.mem_singleton.mp last]
            rfl
    | failed hr numBytes utf8 final close missing fails =>
        simp [ReaderLabel.stops, fails] at faultless
  · intro labels trace state label next events run steps isFaulty
    have moved := (step_moved (singleRead_of_run run) steps).2
    generalize next.msg = msg at moved
    cases moved with
    | quiet missing succeeds =>
        simp [ReaderLabel.stops, succeeds, missing] at isFaulty
    | delivered fragment delivers succeeds fits completes =>
        have closes : fragment.close = true := by
          simpa [ReaderLabel.stops, succeeds, delivers] using isFaulty
        exact ⟨_, _, _, rfl, closes, rfl⟩
    | failed hr numBytes utf8 final close missing fails =>
        exact ⟨_, _, _, rfl, rfl, rfl⟩

end WsReader

/-! ## The writer -/

/-- Whether the writer has seen a failure. -/
def WriterEvent.stops : WriterEvent → Bool
  | .writeFailed => true
  | _ => false

/-- Whether the writer goes on: it writes again, counts bytes, or registers for
the next message. -/
def WriterEvent.goesOn : WriterEvent → Bool
  | .writeFragment _ => true
  | .counted numBytes => decide (numBytes ≠ 0)
  | .addChannel _ => true
  | _ => false

namespace WsWriter

variable {unpack : Bytes → Option AsgiWsSendMsg}
variable {random : Bytes}

/-- A failed call is followed by a registration or by the next call. -/
theorem Moved.stops
    {writer next : WsWriter}
    {label : WriterLabel}
    {events : List WriterEvent}
    (moved : Moved unpack writer label next events) :
    (label.fails = false → ∀ event ∈ events, event.stops = false) ∧
      (label.fails = true → ∃ stop middle last,
        events = stop :: (middle ++ [last]) ∧ stop.stops = true ∧
          last.goesOn = true) := by
  cases moved with
  | quiet calls succeeds => simp [succeeds]
  | thrown data waits malformed succeeds => simp [succeeds]
  | prepared data msg calls waits unpacked idle succeeds =>
      refine ⟨?_, by simp [succeeds]⟩
      intro _ event member
      rw [List.mem_singleton.mp member]
      rfl
  | completed msg numBytes outcome writing reports completes =>
      cases reports with
      | wrote succeeds inside =>
          refine ⟨?_, by simp [succeeds]⟩
          intro _ event member
          cases completes with
          | finished calls done settled =>
              simp only [List.mem_cons, List.not_mem_nil, or_false] at member
              rcases member with rfl | rfl | rfl <;> rfl
          | continued calls more single =>
              simp only [List.mem_cons, List.not_mem_nil, or_false] at member
              rcases member with rfl | rfl | rfl <;> rfl
      | writeFailed fails =>
          refine ⟨by simp [fails], ?_⟩
          intro _
          cases completes with
          | finished calls done settled => exact ⟨_, [_], _, rfl, rfl, rfl⟩
          | continued calls more single => exact ⟨_, [_], _, rfl, rfl, rfl⟩

/-- After a failure the writer stops, exactly when there is none. -/
theorem stopsAfter_iff
    {labels : List (SubscriberLabel WriterLabel)}
    {trace : List (SubscriberEvent WriterEvent)}
    {system : SubscriberSystem WsWriter}
    (run : WriterRun unpack random (fun _ _ => True) labels trace system) :
    EventMachine.StopsAfter (SubscriberEvent.onOwn WriterEvent.stops)
        (SubscriberEvent.onOwn WriterEvent.goesOn) trace ↔
      ∀ label ∈ labels, label.onOwn WriterLabel.fails = false := by
  have moves : ∀ labels trace system label next events,
      WriterRun unpack random (fun _ _ => True) labels trace system →
      (subscriber unpack).systemStep (sendChannel random) system (.own label) =
        some (next, events) →
      ∃ shown, events = shown.map SubscriberEvent.own ∧
        Moved unpack system.state label next.state shown := by
    intro labels trace system label next events run steps
    have law := WriterRun.law (fun _ _ => True) trivial
      (fun _ _ _ _ _ _ _ _ _ _ _ => trivial) run
    obtain ⟨shown, ownSteps, equal⟩ := Subscriber.systemStep_own steps
    exact ⟨shown, equal, (step_moved law.1.serial ownSteps).2⟩
  refine run.stopsAfter_iff _ _ (SubscriberLabel.onOwn WriterLabel.fails) ?_ ?_
  · intro labels trace system label next events run steps faultless
    cases label with
    | own label =>
        obtain ⟨shown, rfl, moved⟩ := moves _ _ _ _ _ _ run steps
        simpa [SubscriberEvent.onOwn] using moved.stops.1 faultless
    | _ => exact Subscriber.systemStep_other (by simp) steps _
  · intro labels trace system label next events run steps isFaulty
    cases label with
    | own label =>
        obtain ⟨shown, rfl, moved⟩ := moves _ _ _ _ _ _ run steps
        obtain ⟨stop, middle, last, rfl, shouldStop, continues⟩ :=
          moved.stops.2 isFaulty
        exact ⟨.own stop, middle.map .own, .own last, by simp, shouldStop,
          continues⟩
    | _ => contradiction

end WsWriter

/-! ## Both sides of a connection -/

/-- The reader stops after a failure or a close, and the writer after a
failure, exactly in the runs in which there is none. -/
theorem failures_stop_iff
    {replyChannel requestPath : Bytes}
    {readLabels : List ReaderLabel}
    {readTrace : List ReaderEvent}
    {reader : WsReader}
    {unpack : Bytes → Option AsgiWsSendMsg}
    {random : Bytes}
    {labels : List (SubscriberLabel WriterLabel)}
    {trace : List (SubscriberEvent WriterEvent)}
    {system : SubscriberSystem WsWriter}
    (readRun : EventMachine.Run WsReader.step EventMachine.always
      (WsReader.started replyChannel requestPath) readLabels readTrace reader)
    (writeRun : WsWriter.WriterRun unpack random (fun _ _ => True) labels trace
      system) :
    (EventMachine.StopsAfter ReaderEvent.stops ReaderEvent.goesOn readTrace ↔
        ∀ label ∈ readLabels, label.stops = false) ∧
      (EventMachine.StopsAfter (SubscriberEvent.onOwn WriterEvent.stops)
          (SubscriberEvent.onOwn WriterEvent.goesOn) trace ↔
        ∀ label ∈ labels, label.onOwn WriterLabel.fails = false) := by
  refine ⟨?_, ?_⟩
  · exact WsReader.stopsAfter_iff readRun
  · exact WsWriter.stopsAfter_iff writeRun

/-- A read, and a write of a message of two bytes. -/
theorem failures_stop_iff_sample :
    ∃ reads reader writes system,
      EventMachine.Run WsReader.step EventMachine.always
        (WsReader.started [] []) [.readReturns 0 { payload := [0x41] }] reads
        reader ∧
      WsWriter.WriterRun (WsWriter.unpackSends [ascii "hi", ascii "you"]) [0x41]
        (fun _ _ => True) WsWriter.sampleSends writes system ∧
      EventMachine.StopsAfter ReaderEvent.stops ReaderEvent.goesOn reads ∧
      EventMachine.StopsAfter (SubscriberEvent.onOwn WriterEvent.stops)
        (SubscriberEvent.onOwn WriterEvent.goesOn) writes := by
  have readChecked : EventMachine.checks WsReader.step EventMachine.always
      (WsReader.started [] []) [.readReturns 0 { payload := [0x41] }]
      (fun _ trace => (receivedMessages trace).length = 1) = true := by
    decide +kernel
  have writeChecked : EventMachine.checks
      ((WsWriter.subscriber (WsWriter.unpackSends
        [ascii "hi", ascii "you"])).systemStep (sendChannel [0x41]))
      (fun _ _ => True)
      (WsWriter.started (WsWriter.unpackSends [ascii "hi", ascii "you"])
        (sendChannel [0x41])) WsWriter.sampleSends
      (fun _ trace => (WsWriter.writtenFrames (ownEvents trace)).length = 2) =
        true := by
    decide +kernel
  obtain ⟨reads, reader, readRun, _⟩ := EventMachine.Run.of_checks readChecked
  obtain ⟨writes, system, writeRun, _⟩ :=
    EventMachine.Run.of_checks writeChecked
  have stops := failures_stop_iff readRun writeRun
  exact ⟨reads, reader, writes, system, readRun, writeRun,
    stops.1.mpr (by decide), stops.2.mpr (by decide)⟩

/-- After the failure of its first read, the reader counts the whole buffer as
read and reads again; after the failure of a write, the writer counts the
message as written and registers for the next one. -/
theorem failures_go_on :
    (∃ trace state,
      EventMachine.Run WsReader.step EventMachine.always
        (WsReader.started [] []) [.readFails 0] trace state ∧
      ¬ EventMachine.StopsAfter ReaderEvent.stops ReaderEvent.goesOn trace) ∧
    (∃ trace system,
      WsWriter.WriterRun (WsWriter.unpackSends [ascii "hi", ascii "you"]) [0x41]
        (fun _ _ => True)
        (WsWriter.sampleSends.take 6 ++ [.own (.writeFails 0)]) trace system ∧
      ¬ EventMachine.StopsAfter (SubscriberEvent.onOwn WriterEvent.stops)
        (SubscriberEvent.onOwn WriterEvent.goesOn) trace) := by
  have readChecked : EventMachine.checks WsReader.step EventMachine.always
      (WsReader.started [] []) [.readFails 0]
      (fun _ trace =>
        trace = [.readFailed, .counted 4096, .readFragment 8192]) = true := by
    decide +kernel
  have writeChecked : EventMachine.checks
      ((WsWriter.subscriber (WsWriter.unpackSends
        [ascii "hi", ascii "you"])).systemStep (sendChannel [0x41]))
      (fun _ _ => True)
      (WsWriter.started (WsWriter.unpackSends [ascii "hi", ascii "you"])
        (sendChannel [0x41]))
      (WsWriter.sampleSends.take 6 ++ [.own (.writeFails 0)])
      (fun _ trace => trace = trace.take 4 ++ [.own .writeFailed,
        .own (.counted 2), .own (.addChannel (sendChannel [0x41]))]) =
        true := by
    decide +kernel
  obtain ⟨reads, reader, readRun, rfl⟩ := EventMachine.Run.of_checks readChecked
  obtain ⟨writes, system, writeRun, shown⟩ :=
    EventMachine.Run.of_checks writeChecked
  refine ⟨⟨_, reader, readRun, ?_⟩, writes, system, writeRun, ?_⟩
  · exact EventMachine.not_stopsAfter (by rfl) (by rfl) []
      [ReaderEvent.counted 4096]
  · rw [shown]
    exact EventMachine.not_stopsAfter (by rfl) (by rfl) _
      [SubscriberEvent.own (WriterEvent.counted 2)]

end IisAsgiHandler
