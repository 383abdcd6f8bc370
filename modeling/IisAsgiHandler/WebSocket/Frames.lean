import IisAsgiHandler.WebSocket.Connection
import IisAsgiHandler.WebSocket.Serialisation

/-!
# The frames of a connection

A connection that starts its writer once writes the messages of its reply
channel in order, whatever the pipeline, the reader and other threads do.  Until
the writer is started the messages wait in the channel.
-/

namespace IisAsgiHandler

open WsWriter (TokenLaw FramesLaw InHand AcceptsAll writtenFrames)

/-- The events of the writer of a connection. -/
def writerEvents (events : List WsEvent) : List WriterEvent :=
  events.filterMap fun
    | .writer event => some event
    | _ => none

/-- What the writer of a connection takes part in. -/
def writerTrace (trace : List (SubscriberEvent WsEvent)) :
    List (SubscriberEvent WriterEvent) :=
  trace.filterMap fun
    | .own (.writer event) => some (.own event)
    | .own _ => none
    | .sent channel data => some (.sent channel data)
    | .dispatched data => some (.dispatched data)

section Traces

variable (trace events : List (SubscriberEvent WsEvent))
variable (shown : List WsEvent)

@[simp] theorem writerEvents_append (later : List WsEvent) :
    writerEvents (shown ++ later) = writerEvents shown ++ writerEvents later :=
  List.filterMap_append

@[simp] theorem writerEvents_writer (events : List WriterEvent) :
    writerEvents (events.map .writer) = events := by
  simp [writerEvents, List.filterMap_map]

@[simp] theorem writerTrace_append :
    writerTrace (trace ++ events) = writerTrace trace ++ writerTrace events :=
  List.filterMap_append

@[simp] theorem writerTrace_own :
    writerTrace (shown.map .own) = (writerEvents shown).map .own := by
  induction shown with
  | nil => rfl
  | cons event shown inductionHypothesis =>
      cases event <;> simp_all [writerTrace, writerEvents]

@[simp] theorem ownEvents_writerTrace :
    ownEvents (writerTrace trace) = writerEvents (ownEvents trace) := by
  induction trace with
  | nil => rfl
  | cons event trace inductionHypothesis =>
      cases event with
      | own event =>
          cases event <;> simp_all [writerTrace, writerEvents, ownEvents]
      | _ => simp_all [writerTrace, writerEvents, ownEvents]

@[simp] theorem sentToChannel_writerTrace (channel : Bytes) :
    sentToChannel channel (writerTrace trace) = sentToChannel channel trace := by
  induction trace with
  | nil => rfl
  | cons event trace inductionHypothesis =>
      cases event with
      | own event => cases event <;> simp_all [writerTrace, sentToChannel]
      | _ => simp_all [writerTrace, sentToChannel, List.filterMap_cons]

@[simp] theorem dispatchedData_writerTrace :
    dispatchedData (writerTrace trace) = dispatchedData trace := by
  induction trace with
  | nil => rfl
  | cons event trace inductionHypothesis =>
      cases event with
      | own event => cases event <;> simp_all [writerTrace, dispatchedData]
      | _ => simp_all [writerTrace, dispatchedData]

end Traces

/-- A failed label shows the failure of a write. -/
theorem WsWriter.writeFailed_of_fails
    {unpack : Bytes → Option AsgiWsSendMsg}
    {writer next : WsWriter}
    {label : WriterLabel}
    {events : List WriterEvent}
    (steps : WsWriter.step unpack writer label = some (next, events))
    (fails : label.fails = true) :
    .writeFailed ∈ events := by
  cases WsWriter.stepped_of_step steps with
  | fails => exact List.mem_cons_self
  | calledBack found inside continues =>
      simp only [WriterLabel.fails] at fails
      simp [fails]
  | _ => cases fails

/-- How far the writer of a connection has come. -/
inductive WriterProgress
    (unpack : Bytes → Option AsgiWsSendMsg)
    (channel : Bytes)
    (trace : List (SubscriberEvent WsEvent))
    (writer : WsWriter)
    (view : ChannelView) : Prop
  /-- Nothing has been handed over before the start. -/
  | unstarted
      (starts : (ownEvents trace).count .startWriter = 0)
      (untouched : writer = {})
      (unregistered : view.registered = false)
      (nothingHeld : view.held = none)
      (accounts : SubscriberSystem.Accounts channel trace view)
      (nothingDispatched : dispatchedData trace = [])
      (silent : writerEvents (ownEvents trace) = [])
  | started
      (starts : (ownEvents trace).count .startWriter = 1)
      (token : TokenLaw unpack channel (writerTrace trace) writer view)
      (frames : .writeFailed ∉ writerEvents (ownEvents trace) →
        FramesLaw unpack (writerTrace trace) writer)
  | restarted (starts : 2 ≤ (ownEvents trace).count .startWriter)

namespace WriterProgress

variable {unpack : Bytes → Option AsgiWsSendMsg}
variable {request : HttpRequest}
variable {channel : Bytes}
variable {trace events : List (SubscriberEvent WsEvent)}
variable {writer next : WsWriter}
variable {view viewNext : ChannelView}

/-- A step that starts nothing and leaves the writer and its registration
alone. -/
theorem others
    {shown : List WsEvent}
    (progress : WriterProgress unpack channel trace writer view)
    (noStart : .startWriter ∉ shown)
    (silent : writerEvents shown = []) :
    WriterProgress unpack channel (trace ++ shown.map .own) writer view := by
  have starts : (ownEvents (trace ++ shown.map SubscriberEvent.own)).count
      .startWriter = (ownEvents trace).count .startWriter := by
    rw [ownEvents_append, ownEvents_own, List.count_append,
      List.count_eq_zero_of_not_mem noStart, Nat.add_zero]
  have sameTrace : writerTrace (trace ++ shown.map .own) = writerTrace trace := by
    rw [writerTrace_append, writerTrace_own, silent, List.map_nil,
      List.append_nil]
  have sameEvents : writerEvents (ownEvents (trace ++ shown.map
      SubscriberEvent.own)) = writerEvents (ownEvents trace) := by
    rw [ownEvents_append, ownEvents_own, writerEvents_append, silent,
      List.append_nil]
  cases progress with
  | unstarted isStart untouched unregistered nothingHeld accounts
      nothingDispatched quiet =>
      refine .unstarted (starts.trans isStart) untouched unregistered nothingHeld
        ?_ ?_ (sameEvents.trans quiet)
      · simpa [SubscriberSystem.Accounts] using accounts
      · simpa using nothingDispatched
  | started isStart token frames =>
      refine .started (starts.trans isStart) (sameTrace ▸ token) ?_
      rw [sameEvents, sameTrace]
      exact frames
  | restarted isStart => exact .restarted (isStart.trans starts.ge)

/-- The writer is started. -/
theorem start
    (progress : WriterProgress unpack channel trace writer view) :
    WriterProgress unpack channel
      (trace ++ [.own .startWriter, .own (.writer (.addChannel channel))])
      { writer with replyChannel := channel } { view with registered := true } := by
  have starts : (ownEvents (trace ++
      [.own .startWriter, .own (.writer (.addChannel channel))])).count
        .startWriter = (ownEvents trace).count .startWriter + 1 := by
    simp [ownEvents]
  cases progress with
  | unstarted isStart untouched unregistered nothingHeld accounts
      nothingDispatched quiet =>
      subst untouched
      refine .started (by rw [starts, isStart]) ?_ fun _ _ _ => ?_
      · refine ⟨⟨rfl, fun _ => rfl, Nat.zero_le 1⟩, rfl, rfl, ?_, by simp⟩
        simp only [SubscriberSystem.Accounts] at accounts ⊢
        rw [sentToChannel_writerTrace, dispatchedData_writerTrace,
          sentToChannel_append, dispatchedData_append, accounts]
        simp [sentToChannel, dispatchedData]
      · refine ⟨[], [], ?_, .callbacks rfl, ?_⟩
        · rw [dispatchedData_writerTrace, dispatchedData_append,
            nothingDispatched]
          rfl
        · rw [ownEvents_writerTrace, ownEvents_append, writerEvents_append,
            quiet]
          rfl
  | started isStart => exact .restarted (by omega)
  | restarted isStart => exact .restarted (by omega)

/-- A step of the writer. -/
theorem writes
    {label : WriterLabel}
    {shown : List WriterEvent}
    (progress : WriterProgress unpack channel trace writer view)
    (steps : writer.step unpack label = some (next, shown))
    (seen : viewNext = { view with
      registered := view.registered ||
        shown.any fun event =>
          ((WsWriter.subscriber unpack).registers event).isSome }) :
    WriterProgress unpack channel (trace ++ (shown.map .writer).map .own) next
      viewNext := by
  have starts : (ownEvents (trace ++ (shown.map WsEvent.writer).map
      SubscriberEvent.own)).count .startWriter =
        (ownEvents trace).count .startWriter := by
    rw [ownEvents_append, ownEvents_own, List.count_append]
    simp [List.count_eq_zero]
  cases progress with
  | unstarted isStart untouched =>
      rw [untouched, WsWriter.step_empty] at steps
      cases steps
  | started isStart token frames =>
      have moved : SubscriberSystem.Moved (WsWriter.subscriber unpack) channel
          writer view (.own label) next viewNext (shown.map .own) :=
        .own label next shown steps seen
      have sameTrace : writerTrace (trace ++ (shown.map WsEvent.writer).map .own) =
          writerTrace trace ++ shown.map .own := by
        rw [writerTrace_append, writerTrace_own, writerEvents_writer]
      refine .started (starts.trans isStart) ?_ fun noFailure => ?_
      · rw [sameTrace]
        exact token.moved moved
      · rw [ownEvents_append, ownEvents_own, writerEvents_append,
          writerEvents_writer, List.mem_append, not_or] at noFailure
        have succeeds : WsWriter.writesSucceed writer (.own label) := by
          by_contra fails
          have failed : label.fails = true := by
            simpa [WsWriter.writesSucceed, SubscriberLabel.onOwn] using fails
          exact noFailure.2 (WsWriter.writeFailed_of_fails steps failed)
        rw [sameTrace]
        exact (frames noFailure.1).moved token succeeds moved
  | restarted isStart => exact .restarted (isStart.trans starts.ge)

/-- A step of the pump or of another thread. -/
theorem around
    (progress : WriterProgress unpack channel trace writer view)
    (label : SubscriberLabel WriterLabel)
    (notOwn : ∀ own, label ≠ .own own)
    (silent : ownEvents events = [])
    (unstarted : view.registered = false → view.held = none →
      viewNext.registered = false ∧ viewNext.held = none ∧ next = writer ∧
        dispatchedData events = [])
    (accounts : SubscriberSystem.Accounts channel trace view →
      SubscriberSystem.Accounts channel (trace ++ events) viewNext)
    (moved : SubscriberSystem.Moved (WsWriter.subscriber unpack) channel writer
      view label next viewNext (writerTrace events)) :
    WriterProgress unpack channel (trace ++ events) next viewNext := by
  have sameEvents : ownEvents (trace ++ events) = ownEvents trace := by
    rw [ownEvents_append, silent, List.append_nil]
  cases progress with
  | unstarted isStart untouched unregistered nothingHeld isAccounted
      nothingDispatched quiet =>
      obtain ⟨stillUnregistered, stillNothing, rfl, noneDispatched⟩ :=
        unstarted unregistered nothingHeld
      refine .unstarted (by rw [sameEvents, isStart]) untouched
        stillUnregistered stillNothing (accounts isAccounted) ?_
        (by rw [sameEvents, quiet])
      rw [dispatchedData_append, nothingDispatched, noneDispatched,
        List.append_nil]
  | started isStart token frames =>
      refine .started (by rw [sameEvents, isStart]) ?_ fun noFailure => ?_
      · rw [writerTrace_append]
        exact token.moved moved
      · have succeeds : WsWriter.writesSucceed writer label := by
          cases label with
          | own own => exact absurd rfl (notOwn own)
          | _ => rfl
        rw [sameEvents] at noFailure
        rw [writerTrace_append]
        exact (frames noFailure).moved token succeeds moved
  | restarted isStart => exact .restarted (by rw [sameEvents]; exact isStart)

end WriterProgress

/-! ## Connections -/

section Connection

variable {unpack : Bytes → Option AsgiWsSendMsg}
variable {request : HttpRequest}
variable {channel : Bytes}
variable {trace events : List (SubscriberEvent WsEvent)}
variable {session next : Session}
variable {view viewNext : ChannelView}

/-- What a registration of the writer is to its connection. -/
theorem registers_writer
    (shown : List WriterEvent) :
    ((shown.map WsEvent.writer).any fun event =>
        ((WsRequestHandler.subscriber unpack request channel).registers
          event).isSome) =
      shown.any fun event =>
        ((WsWriter.subscriber unpack).registers event).isSome := by
  rw [List.any_map]
  congr 1
  funext event
  cases event <;> rfl

/-- A step of the session. -/
theorem WriterProgress.own
    {label : WsLabel}
    {shown : List WsEvent}
    (progress : WriterProgress unpack channel trace session.writer view)
    (steps : SessionStep unpack request channel session label shown next)
    (seen : viewNext = { view with
      registered := view.registered ||
        shown.any fun event => ((WsRequestHandler.subscriber unpack request
          channel).registers event).isSome }) :
    WriterProgress unpack channel (trace ++ shown.map .own) next.writer
      viewNext := by
  have quiet : (∀ named, .writer (.addChannel named) ∉ shown) →
      viewNext = view := by
    intro silent
    rw [seen, registers_nothing silent, Bool.or_false]
  cases steps with
  | writer label writerNext writerShown writerSteps =>
      rw [registers_writer] at seen
      exact progress.writes writerSteps seen
  | startWriterAccepting hr atPhase | startWriterSending hr atPhase =>
      have isSeen : viewNext = { view with registered := true } := by
        rw [seen]
        simp [Session.startWriterEvents, WsWriter.start,
          WsWriter.registerChannelsCallback, WsRequestHandler.subscriber]
      rw [isSeen]
      exact progress.start
  | flushCompletes hr atPhase | completePosted hr atPhase =>
      have silent : ∀ event, .writer event ∉
          session.startReaderEvents request channel := by
        simp [Session.startReaderEvents, WsReader.start, WsReader.readAsync]
      rw [quiet (by simp [Session.startReaderEvents, WsReader.start,
        WsReader.readAsync])]
      refine progress.others ?_ ?_
      · simp [Session.startReaderEvents]
      · simp [writerEvents, Session.startReaderEvents, WsReader.start,
          WsReader.readAsync]
  | reader label readerNext readerShown phase readerSteps =>
      rw [quiet (by simp)]
      exact progress.others (by simp) (by simp [writerEvents])
  | _ =>
      rw [quiet (by simp)]
      exact progress.others (by simp) rfl

/-- What a step of the system is to the writer of a session. -/
theorem WriterProgress.moved
    {label : SubscriberLabel WsLabel}
    {handler : WsRequestHandler}
    (progress : WriterProgress unpack channel trace session.writer view)
    (moved : SubscriberSystem.Moved
      (WsRequestHandler.subscriber unpack request channel) channel
      (session.toHandler request channel) view label handler viewNext events) :
    WriterProgress unpack channel (trace ++ events) handler.writer viewNext := by
  have accounts : SubscriberSystem.Accounts channel trace view →
      SubscriberSystem.Accounts channel (trace ++ events) viewNext :=
    fun before => before.moved moved
  cases moved with
  | own label handler shown steps seen =>
      obtain ⟨next, rfl, sessionSteps⟩ := Session.matched_step steps
      exact progress.own sessionSteps seen
  | dispatched data label registered held seen =>
      refine progress.around (.pump label) (by simp) rfl ?_ accounts
        (.dispatched data label registered held seen)
      intro unregistered
      simp [registered] at unregistered
  | popped data rest label registered held queue seen =>
      refine progress.around (.pump label) (by simp) rfl ?_ accounts
        (.popped data rest label registered held queue seen)
      intro unregistered
      simp [registered] at unregistered
  | sent data seen =>
      refine progress.around (.send channel data) (by simp) rfl ?_
        accounts (.sent data seen)
      intro unregistered nothingHeld
      rw [seen]
      exact ⟨unregistered, nothingHeld, rfl, rfl⟩
  | quiet label events notOwn silent notSent notDispatched =>
      refine progress.around .stopPump (by simp) silent ?_ accounts
        (.quiet .stopPump _ (by simp) ?_ ?_ ?_)
      · intro unregistered nothingHeld
        exact ⟨unregistered, nothingHeld, rfl, notDispatched⟩
      · rw [ownEvents_writerTrace, silent]
        rfl
      · rw [sentToChannel_writerTrace, notSent]
      · rw [dispatchedData_writerTrace, notDispatched]

variable {random : Bytes}
variable {good : WsRequestHandler → SubscriberLabel WsLabel → Prop}
variable {labels : List (SubscriberLabel WsLabel)}
variable {system : SubscriberSystem WsRequestHandler}

/-- How far the writer has come in a run. -/
theorem ConnectionRun.writerProgress
    (run : ConnectionRun unpack request (sendChannel random) good labels trace
      system) :
    WriterProgress unpack (sendChannel random) trace system.state.writer
      (system.view (sendChannel random)) := by
  have initially : WriterProgress unpack (sendChannel random) []
      ({} : Session).writer (connectionStart.view (sendChannel random)) :=
    .unstarted rfl rfl (by simp [SubscriberSystem.view, connectionStart]) rfl rfl
      rfl rfl
  obtain ⟨-, session, equal, -, progress⟩ := SubscriberSystem.run_law
    (fun trace handler view => ∃ session : Session,
      handler = session.toHandler request (sendChannel random) ∧
        OwnsChannel (sendChannel random) session view ∧
        WriterProgress unpack (sendChannel random) trace session.writer view)
    (sendChannel_ne_nil random) (SubscriberSystem.polled_empty _)
    ⟨{}, rfl, .inr ⟨rfl, rfl⟩, initially⟩
    (by
      rintro trace _ view label handlerNext shown ⟨session, rfl, owns, -⟩ steps
        event member channel registers
      obtain ⟨next, rfl, sessionSteps⟩ := Session.matched_step steps
      rw [WsRequestHandler.of_registers registers] at member
      exact (sessionSteps.registers owns).1 channel member)
    (by
      rintro trace _ view label handlerNext viewNext events
        ⟨session, rfl, owns, progress⟩ - moved
      obtain ⟨next, rfl, sessionMoved⟩ := SessionMoved.of_moved moved
      exact ⟨next, rfl, owns.moved sessionMoved, progress.moved moved⟩)
    run
  rw [equal]
  exact progress

/-- The frames of a connection that starts its writer at most once are the
messages of its channel, up to some point, while writes succeed and accept all
that they are offered. -/
theorem WriterProgress.frames
    {writer : WsWriter}
    (progress : WriterProgress unpack channel trace writer view)
    (once : (ownEvents trace).count .startWriter ≤ 1)
    (succeeds : .writeFailed ∉ writerEvents (ownEvents trace))
    (small : ∀ data msg, unpack data = some msg → msg.bytes.length < dwordSize)
    (accepts : AcceptsAll (writerEvents (ownEvents trace))) :
    (writtenFrames (writerEvents (ownEvents trace))).map some <+:
      (sentToChannel channel trace).map fun data =>
        (unpack data).map AsgiWsSendMsg.bytes := by
  cases progress with
  | unstarted starts untouched unregistered nothingHeld accounts
      nothingDispatched silent =>
      rw [silent]
      exact List.nil_prefix
  | started starts token frames =>
      have accounts := token.accounts
      obtain ⟨written, inHand, split, -, equal⟩ :=
        frames succeeds small (by rwa [ownEvents_writerTrace])
      rw [ownEvents_writerTrace] at equal
      rw [SubscriberSystem.Accounts, sentToChannel_writerTrace, split] at accounts
      rw [accounts, equal, List.append_assoc, List.map_append]
      exact List.prefix_append _ _
  | restarted starts => omega

end Connection

end IisAsgiHandler
