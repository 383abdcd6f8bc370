import IisAsgiHandler.WebSocket.Handler

/-!
# The session of a connection

An abstract account of one connection: a phase of the connect pipeline, with
the reader and the writer beside it.  A phase that is pending names the single
thing that will complete it.  The relation `SessionStep` lists everything that
can happen to a connection, with the events that it shows, and every step of
the handler is one of these.
-/

namespace IisAsgiHandler

/-- The step of the connect pipeline that is current. -/
inductive ConnectStage
  | accepting
  | sending
  deriving DecidableEq

/-- What will complete a connection that is pending. -/
inductive ConnectAwait
  | flush
  /-- The task that sends the connect message, before it has sent it. -/
  | send
  /-- The same task, before it posts. -/
  | sent
  /-- The completion that the task has posted. -/
  | posted
  /-- Nothing: the reader and the writer serve the connection. -/
  | nothing
  deriving DecidableEq

/-- The phases of a connection. -/
inductive SessionPhase
  | notStarted
  | inFlush
  /-- The flush is over. -/
  | accepted
  /-- Waiting for a completion; `returned` tells whether the handler call has
  returned yet. -/
  | pending (await : ConnectAwait) (returned : Bool)
  | startingReader (stage : ConnectStage) (hr : HResult)
  | startingWriter (stage : ConnectStage) (hr : HResult)
  | ending (stage : ConnectStage)
  | finished (stage : ConnectStage)
  | deleted (stage : ConnectStage)
  deriving DecidableEq

/-- The abstract state of a connection. -/
structure Session where
  phase : SessionPhase := .notStarted
  reader : WsReader := {}
  writer : WsWriter := {}

namespace SessionPhase

/-- The current step, if there is one. -/
@[simp] def stage : SessionPhase → Option ConnectStage
  | .notStarted => none
  | .inFlush | .accepted | .pending .flush _ => some .accepting
  | .pending .send _ | .pending .sent _ | .pending .posted _
  | .pending .nothing _ => some .sending
  | .startingReader stage _ | .startingWriter stage _ => some stage
  | .ending stage | .finished stage | .deleted stage => some stage

/-- Where the handler's thread is. -/
@[simp] def thread : SessionPhase → WsThread
  | .notStarted => .notStarted
  | .inFlush => .inFlush
  | .accepted => .atSwitch .gotoNext
  | .pending _ true => .waiting
  | .pending _ false => .atSwitch .asyncPending
  | .startingReader _ hr => .startingReader hr
  | .startingWriter _ hr => .startingWriter hr
  | .ending _ => .atSwitch .finishRequest
  | .finished _ => .finished
  | .deleted _ => .deleted

@[simp] def operations : SessionPhase → Nat
  | .pending .flush _ => 1
  | _ => 0

@[simp] def tasks : SessionPhase → List Bool
  | .pending .send _ => [false]
  | .pending .sent _ => [true]
  | _ => []

@[simp] def posted : SessionPhase → Nat
  | .pending .posted _ => 1
  | _ => 0

end SessionPhase

/-- The step object of a stage. -/
@[simp] def ConnectStage.step (msg : AsgiWsConnectMsg) : ConnectStage → ConnectStep
  | .accepting => .acceptWebSocket { asgiConnectMsg := some msg }
  | .sending => .sendConnectToApplication { asgiConnectMsg := some msg }

variable (unpack : Bytes → Option AsgiWsSendMsg)
variable (request : HttpRequest)
variable (replyChannel : Bytes)

namespace Session

/-- The handler of an abstract state. -/
def toHandler (session : Session) : WsRequestHandler where
  thread := session.phase.thread
  currentConnectStep := session.phase.stage.map fun stage =>
    stage.step (WsRequestHandler.asgiConnectMsg request replyChannel)
  replyChannel := if session.phase = .notStarted then [] else replyChannel
  requestPath :=
    if session.phase = .notStarted then [] else getRequestPath request
  reader := session.reader
  writer := session.writer
  operations := session.phase.operations
  tasks := session.phase.tasks
  posted := session.phase.posted

/-- The session once a handler call has entered `m_reader.Start`. -/
def startReader (session : Session) (stage : ConnectStage) (hr : HResult) :
    Session where
  phase := .startingReader stage hr
  reader := (session.reader.start replyChannel (getRequestPath request)).1
  writer := session.writer

/-- What entering `m_reader.Start` shows. -/
def startReaderEvents (session : Session) : List WsEvent :=
  .startReader ::
    (session.reader.start replyChannel (getRequestPath request)).2.map .reader

/-- The session once `m_writer.Start` has been called. -/
def startWriter (session : Session) (phase : SessionPhase) : Session where
  phase := phase
  reader := session.reader
  writer := (session.writer.start replyChannel).1

/-- What `m_writer.Start` shows. -/
def startWriterEvents (session : Session) : List WsEvent :=
  .startWriter :: (session.writer.start replyChannel).2.map .writer

end Session

/-- Everything that can happen to a connection. -/
inductive SessionStep (session : Session) :
    WsLabel → List WsEvent → Session → Prop
  | execute (atPhase : session.phase = .notStarted) :
      SessionStep session .onExecuteRequestHandler [.setStatus 101, .flush]
        { session with phase := .inFlush }
  | flushFails (atPhase : session.phase = .inFlush) :
      SessionStep session (.flushReturns .failed) [.flushed true]
        { session with phase := .ending .accepting }
  | flushPends (atPhase : session.phase = .inFlush) :
      SessionStep session (.flushReturns .pending) []
        { session with phase := .pending .flush false }
  | flushReturns (bytes : Nat) (atPhase : session.phase = .inFlush) :
      SessionStep session (.flushReturns (.completed bytes)) [.flushed false]
        { session with phase := .accepted }
  | flushCompletes (hr : HResult) (atPhase : session.phase = .pending .flush true) :
      SessionStep session (.flushCompletes hr)
        (.flushed (failed hr) :: session.startReaderEvents request replyChannel)
        (session.startReader request replyChannel .accepting hr)
  | sendConnect (atPhase : session.phase = .accepted) :
      SessionStep session .stateMachine []
        { session with phase := .pending .send false }
  | leavePending (await : ConnectAwait)
      (atPhase : session.phase = .pending await false) :
      SessionStep session .stateMachine [.returned .pending]
        { session with phase := .pending await true }
  | leaveFinish (stage : ConnectStage) (atPhase : session.phase = .ending stage) :
      SessionStep session .stateMachine [.returned .finishRequest]
        { session with phase := .finished stage }
  | taskSend (index : Nat) (returned : Bool)
      (atPhase : session.phase = .pending .send returned) :
      SessionStep session (.taskSend index)
        [.send (ascii "websocket.connect")
          (WsRequestHandler.asgiConnectMsg request replyChannel)]
        { session with phase := .pending .sent returned }
  | taskPost (index : Nat) (returned : Bool)
      (atPhase : session.phase = .pending .sent returned) :
      SessionStep session (.taskPost index) []
        { session with phase := .pending .posted returned }
  | completePosted (hr : HResult)
      (atPhase : session.phase = .pending .posted true) :
      SessionStep session (.completePosted hr)
        (session.startReaderEvents request replyChannel)
        (session.startReader request replyChannel .sending hr)
  | startWriterAccepting (hr : HResult)
      (atPhase : session.phase = .startingWriter .accepting hr) :
      SessionStep session .startWriter (session.startWriterEvents replyChannel)
        (session.startWriter replyChannel .accepted)
  | startWriterSending (hr : HResult)
      (atPhase : session.phase = .startingWriter .sending hr) :
      SessionStep session .startWriter (session.startWriterEvents replyChannel)
        (session.startWriter replyChannel
          (if failed hr then .ending .sending else .pending .nothing false))
  | reader (label : ReaderLabel) (next : WsReader) (events : List ReaderEvent)
      (phase : SessionPhase)
      (steps : session.reader.step label = some (next, events))
      (undeleted : ∀ stage, session.phase ≠ .deleted stage)
      (moves : phase = session.phase ∨ ∃ stage hr,
        session.phase = .startingReader stage hr ∧
          phase = .startingWriter stage hr) :
      SessionStep session (.reader label) (events.map .reader)
        { session with phase := phase, reader := next }
  | writer (label : WriterLabel) (next : WsWriter) (events : List WriterEvent)
      (steps : session.writer.step unpack label = some (next, events))
      (undeleted : ∀ stage, session.phase ≠ .deleted stage) :
      SessionStep session (.writer label) (events.map .writer)
        { session with writer := next }
  | cleanup (stage : ConnectStage) (atPhase : session.phase = .finished stage) :
      SessionStep session .cleanupStoredContext []
        { session with phase := .deleted stage }
  /-- The reader of a deleted handler is used. -/
  | readerFreed (label : ReaderLabel) (next : WsReader)
      (events : List ReaderEvent) (stage : ConnectStage)
      (steps : session.reader.step label = some (next, events))
      (atPhase : session.phase = .deleted stage) :
      SessionStep session (.reader label) [.fault .useAfterFree] session
  /-- The writer of a deleted handler is used. -/
  | writerFreed (label : WriterLabel) (next : WsWriter)
      (events : List WriterEvent) (stage : ConnectStage)
      (steps : session.writer.step unpack label = some (next, events))
      (atPhase : session.phase = .deleted stage) :
      SessionStep session (.writer label) [.fault .useAfterFree] session

namespace Session

variable {unpack request replyChannel}
variable {session : Session}
variable {next : WsRequestHandler}
variable {label : WsLabel}
variable {events : List WsEvent}

/-- A step of the handler is matched by one of the session. -/
def Matched
    (unpack : Bytes → Option AsgiWsSendMsg)
    (request : HttpRequest)
    (replyChannel : Bytes)
    (session : Session)
    (label : WsLabel)
    (next : WsRequestHandler)
    (events : List WsEvent) : Prop :=
  ∃ sessionNext : Session, next = sessionNext.toHandler request replyChannel ∧
    SessionStep unpack request replyChannel session label events sessionNext

theorem matched_onExecuteRequestHandler
    (steps : (session.toHandler request replyChannel).onExecuteRequestHandler
      request replyChannel = some (next, events)) :
    Matched unpack request replyChannel session .onExecuteRequestHandler next
      events := by
  obtain ⟨phase, reader, writer⟩ := session
  simp only [WsRequestHandler.onExecuteRequestHandler] at steps
  split at steps
  · rename_i notStarted
    have atPhase : phase = .notStarted := by
      cases phase with
      | notStarted => rfl
      | pending await returned =>
          cases returned <;> simp [toHandler] at notStarted
      | _ => simp [toHandler] at notStarted
    subst atPhase
    simp only [WsRequestHandler.enter, Option.some.injEq, Prod.mk.injEq] at steps
    obtain ⟨rfl, rfl⟩ := steps
    exact ⟨_, rfl, .execute rfl⟩
  · contradiction

theorem matched_flushReturns
    {ret : IisReturn}
    (steps : (session.toHandler request replyChannel).flushReturns ret =
      some (next, events)) :
    Matched unpack request replyChannel session (.flushReturns ret) next
      events := by
  obtain ⟨phase, reader, writer⟩ := session
  cases phase with
  | inFlush =>
      cases ret with
      | failed =>
          cases steps
          exact ⟨_, rfl, .flushFails rfl⟩
      | pending =>
          cases steps
          exact ⟨_, rfl, .flushPends rfl⟩
      | completed bytes =>
          cases steps
          exact ⟨_, rfl, .flushReturns bytes rfl⟩
  | pending await returned => cases returned <;> contradiction
  | _ => contradiction

theorem matched_stateMachine
    (steps : (session.toHandler request replyChannel).stateMachine =
      some (next, events)) :
    Matched unpack request replyChannel session .stateMachine next events := by
  obtain ⟨phase, reader, writer⟩ := session
  cases phase with
  | accepted =>
      cases steps
      exact ⟨_, rfl, .sendConnect rfl⟩
  | pending await returned =>
      cases returned with
      | true => contradiction
      | false =>
          cases steps
          refine ⟨_, ?_, .leavePending await rfl⟩
          cases await <;> rfl
  | ending stage =>
      cases steps
      exact ⟨_, rfl, .leaveFinish stage rfl⟩
  | _ => contradiction

theorem matched_flushCompletes
    {hr : HResult}
    (steps : (session.toHandler request replyChannel).flushCompletes hr =
      some (next, events)) :
    Matched unpack request replyChannel session (.flushCompletes hr) next
      events := by
  obtain ⟨phase, reader, writer⟩ := session
  cases phase with
  | pending await returned =>
      cases returned with
      | false => contradiction
      | true =>
          cases await with
          | flush =>
              cases steps
              exact ⟨_, rfl, .flushCompletes hr rfl⟩
          | _ => contradiction
  | _ => contradiction

theorem matched_completePosted
    {hr : HResult}
    (steps : (session.toHandler request replyChannel).completePosted hr =
      some (next, events)) :
    Matched unpack request replyChannel session (.completePosted hr) next
      events := by
  obtain ⟨phase, reader, writer⟩ := session
  cases phase with
  | pending await returned =>
      cases returned with
      | false => contradiction
      | true =>
          cases await with
          | posted =>
              cases steps
              exact ⟨_, rfl, .completePosted hr rfl⟩
          | _ => contradiction
  | _ => contradiction

theorem matched_startWriter
    (steps : (session.toHandler request replyChannel).startWriter =
      some (next, events)) :
    Matched unpack request replyChannel session .startWriter next events := by
  obtain ⟨phase, reader, writer⟩ := session
  cases phase with
  | startingWriter stage hr =>
      cases stage with
      | accepting =>
          cases steps
          exact ⟨_, rfl, .startWriterAccepting hr rfl⟩
      | sending =>
          cases steps
          refine ⟨_, ?_, .startWriterSending hr rfl⟩
          cases fails : failed hr <;> simp [toHandler, startWriter, fails]
  | pending await returned => cases returned <;> contradiction
  | _ => contradiction

theorem matched_taskSend
    {index : Nat}
    (steps : (session.toHandler request replyChannel).taskSend index =
      some (next, events)) :
    Matched unpack request replyChannel session (.taskSend index) next
      events := by
  obtain ⟨phase, reader, writer⟩ := session
  cases phase with
  | pending await returned =>
      cases await with
      | send =>
          cases index with
          | zero =>
              cases returned <;>
              · cases steps
                exact ⟨_, rfl, .taskSend 0 _ rfl⟩
          | succ index => contradiction
      | sent => cases index <;> contradiction
      | _ => contradiction
  | _ => contradiction

theorem matched_taskPost
    {index : Nat}
    (steps : (session.toHandler request replyChannel).taskPost index =
      some (next, events)) :
    Matched unpack request replyChannel session (.taskPost index) next
      events := by
  obtain ⟨phase, reader, writer⟩ := session
  cases phase with
  | pending await returned =>
      cases await with
      | send => cases index <;> contradiction
      | sent =>
          cases index with
          | zero =>
              cases returned <;>
              · cases steps
                exact ⟨_, rfl, .taskPost 0 _ rfl⟩
          | succ index => contradiction
      | _ => contradiction
  | _ => contradiction

theorem matched_readerStep
    {readerLabel : ReaderLabel}
    (steps : (session.toHandler request replyChannel).readerStep readerLabel =
      some (next, events)) :
    Matched unpack request replyChannel session (.reader readerLabel) next
      events := by
  obtain ⟨phase, reader, writer⟩ := session
  simp only [WsRequestHandler.readerStep] at steps
  split at steps
  · contradiction
  · rename_i readerNext shown readerSteps
    split at steps
    · rename_i isDeleted
      simp only [Option.some.injEq, Prod.mk.injEq] at steps
      obtain ⟨rfl, rfl⟩ := steps
      cases phase with
      | deleted stage =>
          exact ⟨_, rfl, .readerFreed _ _ _ stage readerSteps rfl⟩
      | pending await returned => cases returned <;> contradiction
      | _ => contradiction
    · rename_i notDeleted
      simp only [Option.some.injEq, Prod.mk.injEq] at steps
      obtain ⟨rfl, rfl⟩ := steps
      have undeleted : ∀ stage, phase ≠ .deleted stage := by
        rintro stage rfl
        exact notDeleted rfl
      cases phase with
      | startingReader stage hr =>
          cases returns : WsRequestHandler.returnsFromStart reader
              readerLabel with
          | true =>
              refine ⟨_, ?_, .reader readerLabel readerNext shown
                (.startingWriter stage hr) readerSteps undeleted
                (.inr ⟨stage, hr, rfl, rfl⟩)⟩
              simp [toHandler, returns]
          | false =>
              refine ⟨_, ?_, .reader readerLabel readerNext shown _ readerSteps
                undeleted (.inl rfl)⟩
              simp [toHandler, returns]
      | pending await returned =>
          cases returned <;>
            exact ⟨_, rfl, .reader readerLabel readerNext shown _ readerSteps
              undeleted (.inl rfl)⟩
      | _ =>
          exact ⟨_, rfl, .reader readerLabel readerNext shown _ readerSteps
            undeleted (.inl rfl)⟩

theorem matched_writerStep
    {writerLabel : WriterLabel}
    (steps : (session.toHandler request replyChannel).writerStep unpack
      writerLabel = some (next, events)) :
    Matched unpack request replyChannel session (.writer writerLabel) next
      events := by
  obtain ⟨phase, reader, writer⟩ := session
  simp only [WsRequestHandler.writerStep] at steps
  split at steps
  · contradiction
  · rename_i writerNext shown writerSteps
    split at steps
    · rename_i isDeleted
      simp only [Option.some.injEq, Prod.mk.injEq] at steps
      obtain ⟨rfl, rfl⟩ := steps
      cases phase with
      | deleted stage =>
          exact ⟨_, rfl, .writerFreed _ _ _ stage writerSteps rfl⟩
      | pending await returned => cases returned <;> contradiction
      | _ => contradiction
    · rename_i notDeleted
      simp only [Option.some.injEq, Prod.mk.injEq] at steps
      obtain ⟨rfl, rfl⟩ := steps
      refine ⟨_, rfl, .writer writerLabel writerNext shown writerSteps ?_⟩
      rintro stage rfl
      exact notDeleted rfl

theorem matched_cleanupStoredContext
    (steps : (session.toHandler request replyChannel).cleanupStoredContext =
      some (next, events)) :
    Matched unpack request replyChannel session .cleanupStoredContext next
      events := by
  obtain ⟨phase, reader, writer⟩ := session
  cases phase with
  | finished stage =>
      cases steps
      exact ⟨_, rfl, .cleanup stage rfl⟩
  | pending await returned => cases returned <;> contradiction
  | _ => contradiction

/-- Every step of the handler is one of the session. -/
theorem matched_step
    (steps : WsRequestHandler.step unpack request replyChannel
      (session.toHandler request replyChannel) label = some (next, events)) :
    Matched unpack request replyChannel session label next events := by
  cases label with
  | onExecuteRequestHandler => exact matched_onExecuteRequestHandler steps
  | flushReturns ret => exact matched_flushReturns steps
  | stateMachine => exact matched_stateMachine steps
  | flushCompletes hr => exact matched_flushCompletes steps
  | completePosted hr => exact matched_completePosted steps
  | startWriter => exact matched_startWriter steps
  | taskSend index => exact matched_taskSend steps
  | taskPost index => exact matched_taskPost steps
  | reader label => exact matched_readerStep steps
  | writer label => exact matched_writerStep steps
  | cleanupStoredContext => exact matched_cleanupStoredContext steps

end Session

end IisAsgiHandler
