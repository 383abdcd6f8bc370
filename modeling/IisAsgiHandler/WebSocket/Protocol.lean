import IisAsgiHandler.Lifetime

/-!
# The completion protocol of a connection

While a connection waits, one completion is to come, until the one that is
posted after the connect message has been delivered.  From then on the reader
and the writer serve the connection, and nothing will complete its request,
whatever becomes of the socket.
-/

namespace IisAsgiHandler

/-- Number of completions that IIS will deliver to a connection: those of a
flush, and those that a task has posted or will post. -/
def WsRequestHandler.completions (handler : WsRequestHandler) : Nat :=
  handler.operations + handler.tasks.length + handler.posted

/-- How far the connect pipeline of a connection has come. -/
inductive ConnectProgress
  | connecting
  /-- The connect message has been sent. -/
  | sent
  /-- The completion posted after it has started the writer. -/
  | served
  deriving DecidableEq

def ConnectProgress.read : ConnectProgress → WsEvent → ConnectProgress
  | .connecting, .send _ _ => .sent
  | .sent, .startWriter => .served
  | progress, _ => progress

/-- The progress that events show. -/
def connectProgress (events : List WsEvent) : ConnectProgress :=
  events.foldl ConnectProgress.read .connecting

/-- Whether an event is one of the reader or the writer, or the return of the
call that started them. -/
def WsEvent.serves : WsEvent → Bool
  | .reader _ | .writer _ | .returned .pending => true
  | _ => false

/-- Once a connection is served, only its reader and its writer act. -/
def ServedAlone (events : List WsEvent) : Prop :=
  EventMachine.Justified
    (fun before event => connectProgress before = .served →
      event.serves = true)
    events

/-- What a connection shows when it cannot be accepted. -/
def refusal : List WsEvent :=
  [.setStatus 101, .flush, .flushed true, .returned .finishRequest]

/-- What has been shown in each phase, as far as the end of the request goes. -/
def SessionPhase.Shown (events : List WsEvent) : SessionPhase → Prop
  | .notStarted => events = []
  | .inFlush => events = refusal.take 2
  | .ending .accepting => events = refusal.take 3
  | .finished .accepting | .deleted .accepting => events = refusal
  | _ => .returned .finishRequest ∉ events

/-- The progress in each phase of a connection that is not ended by the
completion of its connect message. -/
def SessionPhase.connectProgress : SessionPhase → ConnectProgress
  | .pending .sent _ | .pending .posted _ | .startingReader .sending _
  | .startingWriter .sending _ => .sent
  | .pending .nothing _ => .served
  | _ => .connecting

/-! ## Progress -/

theorem connectProgress_append (events shown : List WsEvent) :
    connectProgress (events ++ shown) =
      shown.foldl ConnectProgress.read (connectProgress events) := by
  unfold connectProgress
  rw [List.foldl_append]

/-- Events of the reader and the writer are no progress. -/
theorem ConnectProgress.foldl_of_serves
    {shown : List WsEvent}
    (serve : ∀ event ∈ shown, event.serves = true)
    (progress : ConnectProgress) :
    shown.foldl ConnectProgress.read progress = progress := by
  induction shown with
  | nil => rfl
  | cons event shown ih =>
      have first := serve event List.mem_cons_self
      have stays : progress.read event = progress := by
        cases event <;> cases progress <;> first | contradiction | rfl
      rw [List.foldl_cons, stays]
      exact ih fun other member => serve other (List.mem_cons_of_mem event member)

/-- A connection stays served. -/
theorem ConnectProgress.foldl_served (shown : List WsEvent) :
    shown.foldl ConnectProgress.read .served = .served := by
  induction shown with
  | nil => rfl
  | cons event shown ih =>
      rw [List.foldl_cons]
      cases event <;> exact ih

namespace ServedAlone

variable {events shown : List WsEvent}

theorem append_serves
    (alone : ServedAlone events)
    (serve : ∀ event ∈ shown, event.serves = true) :
    ServedAlone (events ++ shown) := by
  unfold ServedAlone
  rw [EventMachine.Justified.append_iff]
  refine ⟨alone, ?_⟩
  apply EventMachine.Justified.of_forall
  intro event member before _
  exact serve event member

/-- As long as a connection is not served, anything may happen. -/
theorem append_unserved
    (alone : ServedAlone events)
    (unserved : connectProgress (events ++ shown) ≠ .served) :
    ServedAlone (events ++ shown) := by
  unfold ServedAlone
  rw [EventMachine.Justified.append_iff]
  refine ⟨alone, ?_⟩
  intro before event after split isServed
  apply absurd _ unserved
  rw [split, ← List.append_assoc, connectProgress_append, isServed]
  exact ConnectProgress.foldl_served (event :: after)

/-- An event may make a connection served, and others follow it. -/
theorem append_start
    (alone : ServedAlone events)
    (unserved : connectProgress events ≠ .served)
    (start : WsEvent)
    (serve : ∀ event ∈ shown, event.serves = true) :
    ServedAlone (events ++ start :: shown) := by
  unfold ServedAlone
  rw [EventMachine.Justified.append_iff, EventMachine.Justified.cons_iff]
  refine ⟨alone, ?_, ?_⟩
  · intro isServed
    rw [List.append_nil] at isServed
    exact absurd isServed unserved
  · apply EventMachine.Justified.of_forall
    intro event member before _
    exact serve event member

end ServedAlone

/-! ## The law of a session -/

/-- Where the reader has been started, no more is known than that the request
has not been ended. -/
theorem SessionPhase.shown_iff
    {phase : SessionPhase}
    (started : phase.unstarted = false)
    (events : List WsEvent) :
    phase.Shown events ↔ .returned .finishRequest ∉ events := by
  cases phase with
  | notStarted | inFlush => contradiction
  | ending stage | finished stage | deleted stage =>
      cases stage with
      | accepting => contradiction
      | sending => rfl
  | _ => rfl

/-- The reader's events serve. -/
theorem serves_reader (events : List ReaderEvent) :
    ∀ event ∈ events.map WsEvent.reader, event.serves = true := by
  intro event member
  obtain ⟨shown, -, rfl⟩ := List.mem_map.mp member
  rfl

/-- The writer's events serve. -/
theorem serves_writer (events : List WriterEvent) :
    ∀ event ∈ events.map WsEvent.writer, event.serves = true := by
  intro event member
  obtain ⟨shown, -, rfl⟩ := List.mem_map.mp member
  rfl

/-- What serves does not end the request. -/
theorem not_finish_of_serves
    {shown : List WsEvent}
    (serve : ∀ event ∈ shown, event.serves = true) :
    .returned .finishRequest ∉ shown := by
  intro member
  have serves := serve _ member
  contradiction

section Connection

variable {unpack : Bytes → Option AsgiWsSendMsg}
variable {request : HttpRequest}
variable {replyChannel random : Bytes}

/-- What a connection has shown, and which phases it has. -/
structure ProtocolLaw (events : List WsEvent) (session : Session) : Prop where
  serves : session.phase.finishesStarted = false
  progress : connectProgress events = session.phase.connectProgress
  alone : ServedAlone events
  shown : session.phase.Shown events

namespace ProtocolLaw

variable {session next : Session}
variable {view : ChannelView}
variable {events shown : List WsEvent}

theorem initial : ProtocolLaw [] {} where
  serves := rfl
  progress := rfl
  alone := EventMachine.Justified.nil
  shown := rfl

/-- Until its thread has ended, a request has not been ended. -/
theorem unfinished
    (law : ProtocolLaw events session)
    (live : ∀ stage, session.phase ≠ .finished stage ∧
      session.phase ≠ .deleted stage) :
    .returned .finishRequest ∉ events := by
  obtain ⟨phase, reader, writer⟩ := session
  have isShown := law.shown
  cases phase with
  | notStarted | inFlush =>
      rw [show events = _ from isShown]
      decide
  | ending stage =>
      cases stage with
      | accepting =>
          rw [show events = _ from isShown]
          decide
      | sending => exact isShown
  | finished stage => exact absurd rfl (live stage).1
  | deleted stage => exact absurd rfl (live stage).2
  | _ => exact isShown

/-- The reader and the writer act without a change of progress. -/
theorem served
    (law : ProtocolLaw events session)
    (serves : next.phase.finishesStarted = false)
    (same : next.phase.connectProgress = session.phase.connectProgress)
    (serve : ∀ event ∈ shown, event.serves = true)
    (isShown : next.phase.Shown (events ++ shown)) :
    ProtocolLaw (events ++ shown) next where
  serves := serves
  progress := by
    rw [connectProgress_append, ConnectProgress.foldl_of_serves serve, same]
    exact law.progress
  alone := law.alone.append_serves serve
  shown := isShown

/-- The pipeline acts while the connection is not served. -/
theorem unserved
    (law : ProtocolLaw events session)
    (serves : next.phase.finishesStarted = false)
    (progress : shown.foldl ConnectProgress.read session.phase.connectProgress =
      next.phase.connectProgress)
    (unserved : next.phase.connectProgress ≠ .served)
    (isShown : next.phase.Shown (events ++ shown)) :
    ProtocolLaw (events ++ shown) next := by
  have after : connectProgress (events ++ shown) =
      next.phase.connectProgress := by
    rw [connectProgress_append, law.progress, progress]
  exact ⟨serves, after, law.alone.append_unserved (after ▸ unserved), isShown⟩

/-- More is shown of a request that has not been ended. -/
theorem goesOn
    (law : ProtocolLaw events session)
    (live : ∀ stage, session.phase ≠ .finished stage ∧
      session.phase ≠ .deleted stage)
    (quiet : .returned .finishRequest ∉ shown) :
    .returned .finishRequest ∉ events ++ shown := by
  rw [List.mem_append, not_or]
  exact ⟨law.unfinished live, quiet⟩

/-- Entering `m_reader.Start` is no progress. -/
theorem startReader
    (law : ProtocolLaw events session)
    {stage : ConnectStage}
    {hr : HResult}
    (before : List WsEvent)
    (serves : (SessionPhase.startingReader stage hr).finishesStarted = false)
    (live : ∀ stage, session.phase ≠ .finished stage ∧
      session.phase ≠ .deleted stage)
    (progress : before.foldl ConnectProgress.read
        session.phase.connectProgress =
      (SessionPhase.startingReader stage hr).connectProgress)
    (quiet : .returned .finishRequest ∉ before) :
    ProtocolLaw (events ++ (before ++ session.startReaderEvents request
      replyChannel)) (session.startReader request replyChannel stage hr) := by
  have reads := serves_reader (session.reader.start replyChannel
    (getRequestPath request)).2
  refine law.unserved serves ?_ (by cases stage <;> simp [Session.startReader,
    SessionPhase.connectProgress]) (law.goesOn live ?_)
  · rw [List.foldl_append, progress, Session.startReaderEvents, List.foldl_cons,
      ConnectProgress.foldl_of_serves reads]
    cases stage <;> rfl
  · simp [quiet, Session.startReaderEvents]

/-- Starting the writer serves the connection, once it has been connected. -/
theorem startWriter
    (law : ProtocolLaw events session)
    {phase : SessionPhase}
    (serves : phase.finishesStarted = false)
    (live : ∀ stage, session.phase ≠ .finished stage ∧
      session.phase ≠ .deleted stage)
    (unserved : session.phase.connectProgress ≠ .served)
    (progress : session.phase.connectProgress.read .startWriter =
      phase.connectProgress)
    (running : ∀ events, .returned .finishRequest ∉ events →
      phase.Shown events) :
    ProtocolLaw (events ++ session.startWriterEvents replyChannel)
      (session.startWriter replyChannel phase) where
  serves := serves
  progress := by
    rw [connectProgress_append, law.progress, Session.startWriterEvents,
      List.foldl_cons, ConnectProgress.foldl_of_serves (serves_writer _)]
    exact progress
  alone := by
    have before : connectProgress events ≠ .served := law.progress ▸ unserved
    exact law.alone.append_start before .startWriter (serves_writer _)
  shown := by
    apply running
    apply law.goesOn live
    simp [Session.startWriterEvents]

theorem step
    {label : WsLabel}
    {handler : WsRequestHandler}
    (law : ProtocolLaw events session)
    (good : postedCompletesOk handler (.own label))
    (untouched : session.Untouched view)
    (steps : SessionStep unpack request replyChannel session label shown next) :
    ProtocolLaw (events ++ shown) next := by
  have serves := steps.finishesStarted good law.serves
  have pipeline := steps.pipeline untouched
  have isShown := law.shown
  have unfinished := law.unfinished
  obtain ⟨phase, reader, writer⟩ := session
  simp only at isShown
  cases steps with
  | execute atPhase =>
      simp only at atPhase
      subst atPhase
      refine law.unserved serves rfl (by simp [SessionPhase.connectProgress]) ?_
      rw [show events = _ from isShown]
      rfl
  | flushFails atPhase =>
      simp only at atPhase
      subst atPhase
      refine law.unserved serves rfl (by simp [SessionPhase.connectProgress]) ?_
      rw [show events = _ from isShown]
      rfl
  | flushReturns bytes atPhase =>
      simp only at atPhase
      subst atPhase
      exact law.unserved serves rfl (by simp [SessionPhase.connectProgress])
        (law.goesOn (by simp) (by simp))
  | flushPends atPhase | sendConnect atPhase | taskPost index returned atPhase =>
      simp only at atPhase
      subst atPhase
      exact law.served serves rfl (by simp) (law.goesOn (by simp) (by simp))
  | leavePending await atPhase =>
      simp only at atPhase
      subst atPhase
      refine law.served serves ?_ (by simp [WsEvent.serves])
        (law.goesOn (by simp) (by simp))
      cases await <;> rfl
  | taskSend index returned atPhase =>
      simp only at atPhase
      subst atPhase
      exact law.unserved serves rfl (by simp [SessionPhase.connectProgress])
        (law.goesOn (by simp) (by simp))
  | flushCompletes hr atPhase =>
      simp only at atPhase
      subst atPhase
      exact law.startReader [.flushed (failed hr)] serves (by simp) rfl
        (by simp)
  | completePosted hr atPhase =>
      simp only at atPhase
      subst atPhase
      exact law.startReader [] serves (by simp) rfl (by simp)
  | startWriterAccepting hr atPhase =>
      simp only at atPhase
      subst atPhase
      exact law.startWriter serves (by simp)
        (by simp [SessionPhase.connectProgress]) rfl fun _ quiet => quiet
  | startWriterSending hr atPhase =>
      simp only at atPhase
      subst atPhase
      have succeeds : failed hr = false := law.serves
      rw [if_neg (by simp [succeeds])]
      exact law.startWriter rfl (by simp) (by simp [SessionPhase.connectProgress])
        rfl fun _ quiet => quiet
  | leaveFinish stage atPhase =>
      simp only at atPhase
      subst atPhase
      cases stage with
      | sending =>
          have ended : true = false := law.serves
          contradiction
      | accepting =>
          refine law.unserved serves rfl
            (by simp [SessionPhase.connectProgress]) ?_
          rw [show events = _ from isShown]
          rfl
  | cleanup stage atPhase =>
      simp only at atPhase
      subst atPhase
      cases stage with
      | sending =>
          have ended : true = false := law.serves
          contradiction
      | accepting =>
          refine law.served serves rfl (by simp) ?_
          rw [List.append_nil]
          exact isShown
  | reader own readerNext readerEvents nextPhase readerSteps undeleted moves =>
      have started : phase.unstarted = false := by
        by_contra unstarted
        exact (pipeline (by simpa using unstarted)).1 own rfl
      have kept : nextPhase.unstarted = false ∧
          nextPhase.connectProgress = phase.connectProgress := by
        rcases moves with rfl | ⟨stage, hr, before, rfl⟩
        · exact ⟨started, rfl⟩
        · simp only at before
          subst before
          cases stage <;> exact ⟨rfl, rfl⟩
      refine law.served serves kept.2 (serves_reader readerEvents) ?_
      apply (SessionPhase.shown_iff kept.1 _).mpr
      rw [List.mem_append, not_or]
      exact ⟨(SessionPhase.shown_iff started events).mp isShown,
        not_finish_of_serves (serves_reader readerEvents)⟩
  | writer own writerNext writerEvents writerSteps undeleted =>
      have started : phase.unstarted = false := by
        by_contra unstarted
        exact (pipeline (by simpa using unstarted)).2 own rfl
      refine law.served serves rfl (serves_writer writerEvents) ?_
      apply (SessionPhase.shown_iff started _).mpr
      rw [List.mem_append, not_or]
      exact ⟨(SessionPhase.shown_iff started events).mp isShown,
        not_finish_of_serves (serves_writer writerEvents)⟩
  | readerFreed own readerNext readerEvents stage readerSteps atPhase =>
      simp only at atPhase
      subst atPhase
      have unstarted := SessionPhase.unstarted_of_over law.serves (.inr rfl)
      exact absurd rfl ((pipeline unstarted).1 own)
  | writerFreed own writerNext writerEvents stage writerSteps atPhase =>
      simp only at atPhase
      subst atPhase
      have unstarted := SessionPhase.unstarted_of_over law.serves (.inr rfl)
      exact absurd rfl ((pipeline unstarted).2 own)

end ProtocolLaw

/-- What holds of a connection at any time. -/
structure ConnectionProtocol
    (events : List WsEvent) (handler : WsRequestHandler) : Prop where
  atMostOne : handler.completions ≤ 1
  waiting : handler.thread = .waiting →
    handler.completions = if connectProgress events = .served then 0 else 1
  /-- The call that has started the writer returns
  `RQ_NOTIFICATION_PENDING`, if it has not. -/
  served : connectProgress events = .served →
    handler.thread = .waiting ∨ handler.thread = .atSwitch .asyncPending
  alone : ServedAlone events
  refused : .returned .finishRequest ∈ events →
    events = refusal ∧ handler.completions = 0
  /-- No call of the handler itself ends with a fault.  Its writer may have one,
  when it is started twice. -/
  faultless : ∀ fault, .fault fault ∉ events

theorem Session.completions_le_one (session : Session) :
    (session.toHandler request replyChannel).completions ≤ 1 := by
  obtain ⟨phase, reader, writer⟩ := session
  cases phase with
  | pending await returned =>
      cases await <;> simp [WsRequestHandler.completions, Session.toHandler]
  | _ => simp [WsRequestHandler.completions, Session.toHandler]

/-- The completions of a session that waits. -/
theorem Session.completions_of_waiting
    {session : Session}
    (waiting : (session.toHandler request replyChannel).thread = .waiting) :
    (session.toHandler request replyChannel).completions =
      if session.phase.connectProgress = .served then 0 else 1 := by
  obtain ⟨phase, reader, writer⟩ := session
  cases phase with
  | pending await returned =>
      cases await <;> rfl
  | _ => simp [Session.toHandler] at waiting

namespace ProtocolLaw

variable {session : Session}
variable {events : List WsEvent}

/-- The thread of a connection that is served waits. -/
theorem served_waits
    (law : ProtocolLaw events session)
    (served : connectProgress events = .served) :
    (session.toHandler request replyChannel).thread = .waiting ∨
      (session.toHandler request replyChannel).thread =
        .atSwitch .asyncPending := by
  have atPhase := law.progress.symm.trans served
  obtain ⟨phase, reader, writer⟩ := session
  cases phase with
  | pending await returned =>
      cases returned with
      | true => exact .inl rfl
      | false => exact .inr rfl
  | startingReader stage hr | startingWriter stage hr =>
      cases stage <;> contradiction
  | _ => contradiction

/-- A session that has ended its request has shown its refusal. -/
theorem refused
    (law : ProtocolLaw events session)
    (ended : .returned .finishRequest ∈ events) :
    events = refusal ∧
      (session.toHandler request replyChannel).completions = 0 := by
  have serves := law.serves
  have isShown := law.shown
  have unfinished := law.unfinished
  obtain ⟨phase, reader, writer⟩ := session
  cases phase with
  | finished stage | deleted stage =>
      cases stage with
      | accepting => exact ⟨isShown, rfl⟩
      | sending => contradiction
  | _ => exact absurd ended (unfinished (by simp))

end ProtocolLaw

/-- When the completion posted after the connect message succeeds, a connection
that waits has exactly one completion to come, until that one has been
delivered.  It then has none, and only its reader and its writer act.  Its
request is ended only when the socket cannot be accepted at once. -/
theorem connection_protocol
    {labels : List (SubscriberLabel WsLabel)}
    {trace : List (SubscriberEvent WsEvent)}
    {system : SubscriberSystem WsRequestHandler}
    (run : ConnectionRun unpack request (sendChannel random) postedCompletesOk
      labels trace system) :
    ConnectionProtocol (ownEvents trace) system.state := by
  obtain ⟨session, equal, -, -, law⟩ := run.session_law
    (fun events session view => session.Untouched view ∧
      ProtocolLaw events session)
    (sendChannel_ne_nil random)
    ⟨fun _ => ⟨rfl, rfl, rfl⟩, ProtocolLaw.initial⟩
    (by
      rintro trace session view label next viewNext events
        ⟨untouched, law⟩ good moved
      refine ⟨untouched.moved moved, ?_⟩
      cases moved with
      | own label next shown steps seen =>
          rw [ownEvents_own]
          exact law.step good untouched steps
      | dispatched data label registered seen =>
          have silent : ownEvents
            ([.dispatched data] : List (SubscriberEvent WsEvent)) = [] := rfl
          rw [silent, List.append_nil]
          exact ⟨law.serves, law.progress, law.alone, law.shown⟩
      | other label events notOwn silent seen =>
          rw [silent, List.append_nil]
          exact law)
  have faultless := run.released_of_finished.2
  rw [equal]
  refine ⟨session.completions_le_one, ?_, law.served_waits, law.alone,
    law.refused, faultless⟩
  intro waiting
  rw [law.progress]
  exact Session.completions_of_waiting waiting

/-- The client closes the socket: the reader reads again, and the request is
never completed. -/
def closedSession : List (SubscriberLabel WsLabel) :=
  [.own .onExecuteRequestHandler, .own (.flushReturns (.completed 0)),
    .own .stateMachine, .own (.taskSend 0), .own (.taskPost 0),
    .own .stateMachine, .own (.completePosted sOk),
    .own (.reader (.readReturns 0 { payload := [], close := true })),
    .own (.reader (.readPends 0)), .own (.reader (.leave 0)),
    .own .startWriter, .own .stateMachine]

theorem connection_protocol_sample :
    ∃ trace system,
      ConnectionRun (fun _ => none) {} (sendChannel [0x41]) postedCompletesOk
        closedSession trace system ∧
      system.state.thread = .waiting ∧ system.state.completions = 0 := by
  have checked : EventMachine.checks
      ((WsRequestHandler.subscriber (fun _ => none) {}
        (sendChannel [0x41])).systemStep (sendChannel [0x41]))
      (fun system label => postedCompletesOk system.state label)
      connectionStart closedSession
      (fun system trace => system.state.thread = .waiting ∧
        connectProgress (ownEvents trace) = .served) = true := by
    decide +kernel
  obtain ⟨trace, system, run, waits, served⟩ :=
    EventMachine.Run.of_checks checked
  have protocol := connection_protocol run
  refine ⟨trace, system, run, waits, ?_⟩
  rw [protocol.waiting waits, if_pos served]

end Connection

end IisAsgiHandler
