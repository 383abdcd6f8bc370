import IisAsgiHandler.WebSocket.Connection

/-!
# The order of a session

When the flush that accepts the WebSocket completes at once, the only
completion that IIS delivers is the one posted after the connect message has
been sent.  The reader and the writer are then started once, and what the
application receives is numbered without gaps from the connect message on.
-/

namespace IisAsgiHandler

/-- The channel and the order of a message to the application. -/
def applicationMessage : WsEvent → Option (Bytes × Int)
  | .send channel _ => some (channel, AsgiWsConnectMsg.packedOrder)
  | .reader (.send channel msg) => some (channel, msg.order)
  | _ => none

/-- The messages sent to the application. -/
def applicationMessages (events : List WsEvent) : List (Bytes × Int) :=
  events.filterMap applicationMessage

/-- The first messages of a session: the connect message, and the received
messages, in order. -/
def sessionMessages (count : Nat) : List (Bytes × Int) :=
  (List.range count).map fun (order : Nat) =>
    (if order = 0 then ascii "websocket.connect" else ascii "websocket.receive",
      (order : Int))

/-- Whether an event is the delivery of a final fragment. -/
def WsEvent.isFinal : WsEvent → Bool
  | .reader (.fragment delivered) => delivered.final
  | _ => false

/-- Whether a label reports a failure. -/
def WsLabel.fails : WsLabel → Bool
  | .flushReturns .failed => true
  | .flushCompletes hr | .completePosted hr => failed hr
  | .reader label => label.fails
  | .writer label => label.fails
  | _ => false

/-- Whether the call to `Flush` is accepted for later. -/
def WsLabel.flushPends : WsLabel → Bool
  | .flushReturns .pending => true
  | _ => false

/-- Everything succeeds, and the flush does not pend. -/
def flushesAtOnce (_ : WsRequestHandler) (label : SubscriberLabel WsLabel) :
    Prop :=
  label.onOwn (fun own => own.fails || own.flushPends) = false

instance (handler : WsRequestHandler) (label : SubscriberLabel WsLabel) :
    Decidable (flushesAtOnce handler label) :=
  inferInstanceAs (Decidable (_ = false))

/-! ## Progress -/

/-- How often a connection has sent its connect message and started its reader
and its writer. -/
structure SessionProgress where
  connects : Nat := 0
  readerStarts : Nat := 0
  writerStarts : Nat := 0

/-- The progress that events show. -/
def SessionProgress.of (events : List WsEvent) : SessionProgress where
  connects := events.countP fun
    | .send _ _ => true
    | _ => false
  readerStarts := events.count .startReader
  writerStarts := events.count .startWriter

/-- The progress in each phase of a session whose flush does not pend. -/
def SessionPhase.progress : SessionPhase → Option SessionProgress
  | .notStarted | .inFlush | .accepted | .pending .send _ => some {}
  | .pending .sent _ | .pending .posted _ => some { connects := 1 }
  | .startingReader .sending hr | .startingWriter .sending hr =>
      if failed hr then none else some { connects := 1, readerStarts := 1 }
  | .pending .nothing _ =>
      some { connects := 1, readerStarts := 1, writerStarts := 1 }
  | _ => none

/-- The first messages of a session, with their orders wrapped around. -/
def wrappedMessages (count : Nat) : List (Bytes × Int) :=
  (sessionMessages count).map fun msg => (msg.1, msg.2.bmod (2 ^ 32))

/-- Number of messages that have been received completely. -/
def finalFragments (events : List WsEvent) : Nat := events.countP WsEvent.isFinal

/-- What a session has shown, in each phase. -/
structure OrderLaw (events : List WsEvent) (session : Session) : Prop where
  progress : session.phase.progress = some (.of events)
  unstarted : (SessionProgress.of events).readerStarts = 0 →
    session.reader = {} ∧ finalFragments events = 0
  started : (SessionProgress.of events).readerStarts ≠ 0 →
    (SessionProgress.of events).connects = 1 ∧ session.reader.SingleRead ∧
      session.reader.msg.order =
        ((1 + finalFragments events : Nat) : Int).bmod (2 ^ 32)
  messages : applicationMessages events =
    wrappedMessages ((SessionProgress.of events).connects + finalFragments events)

theorem wrappedMessages_succ (count : Nat) :
    wrappedMessages (count + 1) = wrappedMessages count ++
      [(if count = 0 then ascii "websocket.connect"
        else ascii "websocket.receive", (count : Int).bmod (2 ^ 32))] := by
  simp [wrappedMessages, sessionMessages, List.range_succ]

/-- After the connect message come the received messages. -/
theorem wrappedMessages_receive (count : Nat) :
    wrappedMessages (1 + (count + 1)) = wrappedMessages (1 + count) ++
      [(ascii "websocket.receive", ((1 + count : Nat) : Int).bmod (2 ^ 32))] := by
  rw [← Nat.add_assoc, wrappedMessages_succ, if_neg (by omega)]

/-- Orders below `2 ^ 31` do not wrap around. -/
theorem wrappedMessages_eq
    (count : Nat)
    (small : count ≤ 2 ^ 31) :
    wrappedMessages count = sessionMessages count := by
  rw [wrappedMessages, sessionMessages, List.map_map]
  apply List.map_congr_left
  intro order member
  have below := List.mem_range.mp member
  simp only [Function.comp_apply]
  rw [Int.bmod_eq_of_le (by omega) (by omega)]

/-! ## The reader's part -/

/-- A read that completes sends a message exactly after a final fragment, and
counts it. -/
theorem readAsyncComplete_order
    (msg : AsgiWsReceiveMsg)
    (hr : HResult)
    (numBytes : Nat)
    (utf8 final close : Bool) :
    applicationMessages ((WsReader.readAsyncComplete msg hr numBytes utf8 final
        close).2.map .reader) =
      (if final then [(ascii "websocket.receive", msg.order)] else []) ∧
    (WsReader.readAsyncComplete msg hr numBytes utf8 final close).1.order =
      (if final then nextInt msg.order else msg.order) ∧
    finalFragments ((WsReader.readAsyncComplete msg hr numBytes utf8 final
        close).2.map .reader) = 0 := by
  cases final with
  | true => exact ⟨rfl, rfl, rfl⟩
  | false =>
      simp only [WsReader.readAsyncComplete, Bool.false_eq_true, if_false]
      split <;> exact ⟨rfl, rfl, rfl⟩

theorem applicationMessages_append (first second : List WsEvent) :
    applicationMessages (first ++ second) =
      applicationMessages first ++ applicationMessages second :=
  List.filterMap_append

theorem finalFragments_append (first second : List WsEvent) :
    finalFragments (first ++ second) =
      finalFragments first + finalFragments second :=
  List.countP_append

/-- A reader's step that does not fail sends a message exactly for a final
fragment. -/
theorem reader_order
    {msg next : AsgiWsReceiveMsg}
    {label : ReaderLabel}
    {shown : List ReaderEvent}
    (succeeds : label.fails = false)
    (moved : WsReader.Moved msg label next shown) :
    ∃ final : Bool, finalFragments (shown.map .reader) = final.toNat ∧
      applicationMessages (shown.map .reader) =
        (if final then [(ascii "websocket.receive", msg.order)] else []) ∧
      next.order = if final then nextInt msg.order else msg.order := by
  cases moved with
  | quiet missing _ => exact ⟨false, rfl, rfl, rfl⟩
  | delivered fragment delivers _ fits completes =>
      subst completes
      obtain ⟨sends, order, counts⟩ := readAsyncComplete_order
        (WsReader.deliver msg fragment) sOk fragment.payload.length
        fragment.utf8 fragment.final fragment.close
      refine ⟨fragment.final, ?_, ?_, order⟩
      · rw [List.map_cons, List.map_append, ← List.singleton_append,
          finalFragments_append, finalFragments_append, counts]
        cases final : fragment.final <;>
          simp [finalFragments, WsEvent.isFinal, final]
      · rw [List.map_cons, List.map_append, ← List.singleton_append,
          applicationMessages_append, applicationMessages_append, sends]
        simp [applicationMessages, applicationMessage, WsReader.deliver,
          List.filterMap_cons]
  | failed hr numBytes utf8 final close missing fails =>
      rw [succeeds] at fails
      contradiction

/-- Steps that show nothing countable keep the progress. -/
theorem SessionProgress.of_append (first second : List WsEvent) :
    SessionProgress.of (first ++ second) =
      { connects := (SessionProgress.of first).connects +
          (SessionProgress.of second).connects
        readerStarts := (SessionProgress.of first).readerStarts +
          (SessionProgress.of second).readerStarts
        writerStarts := (SessionProgress.of first).writerStarts +
          (SessionProgress.of second).writerStarts } := by
  simp [SessionProgress.of, List.countP_append, List.count_append]

/-- Events of the reader or of the writer show no progress of the pipeline. -/
theorem SessionProgress.of_eq_empty
    {events : List WsEvent}
    (sends : ∀ channel msg, .send channel msg ∉ events)
    (readerStarts : .startReader ∉ events)
    (writerStarts : .startWriter ∉ events) :
    SessionProgress.of events = {} := by
  have connects : (events.countP fun
      | .send _ _ => true
      | _ => false) = 0 := by
    rw [List.countP_eq_zero]
    intro event member
    cases event with
    | send channel msg => exact absurd member (sends channel msg)
    | _ => simp
  rw [SessionProgress.of, connects, List.count_eq_zero.mpr readerStarts,
    List.count_eq_zero.mpr writerStarts]

variable {unpack : Bytes → Option AsgiWsSendMsg}
variable {request : HttpRequest}
variable {replyChannel : Bytes}
variable {events shown : List WsEvent}
variable {session next : Session}
variable {label : WsLabel}

/-- A step that shows nothing countable keeps the order. -/
theorem OrderLaw.silent
    (law : OrderLaw events session)
    (progress : next.phase.progress = session.phase.progress)
    (reader : next.reader = session.reader)
    (uncounted : SessionProgress.of shown = {})
    (unsent : applicationMessages shown = [])
    (unfinished : finalFragments shown = 0) :
    OrderLaw (events ++ shown) next := by
  have same : SessionProgress.of (events ++ shown) = .of events := by
    rw [SessionProgress.of_append, uncounted]
    rfl
  have finals : finalFragments (events ++ shown) = finalFragments events := by
    rw [finalFragments_append, unfinished, Nat.add_zero]
  refine ⟨?_, ?_, ?_, ?_⟩
  · rw [progress, same]
    exact law.progress
  · rw [same, finals, reader]
    exact law.unstarted
  · rw [same, finals, reader]
    exact law.started
  · rw [same, finals, applicationMessages_append, unsent, List.append_nil]
    exact law.messages

/-- A reader that has been started sends the next message of the session. -/
theorem OrderLaw.reader
    {readerLabel : ReaderLabel}
    {readerNext : WsReader}
    {readerShown : List ReaderEvent}
    (law : OrderLaw events session)
    (succeeds : readerLabel.fails = false)
    (steps : session.reader.step readerLabel = some (readerNext, readerShown))
    (reader : next.reader = readerNext)
    (progress : next.phase.progress = session.phase.progress) :
    OrderLaw (events ++ readerShown.map .reader) next := by
  have isStarted : (SessionProgress.of events).readerStarts ≠ 0 := by
    intro unstarted
    rw [(law.unstarted unstarted).1, WsReader.step_empty] at steps
    contradiction
  obtain ⟨connected, single, order⟩ := law.started isStarted
  obtain ⟨alone, moved⟩ := WsReader.step_moved single steps
  obtain ⟨final, counts, sends, orderNext⟩ := reader_order succeeds moved
  have same : SessionProgress.of (events ++ readerShown.map .reader) =
      .of events := by
    rw [SessionProgress.of_append]
    have uncounted : SessionProgress.of (readerShown.map WsEvent.reader) = {} :=
      SessionProgress.of_eq_empty (by simp) (by simp) (by simp)
    rw [uncounted]
    rfl
  refine ⟨?_, ?_, ?_, ?_⟩
  · rw [progress, same]
    exact law.progress
  · intro unstarted
    rw [same] at unstarted
    exact absurd unstarted isStarted
  · intro _
    rw [reader, same, finalFragments_append, counts, orderNext, order]
    refine ⟨connected, alone, ?_⟩
    cases final with
    | false =>
        simp only [Bool.false_eq_true, if_false, Bool.toNat_false, Nat.add_zero]
    | true =>
        simp only [if_true, Bool.toNat_true]
        exact nextInt_bmod _
  · rw [same, finalFragments_append, counts, applicationMessages_append, sends,
      law.messages, connected, order]
    cases final with
    | false =>
        simp only [Bool.false_eq_true, if_false, Bool.toNat_false, Nat.add_zero,
          List.append_nil]
    | true =>
        simp only [if_true, Bool.toNat_true]
        exact (wrappedMessages_receive _).symm

/-- The phase tells what has been shown. -/
theorem OrderLaw.of_phase
    {progress : SessionProgress}
    (law : OrderLaw events session)
    (known : session.phase.progress = some progress) :
    SessionProgress.of events = progress := by
  rw [law.progress] at known
  exact Option.some.inj known

/-- The connect message is the first. -/
theorem OrderLaw.connect
    {msg : AsgiWsConnectMsg}
    (law : OrderLaw events session)
    (unsent : SessionProgress.of events = {})
    (progress : next.phase.progress = some { connects := 1 })
    (reader : next.reader = session.reader) :
    OrderLaw (events ++ [.send (ascii "websocket.connect") msg]) next := by
  obtain ⟨untouched, noFinal⟩ := law.unstarted (by rw [unsent])
  have counted : SessionProgress.of
      (events ++ [WsEvent.send (ascii "websocket.connect") msg]) =
      { connects := 1 } := by
    rw [SessionProgress.of_append, unsent]
    rfl
  refine ⟨by rw [counted, progress], ?_, ?_, ?_⟩
  · intro _
    rw [finalFragments_append, noFinal, reader]
    exact ⟨untouched, rfl⟩
  · intro started
    rw [counted] at started
    contradiction
  · rw [counted, finalFragments_append, applicationMessages_append,
      law.messages, unsent, noFinal]
    rfl

/-- The reader is started once, after the connect message. -/
theorem OrderLaw.startReader
    {hr : HResult}
    (law : OrderLaw events session)
    (sent : SessionProgress.of events = { connects := 1 })
    (succeeds : failed hr = false) :
    OrderLaw (events ++ session.startReaderEvents request replyChannel)
      (session.startReader request replyChannel .sending hr) := by
  obtain ⟨untouched, noFinal⟩ := law.unstarted (by rw [sent])
  have counted : SessionProgress.of
      (events ++ session.startReaderEvents request replyChannel) =
      { connects := 1, readerStarts := 1 } := by
    rw [SessionProgress.of_append, sent]
    rfl
  have finals : finalFragments
      (events ++ session.startReaderEvents request replyChannel) = 0 := by
    rw [finalFragments_append, noFinal]
    rfl
  refine ⟨?_, ?_, ?_, ?_⟩
  · rw [counted]
    simp only [Session.startReader, SessionPhase.progress]
    rw [if_neg (by simp [succeeds])]
  · intro unstarted
    rw [counted] at unstarted
    contradiction
  · intro _
    rw [finals]
    refine ⟨by rw [counted], WsReader.singleRead_start ?_ _ _, ?_⟩
    · rw [untouched]
      rfl
    · simp only [Session.startReader, untouched]
      rfl
  · rw [counted, finals, applicationMessages_append, law.messages, sent, noFinal]
    rfl

/-- The writer is started once, after the reader. -/
theorem OrderLaw.startWriter
    (law : OrderLaw events session)
    (started : SessionProgress.of events = { connects := 1, readerStarts := 1 }) :
    OrderLaw (events ++ session.startWriterEvents replyChannel)
      (session.startWriter replyChannel (.pending .nothing false)) := by
  have counted : SessionProgress.of
      (events ++ session.startWriterEvents replyChannel) =
      { connects := 1, readerStarts := 1, writerStarts := 1 } := by
    rw [SessionProgress.of_append, started]
    rfl
  have finals : finalFragments
      (events ++ session.startWriterEvents replyChannel) =
      finalFragments events := by
    rw [finalFragments_append]
    rfl
  refine ⟨by rw [counted]; rfl, ?_, ?_, ?_⟩
  · intro unstarted
    rw [counted] at unstarted
    contradiction
  · intro _
    rw [counted, finals]
    have reads := law.started (by rw [started]; decide)
    exact ⟨rfl, reads.2⟩
  · rw [counted, finals, applicationMessages_append, law.messages, started]
    exact List.append_nil _

/-- Every step of a session keeps the order. -/
theorem OrderLaw.step
    (law : OrderLaw events session)
    (succeeds : label.fails = false)
    (atOnce : label.flushPends = false)
    (steps : SessionStep unpack request replyChannel session label shown next) :
    OrderLaw (events ++ shown) next := by
  cases steps with
  | execute atPhase => exact law.silent (by rw [atPhase]; rfl) rfl rfl rfl rfl
  | flushFails atPhase => contradiction
  | flushPends atPhase => contradiction
  | flushReturns bytes atPhase =>
      exact law.silent (by rw [atPhase]; rfl) rfl rfl rfl rfl
  | sendConnect atPhase =>
      exact law.silent (by rw [atPhase]; rfl) rfl rfl rfl rfl
  | leavePending await atPhase =>
      exact law.silent (by rw [atPhase]; cases await <;> rfl) rfl rfl rfl rfl
  | taskPost index returned atPhase =>
      exact law.silent (by rw [atPhase]; rfl) rfl rfl rfl rfl
  | taskSend index returned atPhase =>
      exact law.connect (law.of_phase (by rw [atPhase]; rfl)) rfl rfl
  | completePosted hr atPhase =>
      exact law.startReader (law.of_phase (by rw [atPhase]; rfl)) succeeds
  | startWriterSending hr atPhase =>
      have progress := law.progress
      rw [atPhase, SessionPhase.progress] at progress
      split at progress
      · contradiction
      · rename_i succeeded
        rw [if_neg succeeded]
        exact law.startWriter (Option.some.inj progress).symm
  | reader readerLabel readerNext readerShown phase readerSteps undeleted moves =>
      refine law.reader succeeds readerSteps rfl ?_
      rcases moves with rfl | ⟨stage, hr, before, rfl⟩
      · rfl
      · rw [before]
        cases stage <;> rfl
  | writer writerLabel writerNext writerShown writerSteps undeleted =>
      refine law.silent rfl rfl ?_ ?_ ?_
      · exact SessionProgress.of_eq_empty (by simp) (by simp) (by simp)
      · simp [applicationMessages, applicationMessage]
      · simp [finalFragments, WsEvent.isFinal]
  | flushCompletes hr atPhase | startWriterAccepting hr atPhase
  | leaveFinish stage atPhase | cleanup stage atPhase
  | readerFreed _ _ _ _ _ atPhase | writerFreed _ _ _ _ _ atPhase =>
      have progress := law.progress
      rw [atPhase] at progress
      contradiction

/-! ## The session of a connection -/

variable {random : Bytes}
variable {labels : List (SubscriberLabel WsLabel)}
variable {trace : List (SubscriberEvent WsEvent)}
variable {system : SubscriberSystem WsRequestHandler}

/-- Every step of the system keeps the order. -/
theorem OrderLaw.moved
    {view viewNext : ChannelView}
    {label : SubscriberLabel WsLabel}
    {shown : List (SubscriberEvent WsEvent)}
    {handler : WsRequestHandler}
    (law : OrderLaw events session)
    (isGood : flushesAtOnce handler label)
    (moved : SessionMoved unpack request replyChannel session view label next
      viewNext shown) :
    OrderLaw (events ++ ownEvents shown) next := by
  cases moved with
  | own label next shown steps seen =>
      obtain ⟨succeeds, atOnce⟩ := Bool.or_eq_false_iff.mp isGood
      rw [ownEvents_own]
      exact law.step succeeds atOnce steps
  | dispatched data label registered seen =>
      exact law.silent rfl rfl rfl rfl rfl
  | other label events notOwn silent seen =>
      rw [silent]
      exact law.silent rfl rfl rfl rfl rfl

theorem ConnectionRun.order
    (run : ConnectionRun unpack request (sendChannel random) flushesAtOnce labels
      trace system) :
    ∃ session : Session,
      system.state = session.toHandler request (sendChannel random) ∧
        OrderLaw (ownEvents trace) session := by
  obtain ⟨session, equal, _, law⟩ := run.session_law
    (fun events session _ => OrderLaw events session)
    (sendChannel_ne_nil random)
    ⟨rfl, fun _ => ⟨rfl, rfl⟩, fun started => absurd rfl started, rfl⟩
    (fun _ _ _ _ _ _ _ law isGood moved => law.moved isGood moved)
  exact ⟨session, equal, law⟩

/-- Nothing is started or connected twice in any phase. -/
theorem SessionPhase.progress_le_one
    {phase : SessionPhase}
    {progress : SessionProgress}
    (atPhase : phase.progress = some progress) :
    progress.connects ≤ 1 ∧ progress.readerStarts ≤ 1 ∧
      progress.writerStarts ≤ 1 := by
  cases phase with
  | notStarted | inFlush | accepted =>
      cases atPhase
      decide
  | pending await returned =>
      cases await with
      | flush => contradiction
      | _ =>
          cases atPhase
          decide
  | startingReader stage hr | startingWriter stage hr =>
      cases stage with
      | accepting => contradiction
      | sending =>
          rw [SessionPhase.progress] at atPhase
          split at atPhase
          · contradiction
          · cases atPhase
            decide
  | ending | finished | deleted => contradiction

/-- When everything succeeds and the flush does not pend, the reader and the
writer of a connection are started at most once, at most one read is
outstanding, and the application is sent the connect message and then the
received messages, numbered without gaps. -/
theorem session_order
    (run : ConnectionRun unpack request (sendChannel random) flushesAtOnce labels
      trace system)
    (few : finalFragments (ownEvents trace) < 2 ^ 31) :
    (ownEvents trace).count .startReader ≤ 1 ∧
      (ownEvents trace).count .startWriter ≤ 1 ∧
      system.state.reader.calls.offers.length ≤ 1 ∧
      applicationMessages (ownEvents trace) =
        sessionMessages (applicationMessages (ownEvents trace)).length := by
  obtain ⟨session, equal, law⟩ := run.order
  obtain ⟨connects, readerStarts, writerStarts⟩ :=
    SessionPhase.progress_le_one law.progress
  refine ⟨readerStarts, writerStarts, ?_, ?_⟩
  · rw [equal]
    by_cases unstarted : (SessionProgress.of (ownEvents trace)).readerStarts = 0
    · show session.reader.calls.offers.length ≤ 1
      rw [(law.unstarted unstarted).1]
      decide
    · have single : session.reader.calls.offers = _ :=
        (law.started unstarted).2.1
      show session.reader.calls.offers.length ≤ 1
      rw [single, List.length_singleton]
  · rw [law.messages, wrappedMessages_eq _ (by omega)]
    simp [sessionMessages]

/-- The connect message is sent and two messages are received. -/
def sampleSession : List (SubscriberLabel WsLabel) :=
  [.own .onExecuteRequestHandler, .own (.flushReturns (.completed 0)),
    .own .stateMachine, .own (.taskSend 0), .own .stateMachine,
    .own (.taskPost 0), .own (.completePosted sOk),
    .own (.reader (.readReturns 0 { payload := ascii "hi" })),
    .own (.reader (.readPends 0)),
    .own (.reader (.readCallback 0 sOk { payload := ascii "you" })),
    .own (.reader (.leave 0)), .own .startWriter, .own .stateMachine]

theorem session_order_sample :
    ∃ trace system,
      ConnectionRun (fun _ => none) {} (sendChannel [0x41]) flushesAtOnce
        sampleSession trace system ∧
      applicationMessages (ownEvents trace) = sessionMessages 3 ∧
      applicationMessages (ownEvents trace) =
        sessionMessages (applicationMessages (ownEvents trace)).length := by
  have checked : EventMachine.checks
      ((WsRequestHandler.subscriber (fun _ => none) {}
        (sendChannel [0x41])).systemStep (sendChannel [0x41]))
      (fun system label => flushesAtOnce system.state label)
      connectionStart sampleSession
      (fun _ trace => applicationMessages (ownEvents trace) = sessionMessages 3 ∧
        finalFragments (ownEvents trace) = 2) = true := by
    decide +kernel
  obtain ⟨trace, system, run, shown, finals⟩ := EventMachine.Run.of_checks checked
  have ordered := session_order run (by omega)
  exact ⟨trace, system, run, shown, ordered.2.2.2⟩

/-- The flush pends: its completion starts the reader and the writer before the
connect message is sent, and the posted completion starts them again. -/
def pendingFlush : List (SubscriberLabel WsLabel) :=
  [.own .onExecuteRequestHandler, .own (.flushReturns .pending),
    .own .stateMachine, .own (.flushCompletes sOk),
    .own (.reader (.readReturns 0 { payload := ascii "hi" })),
    .own (.reader (.readPends 0)), .own (.reader (.leave 0)),
    .own .startWriter, .own .stateMachine, .own .stateMachine,
    .own (.taskSend 0), .own (.taskPost 0), .own (.completePosted sOk),
    .own (.reader (.readPends 0)), .own (.reader (.leave 0)),
    .own .startWriter, .own .stateMachine]

theorem starts_twice :
    (∀ label ∈ pendingFlush, ∀ own, label = .own own → own.fails = false) ∧
    ∃ trace system,
      ConnectionRun (fun _ => none) {} (sendChannel [0x41]) (fun _ _ => True)
        pendingFlush trace system ∧
      (ownEvents trace).count .startReader = 2 ∧
      (ownEvents trace).count .startWriter = 2 ∧
      system.state.reader.calls.offers.length = 2 ∧
      applicationMessages (ownEvents trace) =
        [(ascii "websocket.receive", 1), (ascii "websocket.connect", 0)] := by
  have checked : EventMachine.checks
      ((WsRequestHandler.subscriber (fun _ => none) {}
        (sendChannel [0x41])).systemStep (sendChannel [0x41]))
      (fun _ _ => True) connectionStart pendingFlush
      (fun system trace => (ownEvents trace).count .startReader = 2 ∧
        (ownEvents trace).count .startWriter = 2 ∧
        system.state.reader.calls.offers.length = 2 ∧
        applicationMessages (ownEvents trace) =
          [(ascii "websocket.receive", 1),
            (ascii "websocket.connect", 0)]) = true := by
    decide +kernel
  refine ⟨?_, EventMachine.Run.of_checks checked⟩
  simp [pendingFlush, WsLabel.fails, ReaderLabel.fails, failed, sOk]

end IisAsgiHandler
