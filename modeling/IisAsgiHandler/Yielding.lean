import IisAsgiHandler.Http.HandlerCalls
import IisAsgiHandler.WebSocket.HandlerCalls

/-!
# The state machine yields

The handler calls of requests and of connections return after a bounded number
of turns of `HandlerStateMachine`.  The calls of a connection that start its
reader stay in `m_reader.Start` for as long as each read completes at once.
-/

namespace IisAsgiHandler

/-- A handler call takes at most four turns of the loop for a request, and at
most two for a connection.  Its thread is never stuck, and takes at most six
steps more than there are bytes of the body left to read, or five more than
there are reads in `m_reader.Start` that complete at once. -/
theorem state_machine_yields
    {ρ : Type} [DecidableEq ρ]
    {unpackResponse : Bytes → Option AsgiHttpResponseMsg}
    {requests : Requests ρ}
    {requestPast requestLabels : List (HttpSystemLabel ρ)}
    {requestPastTrace requestTrace : List (HttpSystemEvent ρ)}
    {serverReached server : HttpSystem ρ}
    {id : ρ}
    {unpack : Bytes → Option AsgiWsSendMsg}
    {request : HttpRequest}
    {random : Bytes}
    {past labels : List (SubscriberLabel WsLabel)}
    {pastTrace trace : List (SubscriberEvent WsEvent)}
    {reached system : SubscriberSystem WsRequestHandler}
    (serverReaches : EventMachine.Run (HttpSystem.step unpackResponse requests)
      EventMachine.always {} requestPast requestPastTrace serverReached)
    (requestCall : (HttpSystem.handlerCall requests id).busy serverReached = true)
    (requestRun : EventMachine.Run (HttpSystem.step unpackResponse requests)
      ((HttpSystem.handlerCall requests id).during (HttpSystem.ownStepsAre
        (fun handler label => handler.readAdvances label = true) id))
      serverReached requestLabels requestTrace server)
    (reaches : ConnectionRun unpack request (sendChannel random)
      (fun _ _ => True) past pastTrace reached)
    (connectionCall : WsRequestHandler.handlerCall.busy reached = true)
    (connectionRun : EventMachine.Run
      (connectionMachine unpack request (sendChannel random))
      (WsRequestHandler.handlerCall.during EventMachine.always) reached labels
      trace system) :
    (HttpSystem.handlerCall requests id).Yields
        (HttpSystem.step unpackResponse requests) 4
        ((serverReached.handlers id).remaining (requests.request id) + 6)
        serverReached requestLabels requestTrace server ∧
      WsRequestHandler.handlerCall.Yields
        (connectionMachine unpack request (sendChannel random)) 2
        (5 + EventMachine.count
          (connectionMachine unpack request (sendChannel random))
          WsRequestHandler.startReads reached labels)
        reached labels trace system := by
  refine ⟨?_, ?_⟩
  · exact HttpSystem.handlerCall_yields serverReaches requestCall requestRun
  · exact reaches.handlerCall_yields connectionCall connectionRun

/-- A chunk of a response arrives. -/
def chunkArrives : List (HttpSystemLabel Bool) :=
  requestLabels true ++
    responseLabels (sampleRequests []) true (packSample (ascii "hi") true) ++
    [.handler true (.completePosted 0 0 0)]

/-- The chunk is written and flushed at once, and the request waits again. -/
def chunkStreams : List (HttpSystemLabel Bool) :=
  [.handler true .stateMachine, .handler true (.iisReturn (.completed 0)),
    .handler true .stateMachine, .handler true (.iisReturn (.completed 0)),
    .handler true .stateMachine, .handler true .stateMachine]

/-- The posted completion of a connection starts the reader. -/
def readerStarts : List (SubscriberLabel WsLabel) :=
  [.own .onExecuteRequestHandler, .own (.flushReturns (.completed 0)),
    .own .stateMachine, .own .stateMachine, .own (.taskSend 0),
    .own (.taskPost 0), .own (.completePosted sOk)]

/-- A read in `Start` delivers a message at once. -/
def readAtOnce : SubscriberLabel WsLabel :=
  .own (.reader (.readReturns 0 { payload := [0x61] }))

/-- `Start` reads a message at once, the next read is left pending, and the
call goes on to its end. -/
def readerReads : List (SubscriberLabel WsLabel) :=
  [readAtOnce, .own (.reader (.readPends 0)), .own (.reader (.leave 0)),
    .own .startWriter, .own .stateMachine]

theorem state_machine_yields_sample :
    ∃ server events, ∃ connection shown,
      (server.handlers true).thread = .waiting ∧
      connection.state.thread = .waiting ∧
      ∃ serverReached reached,
        (HttpSystem.handlerCall (sampleRequests []) true).Yields
          (HttpSystem.step (unpackSamples (ascii "hi") []) (sampleRequests []))
          4
          ((serverReached.handlers true).remaining
            ((sampleRequests []).request true) + 6)
          serverReached chunkStreams events server ∧
        WsRequestHandler.handlerCall.Yields
          (connectionMachine (fun _ => none) {} (sendChannel [0x41])) 2
          (5 + EventMachine.count
            (connectionMachine (fun _ => none) {} (sendChannel [0x41]))
            WsRequestHandler.startReads reached readerReads)
          reached readerReads shown connection := by
  have requestChecked : EventMachine.checks
      (HttpSystem.step (unpackSamples (ascii "hi") []) (sampleRequests []))
      EventMachine.always {} chunkArrives
      (fun reached _ =>
        (HttpSystem.handlerCall (sampleRequests []) true).busy reached = true ∧
        EventMachine.checks
          (HttpSystem.step (unpackSamples (ascii "hi") []) (sampleRequests []))
          ((HttpSystem.handlerCall (sampleRequests []) true).during
            (HttpSystem.ownStepsAre
              (fun handler label => handler.readAdvances label = true) true))
          reached chunkStreams
          (fun system _ => (system.handlers true).thread = .waiting) = true) =
        true := by
    decide +kernel
  have connectionChecked : EventMachine.checks
      (connectionMachine (fun _ => none) {} (sendChannel [0x41]))
      (fun _ _ => True) connectionStart readerStarts
      (fun reached _ => WsRequestHandler.handlerCall.busy reached = true ∧
        EventMachine.checks
          (connectionMachine (fun _ => none) {} (sendChannel [0x41]))
          (WsRequestHandler.handlerCall.during EventMachine.always) reached
          readerReads
          (fun system _ => system.state.thread = .waiting) = true) = true := by
    decide +kernel
  obtain ⟨_, serverReached, serverReaches, requestCall, requestChecked⟩ :=
    EventMachine.Run.of_checks requestChecked
  obtain ⟨events, server, requestRun, serverWaits⟩ :=
    EventMachine.Run.of_checks requestChecked
  obtain ⟨_, reached, reaches, connectionCall, connectionChecked⟩ :=
    EventMachine.Run.of_checks connectionChecked
  obtain ⟨shown, connection, connectionRun, connectionWaits⟩ :=
    EventMachine.Run.of_checks connectionChecked
  exact ⟨server, events, connection, shown, serverWaits, connectionWaits,
    serverReached, reached, state_machine_yields serverReaches requestCall
      requestRun reaches connectionCall connectionRun⟩

/-- The thread of a connection is in `Start`, in a read that was offered
something. -/
def ReadsInStart (system : SubscriberSystem WsRequestHandler) : Prop :=
  (∃ hr, system.state.thread = .startingReader hr) ∧
    ∃ length, 1 ≤ length ∧
      system.state.reader.calls.frames = [⟨.start, some length⟩]

/-- After a message that a read has delivered at once, the thread reads
again. -/
theorem ReadsInStart.again
    {unpack : Bytes → Option AsgiWsSendMsg}
    {request : HttpRequest}
    {replyChannel : Bytes}
    {system : SubscriberSystem WsRequestHandler}
    (reads : ReadsInStart system) :
    ∃ next events,
      connectionMachine unpack request replyChannel system readAtOnce =
        some (next, events) ∧
      ReadsInStart next := by
  obtain ⟨⟨hr, atThread⟩, length, offered, single⟩ := reads
  have own : system.state.reader.startStep
      (.readReturns 0 { payload := [0x61] }) = true := by
    simpa [WsReader.startStep, single] using offered
  obtain ⟨⟨reader, events⟩, readerSteps⟩ :=
    Option.isSome_iff_exists.mp (WsReader.startStep_isSome own)
  have frames : reader.calls.frames =
      [⟨.start, some (AsgiWsReceiveMsg.bufferChunkSize % dwordSize)⟩] := by
    simp only [WsReader.step, single, List.getElem?_cons_zero,
      List.length_singleton, offered, if_true, Option.some.injEq,
      Prod.mk.injEq] at readerSteps
    obtain ⟨rfl, rfl⟩ := readerSteps
    simp [WsReader.loop, PendingCalls.callAgain, single, WsReader.offeredLength,
      WsReader.readAsyncComplete, WsReader.sendToApplication]
  have handlerSteps : system.state.readerStep
      (.readReturns 0 { payload := [0x61] }) =
        some ({ system.state with
            thread := .startingReader hr
            reader := reader }, events.map .reader) := by
    simp [WsRequestHandler.readerStep, readerSteps, atThread,
      WsRequestHandler.returnsFromStart]
  have moves : ∃ pump shown,
      connectionMachine unpack request replyChannel system readAtOnce =
        some ({ system with
            state := { system.state with
              thread := .startingReader hr
              reader := reader }
            pump := pump }, shown) := by
    simp only [connectionMachine, readAtOnce, Subscriber.systemStep,
      WsRequestHandler.subscriber, WsRequestHandler.step, handlerSteps]
    exact ⟨_, _, rfl⟩
  obtain ⟨pump, shown, moves⟩ := moves
  exact ⟨_, shown, moves, ⟨hr, rfl⟩, _, by decide, frames⟩

/-- The call that starts the reader of a connection goes on for as long as
messages arrive in time: it reads without end. -/
theorem start_reads_forever :
    ∃ trace, ∃ states : Nat → SubscriberSystem WsRequestHandler,
      ConnectionRun (fun _ => none) {} (sendChannel [0x41]) (fun _ _ => True)
        readerStarts trace (states 0) ∧
      ∀ time, WsRequestHandler.handlerCall.busy (states time) = true ∧
        WsRequestHandler.handlerCall.own (states time) readAtOnce = true ∧
        ∃ events,
          connectionMachine (fun _ => none) {} (sendChannel [0x41])
            (states time) readAtOnce = some (states (time + 1), events) := by
  have checked : EventMachine.checks
      (connectionMachine (fun _ => none) {} (sendChannel [0x41]))
      (fun _ _ => True) connectionStart readerStarts
      (fun reached _ => reached.state.thread = .startingReader sOk ∧
        reached.state.reader.calls.frames = [⟨.start, some 4096⟩]) = true := by
    decide +kernel
  obtain ⟨trace, reached, run, atThread, frames⟩ :=
    EventMachine.Run.of_checks checked
  have reads : ReadsInStart reached :=
    ⟨⟨sOk, atThread⟩, 4096, by decide, frames⟩
  obtain ⟨states, start, forever⟩ :=
    EventMachine.exists_forever (fun _ reads => ReadsInStart.again reads) reads
  refine ⟨trace, states, start ▸ run, ?_⟩
  intro time
  obtain ⟨⟨⟨hr, inStart⟩, length, offered, single⟩, steps⟩ := forever time
  refine ⟨?_, ?_, steps⟩
  · simp [WsRequestHandler.handlerCall, WsThread.busy, inStart]
  · simpa [WsRequestHandler.handlerCall, readAtOnce, SubscriberLabel.onOwn,
      WsRequestHandler.threadStep, WsReader.startStep, inStart, single]
      using offered

end IisAsgiHandler
