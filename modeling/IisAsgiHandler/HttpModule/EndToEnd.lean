import IisAsgiHandler.Http.Response
import IisAsgiHandler.HttpModule.Worker
import IisAsgiHandler.WebSocket.Frames

/-!
# Messages through Redis

What the application stores in Redis for a request comes out at the client of
that request, whatever else the worker process and the other clients of the
database do.
-/

namespace IisAsgiHandler

open EventMachine (Run always HostedEvent)
open EventMachine.Host (componentEvents)
open WsWriter (AcceptsAll writtenFrames)

namespace Worker

variable {ρ : Type} [DecidableEq ρ]

/-- The events of an HTTP request. -/
def httpEvents (id : ρ) (trace : List (WorkerEvent ρ)) : List HttpEvent :=
  (EventMachine.Host.hostEvents trace).filterMap fun
    | .http other event => if other = id then some event else none
    | _ => none

/-- The events of a connection. -/
def wsEvents (id : ρ) (trace : List (WorkerEvent ρ)) : List WsEvent :=
  (EventMachine.Host.hostEvents trace).filterMap fun
    | .ws other event => if other = id then some event else none
    | _ => none

theorem requestEvents_eq (id : ρ) (trace : List (WorkerEvent ρ)) :
    HttpSystem.requestEvents id (trace.filterMap httpEvent) =
      httpEvents id trace := by
  rw [HttpSystem.requestEvents, httpEvents, EventMachine.Host.hostEvents,
    List.filterMap_filterMap, List.filterMap_filterMap]
  congr 1
  funext event
  cases event with
  | host event => cases event <;> simp [httpEvent]
  | _ => simp [httpEvent]

theorem ownEvents_eq (id : ρ) (trace : List (WorkerEvent ρ)) :
    ownEvents (trace.filterMap (connectionEvent id)) = wsEvents id trace := by
  rw [ownEvents, wsEvents, EventMachine.Host.hostEvents,
    List.filterMap_filterMap, List.filterMap_filterMap]
  congr 1
  funext event
  cases event with
  | host event =>
      cases event with
      | http => simp [connectionEvent]
      | ws other event =>
          by_cases same : other = id <;> simp [connectionEvent, same]
  | component message => simp [connectionEvent]
  | delivered task =>
      simp only [connectionEvent, ConnectionImage.taskEvents]
      split <;> simp

omit [DecidableEq ρ] in
theorem sentTo_eq (channel : Bytes) (trace : List (WorkerEvent ρ)) :
    HttpSystem.sentTo channel (trace.filterMap httpEvent) =
      messagesTo channel (componentEvents trace) := by
  rw [HttpSystem.sentTo, messagesTo, componentEvents, List.filterMap_filterMap,
    List.filterMap_filterMap]
  congr 1
  funext event
  cases event with
  | host event => cases event <;> simp [httpEvent]
  | _ => simp [httpEvent]

theorem sentToChannel_eq
    (channel : Bytes) (id : ρ) (trace : List (WorkerEvent ρ)) :
    sentToChannel channel (trace.filterMap (connectionEvent id)) =
      messagesTo channel (componentEvents trace) := by
  rw [sentToChannel, messagesTo, componentEvents, List.filterMap_filterMap,
    List.filterMap_filterMap]
  congr 1
  funext event
  cases event with
  | host event =>
      cases event with
      | http => simp [connectionEvent]
      | ws other event =>
          by_cases same : other = id <;> simp [connectionEvent, same]
  | component message => simp [connectionEvent]
  | delivered task =>
      simp only [connectionEvent, ConnectionImage.taskEvents]
      split <;> simp

variable {unpackResponse : Bytes → Option AsgiHttpResponseMsg}
variable {unpackSend : Bytes → Option AsgiWsSendMsg}
variable {requests : Requests ρ}
variable {mPrefix : Bytes}
variable {labels : List (HttpModuleLabel ρ ⊕ RedisPumpLabel)}
variable {trace : List (WorkerEvent ρ)}
variable {contexts : ModuleContexts ρ}
variable {redis : RedisPump (CapturedHandler ρ)}

/-- The runs of a worker process over Redis whose commands succeed, where no key
expires and no one else receives from the reply channels. -/
abbrev RedisRun
    (unpackResponse : Bytes → Option AsgiHttpResponseMsg)
    (unpackSend : Bytes → Option AsgiWsSendMsg)
    (requests : Requests ρ)
    (mPrefix : Bytes)
    (labels : List (HttpModuleLabel ρ ⊕ RedisPumpLabel))
    (trace : List (WorkerEvent ρ))
    (contexts : ModuleContexts ρ)
    (redis : RedisPump (CapturedHandler ρ)) : Prop :=
  Run (redisWorker unpackResponse unpackSend requests mPrefix)
    (EventMachine.Host.guarded always
      (RedisPump.Undisturbed mPrefix (ReplyChannel requests)))
    (noContexts, {}) labels trace (contexts, redis)

/-! ## A request and a connection at once -/

/-- A request and a connection. -/
def sampleWorker : Requests Bool where
  request id :=
    if id then
      { knownHeaders := fun header =>
          if header = .upgrade then ascii "websocket" else [] }
    else {}
  random id := if id then ascii "AAAAAAAAAA" else ascii "BBBBBBBBBB"
  distinct := by
    intro first second equal
    cases first <;> cases second <;> simp_all <;> revert equal <;> decide

/-- Both are served; their messages are sent and received with the commands of
the three calls mixed. -/
def servesBoth : List (HttpModuleLabel Bool ⊕ RedisPumpLabel) :=
  let request := sampleWorker.channel false
  let connection := sendChannel (sampleWorker.random true)
  let keys := RedisChannelLayer.prefixedChannels RedisChannelLayer.defaultPrefix
  [.inl (.onExecuteRequestHandler false), .inl (.http false .stateMachine),
    .inl (.onExecuteRequestHandler true),
    .inl (.ws true (.flushReturns (.completed 0))),
    .inl (.http false .stateMachine), .inl (.http false (.taskSend 0)),
    .inl (.ws true .stateMachine), .inl (.ws true (.taskSend 0)),
    .inl (.ws true .stateMachine), .inl (.ws true (.taskPost 0)),
    .inl (.http false (.taskPost 0)),
    .inl (.onAsyncCompletion false (.posted 0 sOk 0)),
    .inl (.http false .stateMachine), .inl (.http false .stateMachine),
    .inl (.onAsyncCompletion true (.posted 0 sOk 0)),
    .inl (.ws true (.reader (.readPends 0))),
    .inl (.ws true (.reader (.leave 0))), .inl (.ws true .startWriter),
    .inl (.ws true .stateMachine),
    .inr (.client (.startSend request (packSample (ascii "c") false)
      (ascii "0000000000"))),
    .inr (.client (.startSend connection (WsWriter.packSend (ascii "hi"))
      (ascii "1111111111"))),
    .inr (.client (.runCommand 0)), .inr (.client (.runCommand 1)),
    .inr (.client (.runCommand 0)), .inr (.client (.runCommand 1)),
    .inr (.client (.runCommand 1)), .inr .snapshot,
    .inr (.client (.runCommand 0)),
    .inr (.receiveMany (keys [connection, request])), .inr .command,
    .inr (.client (.runCommand 0)), .inr .command, .inr .dispatch,
    .inr .snapshot, .inr (.receiveMany (keys [request])), .inr .command,
    .inr .command, .inr .dispatch,
    .inl (.ws true (.writer (.channelsCallback 0))),
    .inl (.http false (.callbackUnpack 0)),
    .inl (.http false (.callbackPost 0)),
    .inl (.ws true (.writer (.writeReturns 0 2))),
    .inl (.onAsyncCompletion false (.posted 0 sOk 0)),
    .inl (.http false .stateMachine),
    .inl (.http false (.iisReturn (.completed 0))),
    .inl (.http false .stateMachine)]

/-- The steps of the pump and of other clients are undisturbed. -/
def clearSteps
    {κ : Type} (state : ModuleContexts Bool × RedisPump κ) :
    HttpModuleLabel Bool ⊕ RedisPumpLabel → Prop
  | .inl _ => True
  | .inr label => state.2.Clear RedisChannelLayer.defaultPrefix label

instance
    {κ : Type}
    (state : ModuleContexts Bool × RedisPump κ)
    (label : HttpModuleLabel Bool ⊕ RedisPumpLabel) :
    Decidable (clearSteps state label) :=
  match label with
  | .inl _ => .isTrue trivial
  | .inr label => inferInstanceAs
      (Decidable (state.2.Clear RedisChannelLayer.defaultPrefix label))

/-- What both have come to. -/
structure ServesBoth
    (contexts : ModuleContexts Bool)
    (trace : List (WorkerEvent Bool)) : Prop where
  finished : (contexts.httpHandler false).thread = .finished
  response : ∀ data ∈
    messagesTo (sampleWorker.channel false) (componentEvents trace),
    isResponse (unpackSamples [] (ascii "c")) data
  succeeds : ∀ event ∈ httpEvents false trace,
    isReadFailure event = false ∧ isResponseFailure event = false
  writer : writerEvents (wsEvents true trace) =
    [.addChannel (sendChannel (sampleWorker.random true)),
      .writeFragment (ascii "hi"), .wrote (ascii "hi") 2, .counted 2,
      .addChannel (sendChannel (sampleWorker.random true))]
  once : (wsEvents true trace).count .startWriter = 1

theorem generated_sampleWorker :
    ∀ id, RedisChannelLayer.IsRandomAscii 10 (sampleWorker.random id) := by
  intro id
  cases id <;> decide +kernel

theorem servesBoth_run :
    ∃ trace contexts redis,
      RedisRun (unpackSamples [] (ascii "c")) (WsWriter.unpackSends [ascii "hi"])
        sampleWorker RedisChannelLayer.defaultPrefix servesBoth trace contexts
        redis ∧
      ServesBoth contexts trace := by
  have checked : EventMachine.checks
      (redisWorker (unpackSamples [] (ascii "c"))
        (WsWriter.unpackSends [ascii "hi"]) sampleWorker
        RedisChannelLayer.defaultPrefix)
      clearSteps (noContexts, {}) servesBoth
      (fun state trace => (state.1.httpHandler false).thread = .finished ∧
        (∀ data ∈ messagesTo (sampleWorker.channel false) (componentEvents trace),
          isResponse (unpackSamples [] (ascii "c")) data) ∧
        (∀ event ∈ httpEvents false trace,
          isReadFailure event = false ∧ isResponseFailure event = false) ∧
        writerEvents (wsEvents true trace) =
          [.addChannel (sendChannel (sampleWorker.random true)),
            .writeFragment (ascii "hi"), .wrote (ascii "hi") 2, .counted 2,
            .addChannel (sendChannel (sampleWorker.random true))] ∧
        (wsEvents true trace).count .startWriter = 1) = true := by
    decide +kernel
  obtain ⟨trace, ⟨contexts, redis⟩, run, finished, response, succeeds, writer,
    once⟩ := Run.of_checks checked
  refine ⟨trace, contexts, redis, run.mono ?_,
    ⟨finished, response, succeeds, writer, once⟩⟩
  rintro ⟨contexts, redis⟩ (label | label) clear
  · trivial
  · exact redis.undisturbed_of_clear _ clear

/-! ## Results -/

/-- The requests of a worker process over Redis run as in a system of HTTP
requests over queues, and each of its connections as if it were alone there. -/
theorem worker_isolates
    (generated : ∀ id, RedisChannelLayer.IsRandomAscii 10 (requests.random id))
    (run : RedisRun unpackResponse unpackSend requests mPrefix labels trace
      contexts redis) :
    (∃ imageLabels system,
      Run (HttpSystem.step unpackResponse requests) always {} imageLabels
        (trace.filterMap httpEvent) system ∧
      system.handlers = contexts.httpHandler) ∧
    ∀ id, ∃ imageLabels system,
      ConnectionRun unpackSend (requests.request id)
        (sendChannel (requests.random id)) (fun _ _ => True) imageLabels
        (trace.filterMap (connectionEvent id)) system ∧
      system.state = contexts.wsHandler id := by
  obtain ⟨queueLabels, inner, queueRun⟩ := run_queues generated run
  constructor
  · obtain ⟨imageLabels, system, imageRun, image⟩ := run_http queueRun
    exact ⟨imageLabels, system, imageRun, image.handlers⟩
  · intro id
    obtain ⟨imageLabels, system, imageRun, image⟩ := run_ws id queueRun
    exact ⟨imageLabels, system, imageRun, image.state⟩

theorem worker_isolates_sample :
    ∃ trace contexts redis,
      RedisRun (unpackSamples [] (ascii "c")) (WsWriter.unpackSends [ascii "hi"])
        sampleWorker RedisChannelLayer.defaultPrefix servesBoth trace contexts
        redis ∧
      ∃ imageLabels system,
        ConnectionRun (WsWriter.unpackSends [ascii "hi"])
          (sampleWorker.request true) (sendChannel (sampleWorker.random true))
          (fun _ _ => True) imageLabels (trace.filterMap (connectionEvent true))
          system ∧
        system.state = contexts.wsHandler true := by
  obtain ⟨trace, contexts, redis, run, -⟩ := servesBoth_run
  exact ⟨trace, contexts, redis, run,
    (worker_isolates generated_sampleWorker run).2 true⟩

omit [DecidableEq ρ] in
/-- A request that has read its body follows its script. -/
theorem follows_script
    {channel : Bytes}
    {past : LifeHistory}
    {life : Life}
    (answering : Answering unpackResponse channel past life)
    (read : readFailed past.events = false) :
    responseEvents past.events <+:
      responseScript channel (past.messages.filterMap unpackResponse) := by
  rcases answering.responding.cases with
    ⟨streamed, streaming⟩ | ⟨finish, isFinish, ended⟩
  · exact streaming.fidelity.1
  · rcases ended.fidelity isFinish with
      ⟨failure, -⟩ | ⟨⟨start, shown, script⟩, -⟩
    · rw [read] at failure
      cases failure
    · rw [shown, script]
      exact (List.prefix_append_right_inj start).mpr isFinish

omit [DecidableEq ρ] in
/-- A request that has finished has followed all of it, up to a final message. -/
theorem finishes_script
    {channel : Bytes}
    {past : LifeHistory}
    {life : Life}
    {step : RequestHandlerStep}
    (answering : Answering unpackResponse channel past life)
    (read : readFailed past.events = false)
    (atPhase : life.phase = .finished step) :
    responseEvents past.events =
        responseScript channel (past.messages.filterMap unpackResponse) ∧
      written (responseEvents past.events) =
        (upToFinal (past.messages.filterMap unpackResponse)).flatMap
          (fun msg => msg.content) ∧
      ∃ last, (upToFinal (past.messages.filterMap unpackResponse)).getLast? =
        some last ∧ last.moreContent = false := by
  have responding := answering.responding
  rw [Responding, atPhase] at responding
  rcases responding.fidelity List.prefix_rfl with
    ⟨failure, -⟩ | ⟨⟨start, shown, script⟩, writes, final⟩
  · rw [read] at failure
    cases failure
  · exact ⟨shown.trans script.symm, writes, final⟩

/-- What an HTTP request has made of the messages of its channel. -/
theorem response_of_run
    (generated : ∀ id, RedisChannelLayer.IsRandomAscii 10 (requests.random id))
    (run : RedisRun unpackResponse unpackSend requests mPrefix labels trace
      contexts redis)
    (id : ρ)
    (wellFormed : ∀ data ∈
      messagesTo (requests.channel id) (componentEvents trace),
      isResponse unpackResponse data)
    (succeeds : ∀ event ∈ httpEvents id trace,
      isReadFailure event = false ∧ isResponseFailure event = false) :
    let messages := (messagesTo (requests.channel id)
      (componentEvents trace)).filterMap unpackResponse
    let response := responseEvents (httpEvents id trace)
    response <+: responseScript (requests.channel id) messages ∧
      ((contexts.httpHandler id).thread = .finished →
        response = responseScript (requests.channel id) messages ∧
          written response =
            (upToFinal messages).flatMap (fun msg => msg.content) ∧
          ∃ last, (upToFinal messages).getLast? = some last ∧
            last.moreContent = false) := by
  obtain ⟨queueLabels, inner, queueRun⟩ := run_queues generated run
  obtain ⟨imageLabels, system, imageRun, image⟩ := run_http queueRun
  rw [← sentTo_eq] at wellFormed ⊢
  rw [← requestEvents_eq] at succeeds ⊢
  rw [← image.handlers]
  obtain ⟨life, ⟨-, seen⟩, answering⟩ :=
    HttpSystem.life_induction id (fun event => isResponseFailure event = false)
      (fun data => isResponse unpackResponse data)
      (Answering unpackResponse (requests.channel id)) (Answering.initial _ _)
      (fun _ _ _ _ _ answering succeeds messages steps =>
        answering.step succeeds messages steps)
      (fun event member => (succeeds event member).2) wellFormed imageRun
  have read : readFailed
      (HttpSystem.requestEvents id (trace.filterMap httpEvent)) = false := by
    rw [readFailed, List.any_eq_false]
    intro event member
    simp [(succeeds event member).1]
  refine ⟨follows_script answering read, fun finished => ?_⟩
  rw [seen.handler] at finished
  obtain ⟨step, atPhase⟩ := Life.thread_finished finished
  exact finishes_script answering read atPhase

/-- The response of an HTTP request follows the script of the messages that
clients have pushed to its channel, and writes the contents of all of them up to
the final one by the time that it finishes. -/
theorem redis_response
    (generated : ∀ id, RedisChannelLayer.IsRandomAscii 10 (requests.random id))
    (run : RedisRun unpackResponse unpackSend requests mPrefix labels trace
      contexts redis)
    (id : ρ)
    (wellFormed : ∀ data ∈
      messagesTo (requests.channel id) (componentEvents trace),
      isResponse unpackResponse data)
    (succeeds : ∀ event ∈ httpEvents id trace,
      isReadFailure event = false ∧ isResponseFailure event = false) :
    let messages := (messagesTo (requests.channel id)
      (componentEvents trace)).filterMap unpackResponse
    let response := responseEvents (httpEvents id trace)
    response <+: responseScript (requests.channel id) messages ∧
      ((contexts.httpHandler id).thread = .finished →
        response = responseScript (requests.channel id) messages ∧
          written response =
            (upToFinal messages).flatMap fun msg => msg.content) := by
  obtain ⟨follows, finishes⟩ :=
    response_of_run generated run id wellFormed succeeds
  refine ⟨follows, fun finished => ?_⟩
  obtain ⟨all, writes, -⟩ := finishes finished
  exact ⟨all, writes⟩

theorem redis_response_sample :
    ∃ trace contexts redis,
      RedisRun (unpackSamples [] (ascii "c")) (WsWriter.unpackSends [ascii "hi"])
        sampleWorker RedisChannelLayer.defaultPrefix servesBoth trace contexts
        redis ∧
      responseEvents (httpEvents false trace) =
        responseScript (sampleWorker.channel false)
          ((messagesTo (sampleWorker.channel false)
            (componentEvents trace)).filterMap
              (unpackSamples [] (ascii "c"))) := by
  obtain ⟨trace, contexts, redis, run, serves⟩ := servesBoth_run
  exact ⟨trace, contexts, redis, run,
    ((redis_response generated_sampleWorker run false serves.response
      serves.succeeds).2 serves.finished).1⟩

/-- A connection that starts its writer at most once writes the messages that
clients have pushed to its channel, in order and each as one frame, while writes
succeed and accept all that they are offered. -/
theorem redis_frames
    (generated : ∀ id, RedisChannelLayer.IsRandomAscii 10 (requests.random id))
    (run : RedisRun unpackResponse unpackSend requests mPrefix labels trace
      contexts redis)
    (id : ρ)
    (once : (wsEvents id trace).count .startWriter ≤ 1)
    (small : ∀ data msg, unpackSend data = some msg →
      msg.bytes.length < dwordSize)
    (succeeds : .writeFailed ∉ writerEvents (wsEvents id trace))
    (accepts : AcceptsAll (writerEvents (wsEvents id trace))) :
    (writtenFrames (writerEvents (wsEvents id trace))).map some <+:
      (messagesTo (sendChannel (requests.random id)) (componentEvents trace)).map
        fun data => (unpackSend data).map AsgiWsSendMsg.bytes := by
  obtain ⟨queueLabels, inner, queueRun⟩ := run_queues generated run
  obtain ⟨imageLabels, system, imageRun, -⟩ := run_ws id queueRun
  rw [← ownEvents_eq] at once succeeds accepts ⊢
  rw [← sentToChannel_eq _ id]
  have connectionRun : ConnectionRun unpackSend (requests.request id)
      (sendChannel (requests.random id)) always imageLabels _ system := imageRun
  exact connectionRun.writerProgress.frames once succeeds small accepts

theorem redis_frames_sample :
    ∃ trace contexts redis,
      RedisRun (unpackSamples [] (ascii "c")) (WsWriter.unpackSends [ascii "hi"])
        sampleWorker RedisChannelLayer.defaultPrefix servesBoth trace contexts
        redis ∧
      [some (ascii "hi")] <+:
        (messagesTo (sendChannel (sampleWorker.random true))
          (componentEvents trace)).map fun data =>
            (WsWriter.unpackSends [ascii "hi"] data).map AsgiWsSendMsg.bytes := by
  obtain ⟨trace, contexts, redis, run, serves⟩ := servesBoth_run
  have frames := redis_frames generated_sampleWorker run true serves.once.le
    (by
      intro data msg unpacked
      obtain ⟨bytes, found, rfl⟩ := Option.map_eq_some_iff.mp unpacked
      have member := List.mem_of_find?_eq_some found
      obtain rfl := List.mem_singleton.mp member
      decide)
    (by simp [serves.writer])
    (by
      rw [serves.writer]
      intro bytes numBytes member
      simp only [List.mem_cons, List.not_mem_nil, or_false, reduceCtorEq,
        WriterEvent.wrote.injEq, false_or] at member
      obtain ⟨rfl, rfl⟩ := member
      decide)
  rw [serves.writer] at frames
  exact ⟨trace, contexts, redis, run, frames⟩

end Worker

end IisAsgiHandler
