import IisAsgiHandler.HttpModule.Received

/-!
# The way of a request and back

An application that receives a message from `http.request` reads the fields of a
request, and no other call receives that request again.  If applications answer
what they receive, then the client of a request gets the answer to just that
request.
-/

namespace IisAsgiHandler

open EventMachine (Run always HostedEvent)
open EventMachine.Host (componentEvents)
open RedisChannelLayer

/-! ## Scripts of the first messages -/

section Scripts

variable {channel : Bytes}
variable {messages later : List AsgiHttpResponseMsg}

/-- The script for the first of some messages is the first part of theirs. -/
theorem responseScript_of_initial (first : messages <+: later) :
    responseScript channel messages <+: responseScript channel later := by
  induction messages generalizing later with
  | nil => exact register_initial channel later
  | cons msg messages inductionHypothesis =>
      obtain ⟨rest, rfl⟩ := first
      rw [List.cons_append, responseScript, responseScript]
      split
      · exact (List.prefix_append_right_inj _).mpr
          (inductionHypothesis (List.prefix_append messages rest))
      · exact List.prefix_rfl

/-- Nothing counts that comes after a final message. -/
theorem responseScript_of_final
    {last : AsgiHttpResponseMsg}
    (first : messages <+: later)
    (ends : (upToFinal messages).getLast? = some last)
    (final : last.moreContent = false) :
    responseScript channel messages = responseScript channel later ∧
      upToFinal messages = upToFinal later := by
  induction messages generalizing later with
  | nil => cases ends
  | cons msg messages inductionHypothesis =>
      obtain ⟨rest, rfl⟩ := first
      rw [List.cons_append, responseScript, responseScript, upToFinal, upToFinal]
      rw [upToFinal] at ends
      split at ends
      next more =>
        have endsLater : (upToFinal messages).getLast? = some last := by
          cases remaining : upToFinal messages with
          | nil =>
              rw [remaining, List.getLast?_singleton] at ends
              cases ends
              rw [more] at final
              cases final
          | cons next others =>
              rw [remaining, List.getLast?_cons_cons] at ends
              exact ends
        obtain ⟨script, upTo⟩ :=
          inductionHypothesis (List.prefix_append messages rest) endsLater
        rw [if_pos more, if_pos more, if_pos more, if_pos more, script, upTo]
        exact ⟨rfl, rfl⟩
      next single =>
        rw [if_neg single, if_neg single, if_neg single, if_neg single]
        exact ⟨rfl, rfl⟩

end Scripts

namespace Worker

variable {ρ : Type} [DecidableEq ρ]
variable {unpackResponse : Bytes → Option AsgiHttpResponseMsg}
variable {unpackSend : Bytes → Option AsgiWsSendMsg}
variable {requests : Requests ρ}
variable {mPrefix : Bytes}
variable {labels : List (HttpModuleLabel ρ ⊕ ChannelsLabel)}
variable {trace : List (WorkerEvent ρ)}
variable {contexts : ModuleContexts ρ}
variable {channels : Channels (CapturedHandler ρ)}
variable {id : ρ}

/-! ## The way to an application -/

/-- A message that names the channel of a request, received from
`http.request`, is the message of that request. -/
theorem message_of_received
    {index : Nat}
    {payload : Bytes}
    {request : ForwardedRequest}
    (generated : ∀ id, IsRandomAscii 10 (requests.random id))
    (sized : ∀ id, (requests.request id).Sized)
    (run : SendingRun unpackResponse unpackSend requests mPrefix labels trace
      contexts channels)
    (delivers : ∀ id, ∀ event ∈ httpEvents id trace, readDelivers event)
    (received : channels.redis.layer.Received index (ascii "http.request") payload)
    (reads : readRequest payload = some request)
    (named : request.replyChannel = requests.channel id) :
    payload = (message requests id).data ∧
      message requests id ∈ sentByHandlers trace := by
  obtain ⟨⟨layerTrace, delivering, attributed⟩, others, foreign, balance⟩ :=
    accounted_of_run generated run
  obtain ⟨sender, send, located, isChannel, isPayload, -⟩ :=
    delivering.sender_of_received attributed received (by decide)
  have begun : ⟨ascii "http.request", payload⟩ ∈
      channels.redis.layer.begun ++ channels.called := by
    refine List.mem_append_left _ (List.mem_filterMap.mpr ⟨_,
      List.mem_of_getElem? located, ?_⟩)
    rw [Call.message, isChannel, isPayload]
  rcases List.mem_append.mp (balance.mem_iff.mp begun) with own | other
  · obtain ⟨event, shown, sends⟩ := List.mem_filterMap.mp own
    obtain ⟨sentBy, -, -, -, same⟩ :=
      sender_of_sent generated run delivers shown sends rfl
    have data : payload = (message requests sentBy).data :=
      congrArg SentMessage.data same
    have read := readRequest_message generated sized sentBy
    rw [← data, reads] at read
    have isRequest := Option.some.inj read
    rw [isRequest] at named
    have sameId : sentBy = id := requests.channel_injective named
    subst sameId
    exact ⟨data, same ▸ own⟩
  · exact absurd named (foreign _ other rfl request reads id)

/-- The message of a request begins to be sent once at most. -/
theorem begun_once
    (generated : ∀ id, IsRandomAscii 10 (requests.random id))
    (sized : ∀ id, (requests.request id).Sized)
    (run : SendingRun unpackResponse unpackSend requests mPrefix labels trace
      contexts channels)
    (delivers : ∀ id, ∀ event ∈ httpEvents id trace, readDelivers event)
    (id : ρ) :
    channels.redis.layer.begun.count (message requests id) ≤ 1 := by
  obtain ⟨-, others, foreign, balance⟩ := accounted_of_run generated run
  have sent := count_sent_le generated sized run delivers id
  have once : (sends (httpEvents id trace)).length ≤ 1 := by
    rcases sends_of_run generated run (delivers id) with unsent | isSent
    · simp [unsent]
    · simp [isSent]
  have noOther : others.count (message requests id) = 0 := by
    apply List.count_eq_zero.mpr
    intro member
    exact foreign _ member rfl _ (readRequest_message generated sized id) id rfl
  have count := balance.count_eq (message requests id)
  rw [List.count_append, List.count_append, noOther] at count
  omega

/-- What an application receives for a request are the fields of that request,
once its body has been read; and no other call receives it. -/
theorem request_received
    {index : Nat}
    {payload : Bytes}
    {request : ForwardedRequest}
    (generated : ∀ id, IsRandomAscii 10 (requests.random id))
    (sized : ∀ id, (requests.request id).Sized)
    (run : SendingRun unpackResponse unpackSend requests mPrefix labels trace
      contexts channels)
    (delivers : ∀ id, ∀ event ∈ httpEvents id trace, readDelivers event)
    (received : channels.redis.layer.Received index (ascii "http.request") payload)
    (reads : readRequest payload = some request)
    (named : request.replyChannel = requests.channel id) :
    request = .of (requests.request id) (requests.channel id) ∧
      sends (httpEvents id trace) =
        [requestMsg (requests.request id) (requests.channel id)] ∧
      ∀ other otherPayload otherRequest,
        channels.redis.layer.Received other (ascii "http.request")
          otherPayload →
        readRequest otherPayload = some otherRequest →
        otherRequest.replyChannel = requests.channel id → other = index := by
  obtain ⟨data, sent⟩ :=
    message_of_received generated sized run delivers received reads named
  obtain ⟨⟨layerTrace, delivering, attributed⟩, -⟩ :=
    accounted_of_run generated run
  refine ⟨?_, ?_, ?_⟩
  · have read := readRequest_message generated sized id
    rw [← data, reads] at read
    exact Option.some.inj read
  · have counted := count_sent_le generated sized run delivers id
    have once := List.count_pos_iff.mpr sent
    rcases sends_of_run generated run (delivers id) with unsent | isSent
    · rw [unsent, List.length_nil] at counted
      omega
    · exact isSent
  · intro other otherPayload otherRequest again readsToo namedToo
    obtain ⟨otherData, -⟩ :=
      message_of_received generated sized run delivers again readsToo namedToo
    obtain ⟨sender, send, located, isChannel, isPayload, popped⟩ :=
      delivering.sender_of_received attributed received (by decide)
    obtain ⟨otherSender, otherSend, otherLocated, otherChannel, sentPayload,
      poppedToo⟩ := delivering.sender_of_received attributed again (by decide)
    have isMessage : Call.message (.send send) = some (message requests id) := by
      rw [Call.message, isChannel, isPayload, data]
      rfl
    have isMessageToo :
        Call.message (.send otherSend) = some (message requests id) := by
      rw [Call.message, otherChannel, sentPayload, otherData]
      rfl
    have sameSender : otherSender = sender :=
      Occurrences.index_unique (begun_once generated sized run delivers id)
        otherLocated located isMessageToo isMessage
    subst sameSender
    rw [located] at otherLocated
    cases otherLocated
    exact delivering.popper_unique poppedToo popped

/-! ## The way back -/

/-- What has been sent to a channel is the first part of the answer to a message
that some call has received and that names this channel; or nothing has. -/
def Answers
    (answer : ForwardedRequest → List Bytes)
    (channel : Bytes)
    (trace : List (WorkerEvent ρ))
    (layer : Layer) : Prop :=
  messagesTo channel (componentEvents trace) = [] ∨
    ∃ index payload request,
      layer.Received index (ascii "http.request") payload ∧
      readRequest payload = some request ∧
      request.replyChannel = channel ∧
      messagesTo channel (componentEvents trace) <+: answer request

/-- Where applications answer what they receive, the response of a request
follows the script of the answer to the fields of this request, and writes all
of it up to the final message by the time that it finishes. -/
theorem request_answered
    (answer : ForwardedRequest → List Bytes)
    (generated : ∀ id, IsRandomAscii 10 (requests.random id))
    (sized : ∀ id, (requests.request id).Sized)
    (run : SendingRun unpackResponse unpackSend requests mPrefix labels trace
      contexts channels)
    (delivers : ∀ id, ∀ event ∈ httpEvents id trace, readDelivers event)
    (id : ρ)
    (answers : Answers answer (requests.channel id) trace channels.redis.layer)
    (wellFormed : ∀ data ∈
      answer (.of (requests.request id) (requests.channel id)),
      isResponse unpackResponse data)
    (succeeds : ∀ event ∈ httpEvents id trace,
      isReadFailure event = false ∧ isResponseFailure event = false) :
    let messages := (answer (.of (requests.request id)
      (requests.channel id))).filterMap unpackResponse
    let response := responseEvents (httpEvents id trace)
    response <+: responseScript (requests.channel id) messages ∧
      ((contexts.httpHandler id).thread = .finished →
        response = responseScript (requests.channel id) messages ∧
          written response =
            (upToFinal messages).flatMap fun msg => msg.content) := by
  intro messages response
  have first : messagesTo (requests.channel id) (componentEvents trace) <+:
      answer (.of (requests.request id) (requests.channel id)) := by
    rcases answers with
      nothing | ⟨index, payload, request, received, reads, named, isFirst⟩
    · rw [nothing]
      exact List.nil_prefix
    · obtain ⟨data, -⟩ :=
        message_of_received generated sized run delivers received reads named
      have read := readRequest_message generated sized id
      rw [← data, reads] at read
      rwa [Option.some.inj read] at isFirst
  obtain ⟨redisLabels, redisRun⟩ := run_redis run
  obtain ⟨follows, finishes⟩ := response_of_run generated redisRun id
    (fun data member => wellFormed data (first.subset member)) succeeds
  have firstMessages := first.filterMap unpackResponse
  refine ⟨follows.trans (responseScript_of_initial firstMessages),
    fun finished => ?_⟩
  obtain ⟨all, writes, last, ends, final⟩ := finishes finished
  obtain ⟨script, upTo⟩ := responseScript_of_final firstMessages ends final
  exact ⟨all.trans script, writes.trans (by rw [upTo])⟩

/-! ## A request and its answer -/

/-- An application receives a request and answers it. -/
def servesRequest : List (HttpModuleLabel Bool ⊕ ChannelsLabel) :=
  let reply := sampleWorker.channel false
  let keys := prefixedChannels defaultPrefix
  [.inl (.onExecuteRequestHandler false), .inl (.http false .stateMachine),
    .inl (.http false .stateMachine), .inl (.http false (.taskSend 0)),
    .inr (.startSend 0 (ascii "0000000000")),
    .inr (.redis (.client (.startReceive [ascii "http.request"]
      (keys [ascii "http.request"])))),
    .inr (.redis (.client (.runCommand 0))),
    .inr (.redis (.client (.runCommand 0))),
    .inr (.redis (.client (.runCommand 0))),
    .inr (.redis (.client (.runCommand 1))),
    .inr (.redis (.client (.runCommand 1))),
    .inr (.redis (.client (.startSend reply (packSample (ascii "c") false)
      (ascii "1111111111")))),
    .inr (.redis (.client (.runCommand 2))),
    .inr (.redis (.client (.runCommand 0))),
    .inr (.redis (.client (.runCommand 2))),
    .inl (.http false (.taskPost 0)),
    .inr (.redis (.client (.runCommand 2))),
    .inl (.onAsyncCompletion false (.posted 0 sOk 0)),
    .inl (.http false .stateMachine), .inl (.http false .stateMachine),
    .inr (.redis .snapshot), .inr (.redis (.receiveMany (keys [reply]))),
    .inr (.redis .command), .inr (.redis .command), .inr (.redis .dispatch),
    .inl (.http false (.callbackUnpack 0)), .inl (.http false (.callbackPost 0)),
    .inl (.onAsyncCompletion false (.posted 0 sOk 0)),
    .inl (.http false .stateMachine),
    .inl (.http false (.iisReturn (.completed 0))),
    .inl (.http false .stateMachine)]

/-- Other clients receive requests, and send anything else. -/
def mindsRequests : LayerLabel → Bool
  | .startSend channel _ _ => channel != ascii "http.request"
  | .startReceive names _ => names == [ascii "http.request"]
  | _ => true

/-- Successful commands at no cost of time, of clients of this kind. -/
def clearCall {κ : Type} (channels : Channels κ) (label : LayerLabel) : Bool :=
  decide (Orderly defaultPrefix channels.redis.layer label) && label.atOnce

def clearStep
    (state : ModuleContexts Bool × Channels (CapturedHandler Bool)) :
    HttpModuleLabel Bool ⊕ ChannelsLabel → Bool
  | .inl _ => true
  | .inr (.redis .command) =>
      state.2.redis.call.all fun index => clearCall state.2 (.runCommand index)
  | .inr (.redis (.client label)) => clearCall state.2 label && mindsRequests label
  | .inr (.redis _) => true
  | .inr (.startSend index random) => state.2.called[index]?.all fun message =>
      clearCall state.2 (.startSend message.channel message.data random)

theorem undisturbed_of_clearCall
    {κ : Type}
    {channels : Channels κ}
    {label : LayerLabel}
    (clear : clearCall channels label = true) :
    RedisChannelLayer.Undisturbed defaultPrefix channels.redis.layer label := by
  rw [clearCall, Bool.and_eq_true, decide_eq_true_eq] at clear
  exact undisturbed_of_atOnce clear

theorem not_replyChannel_request :
    ¬ ReplyChannel sampleWorker (ascii "http.request") := by
  rintro ⟨captured, same⟩
  have length := congrArg List.length same
  cases captured with
  | waitForResponse id serial =>
      change _ = (sampleWorker.channel id).length at length
      cases id <;> revert length <;> decide
  | writer id =>
      cases id <;> revert length <;> decide

/-- Such steps are undisturbed. -/
theorem guarded_of_clearStep
    (state : ModuleContexts Bool × Channels (CapturedHandler Bool))
    (label : HttpModuleLabel Bool ⊕ ChannelsLabel)
    (clear : clearStep state label = true) :
    EventMachine.Host.guarded always
      (Channels.Undisturbed defaultPrefix (ReplyChannel sampleWorker)
        (Foreign sampleWorker)) state label := by
  cases label with
  | inl label => trivial
  | inr label =>
      cases label with
      | startSend index random =>
          intro message found
          rw [clearStep, found, Option.all_some] at clear
          exact ⟨undisturbed_of_clearCall clear, nofun⟩
      | redis label =>
          cases label with
          | command =>
              refine ⟨fun index calling => undisturbed_of_clearCall ?_, nofun⟩
              rwa [clearStep, calling, Option.all_some] at clear
          | client label =>
              rw [clearStep, Bool.and_eq_true] at clear
              refine ⟨⟨undisturbed_of_clearCall clear.1, ?_⟩, ?_⟩
              · rintro names keys rfl channel member
                obtain rfl : names = [ascii "http.request"] := eq_of_beq clear.2
                rw [List.mem_singleton.mp member]
                exact not_replyChannel_request
              · rintro channel data random isClient toRequests
                cases isClient
                exact absurd toRequests (bne_iff_ne.mp clear.2)
          | snapshot => exact ⟨trivial, nofun⟩
          | receiveMany keys => exact ⟨trivial, nofun⟩
          | dispatch => exact ⟨trivial, nofun⟩
          | stop => exact ⟨trivial, nofun⟩

theorem sized_sampleWorker (id : Bool) : (sampleWorker.request id).Sized where
  httpVersion := by cases id <;> decide
  httpMethod := by cases id <;> decide
  fullUrl := by cases id <;> decide
  absPath := by cases id <;> decide
  queryString := by cases id <;> decide
  knownHeaders := by
    intro header
    cases id <;> cases header <;> decide
  unknownHeaders := by cases id <;> decide
  entityBody := by cases id <;> decide

/-- What the request has come to. -/
structure ServesRequest
    (contexts : ModuleContexts Bool)
    (channels : Channels (CapturedHandler Bool))
    (trace : List (WorkerEvent Bool)) : Prop where
  received : channels.redis.layer.calls[1]? = some (.receive {
    channels := [ascii "http.request"]
    keys := prefixedChannels defaultPrefix [ascii "http.request"]
    stage := .done (ascii "http.request") (message sampleWorker false).data })
  replies : messagesTo (sampleWorker.channel false) (componentEvents trace) =
    [packSample (ascii "c") false]
  finished : (contexts.httpHandler false).thread = .finished
  delivers : ∀ id, ∀ event ∈ httpEvents id trace, readDelivers event
  succeeds : ∀ event ∈ httpEvents false trace,
    isReadFailure event = false ∧ isResponseFailure event = false

theorem servesRequest_run :
    ∃ trace contexts channels,
      SendingRun (unpackSamples [] (ascii "c")) (fun _ => none) sampleWorker
        defaultPrefix servesRequest trace contexts channels ∧
      ServesRequest contexts channels trace := by
  have checked : EventMachine.checks
      (sendingWorker (unpackSamples [] (ascii "c")) (fun _ => none) sampleWorker
        defaultPrefix)
      (fun state label => clearStep state label = true) (noContexts, {})
      servesRequest
      (fun state trace =>
        state.2.redis.layer.calls[1]? = some (.receive {
          channels := [ascii "http.request"]
          keys := prefixedChannels defaultPrefix [ascii "http.request"]
          stage := .done (ascii "http.request")
            (message sampleWorker false).data }) ∧
        messagesTo (sampleWorker.channel false) (componentEvents trace) =
          [packSample (ascii "c") false] ∧
        (state.1.httpHandler false).thread = .finished ∧
        (∀ id, ∀ event ∈ httpEvents id trace, readDelivers event) ∧
        ∀ event ∈ httpEvents false trace,
          isReadFailure event = false ∧ isResponseFailure event = false) =
        true := by
    decide +kernel
  obtain ⟨trace, ⟨contexts, channels⟩, run, received, replies, finished, delivers,
    succeeds⟩ := Run.of_checks checked
  exact ⟨trace, contexts, channels, run.mono guarded_of_clearStep,
    ⟨received, replies, finished, delivers, succeeds⟩⟩

theorem request_received_sample :
    ∃ trace contexts channels,
      SendingRun (unpackSamples [] (ascii "c")) (fun _ => none) sampleWorker
        defaultPrefix servesRequest trace contexts channels ∧
      channels.redis.layer.Received 1 (ascii "http.request")
        (message sampleWorker false).data ∧
      sends (httpEvents false trace) =
        [requestMsg (sampleWorker.request false) (sampleWorker.channel false)] := by
  obtain ⟨trace, contexts, channels, run, serves⟩ := servesRequest_run
  have received : channels.redis.layer.Received 1 (ascii "http.request")
      (message sampleWorker false).data := ⟨_, serves.received, rfl⟩
  exact ⟨trace, contexts, channels, run, received,
    (request_received generated_sampleWorker sized_sampleWorker run
      serves.delivers received
      (readRequest_message generated_sampleWorker sized_sampleWorker false)
      rfl).2.1⟩

theorem request_answered_sample :
    ∃ trace contexts channels,
      SendingRun (unpackSamples [] (ascii "c")) (fun _ => none) sampleWorker
        defaultPrefix servesRequest trace contexts channels ∧
      (contexts.httpHandler false).thread = .finished ∧
      written (responseEvents (httpEvents false trace)) =
        (upToFinal ([packSample (ascii "c") false].filterMap
          (unpackSamples [] (ascii "c")))).flatMap fun msg => msg.content := by
  obtain ⟨trace, contexts, channels, run, serves⟩ := servesRequest_run
  have answers : Answers (fun _ => [packSample (ascii "c") false])
      (sampleWorker.channel false) trace channels.redis.layer :=
    .inr ⟨1, _, _, ⟨_, serves.received, rfl⟩,
      readRequest_message generated_sampleWorker sized_sampleWorker false, rfl,
      by simp [serves.replies]⟩
  exact ⟨trace, contexts, channels, run, serves.finished,
    ((request_answered _ generated_sampleWorker sized_sampleWorker run
      serves.delivers false answers (by decide +kernel) serves.succeeds).2
      serves.finished).2⟩

end Worker

end IisAsgiHandler
