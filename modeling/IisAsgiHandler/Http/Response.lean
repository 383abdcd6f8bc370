import IisAsgiHandler.Http.Protocol
import IisAsgiHandler.Http.RequestBody

/-!
# The response of a request

What a request does to its response is a script: for each message it registers
its channel, applies the status and the headers, writes the content if there
is any, and flushes if there is more to come; after a final message it
finishes.  The messages sent to the channel of a request determine its script,
and however the requests, the pump and IIS interleave, what the request has
done so far is an initial part of its script.
-/

namespace IisAsgiHandler

/-! ## Scripts -/

/-- What a request does to its response. -/
inductive ResponseEvent
  | register (channel : Bytes)
  | setStatus (status : Nat)
  | setHeader (name value : Bytes) (length : Nat) (replace : Bool)
  | write (chunk : Bytes)
  | flush
  | finish
  deriving DecidableEq

/-- The part of an event that concerns the response. -/
def responseEvent : HttpEvent → Option ResponseEvent
  | .addChannel channel _ => some (.register channel)
  | .setStatus status => some (.setStatus status)
  | .setHeader name value length replace =>
      some (.setHeader name value length replace)
  | .call (.writeEntityChunks chunk) => some (.write chunk)
  | .call .flush => some .flush
  | .returned .finishRequest => some .finish
  | _ => none

/-- What a request has done to its response. -/
def responseEvents (events : List HttpEvent) : List ResponseEvent :=
  events.filterMap responseEvent

/-- The bytes that an event hands to `WriteEntityChunks`. -/
@[simp] def ResponseEvent.chunk : ResponseEvent → Bytes
  | .write chunk => chunk
  | _ => []

/-- The bytes handed to `WriteEntityChunks`. -/
def written (events : List ResponseEvent) : Bytes :=
  events.flatMap ResponseEvent.chunk

namespace ResponseScript

/-- Wait for a message and apply its status and headers. -/
def begin (channel : Bytes) (msg : AsgiHttpResponseMsg) : List ResponseEvent :=
  .register channel ::
    ((if 0 < msg.status then
        [.setStatus (msg.status % ushortSize).toNat]
      else []) ++
      msg.headers.map fun header =>
        .setHeader (cStr header.1) header.2 (header.2.length % ushortSize) true)

/-- Write the content of a message, if it has any. -/
def content (msg : AsgiHttpResponseMsg) : List ResponseEvent :=
  if msg.content = [] then [] else [.write msg.content]

/-- The script of a message that has more content to follow. -/
def round (channel : Bytes) (msg : AsgiHttpResponseMsg) : List ResponseEvent :=
  begin channel msg ++ content msg ++ [.flush]

end ResponseScript

open ResponseScript

/-- The script of a request for the messages that are sent to it.  What
follows a final message is ignored. -/
def responseScript (channel : Bytes) : List AsgiHttpResponseMsg → List ResponseEvent
  | [] => [.register channel]
  | msg :: rest =>
      if msg.moreContent then round channel msg ++ responseScript channel rest
      else begin channel msg ++ content msg ++ [.finish]

/-- The messages up to the first final one. -/
def upToFinal : List AsgiHttpResponseMsg → List AsgiHttpResponseMsg
  | [] => []
  | msg :: rest => if msg.moreContent then msg :: upToFinal rest else [msg]

section Scripts

variable {channel : Bytes}
variable {streamed : List AsgiHttpResponseMsg}

/-- The rounds of streamed messages come first in a script. -/
theorem responseScript_append
    (rest : List AsgiHttpResponseMsg)
    (streams : ∀ msg ∈ streamed, msg.moreContent = true) :
    responseScript channel (streamed ++ rest) =
      streamed.flatMap (round channel) ++ responseScript channel rest := by
  induction streamed with
  | nil => rfl
  | cons msg streamed inductionHypothesis =>
      obtain ⟨more, streams⟩ := List.forall_mem_cons.mp streams
      rw [List.cons_append, responseScript, if_pos more,
        inductionHypothesis streams, List.flatMap_cons, List.append_assoc]

/-- Streamed messages come before the first final one. -/
theorem upToFinal_append
    (rest : List AsgiHttpResponseMsg)
    (streams : ∀ msg ∈ streamed, msg.moreContent = true) :
    upToFinal (streamed ++ rest) = streamed ++ upToFinal rest := by
  induction streamed with
  | nil => rfl
  | cons msg streamed inductionHypothesis =>
      obtain ⟨more, streams⟩ := List.forall_mem_cons.mp streams
      rw [List.cons_append, upToFinal, if_pos more,
        inductionHypothesis streams, List.cons_append]

@[simp] theorem written_append (events later : List ResponseEvent) :
    written (events ++ later) = written events ++ written later := by
  simp [written]

@[simp] theorem written_begin (msg : AsgiHttpResponseMsg) :
    written (begin channel msg) = [] := by
  unfold begin written
  split <;> simp [List.flatMap_map]

@[simp] theorem written_content (msg : AsgiHttpResponseMsg) :
    written (content msg) = msg.content := by
  unfold content
  split <;> simp_all [written]

theorem written_rounds (streamed : List AsgiHttpResponseMsg) :
    written (streamed.flatMap (round channel)) =
      streamed.flatMap fun msg => msg.content := by
  induction streamed with
  | nil => rfl
  | cons msg streamed inductionHypothesis =>
      rw [List.flatMap_cons, written_append, inductionHypothesis,
        List.flatMap_cons, ResponseScript.round, written_append, written_append,
        written_begin, written_content]
      simp [written]

end Scripts

/-! ## Scripts in the life of a request -/

variable {unpack : Bytes → Option AsgiHttpResponseMsg}
variable {request : HttpRequest}
variable {channel : Bytes}
variable {life next : Life}
variable {past : LifeHistory}
variable {label : LifeLabel}
variable {events : List HttpEvent}
variable {streamed : List AsgiHttpResponseMsg}

@[simp] theorem responseEvents_append (events later : List HttpEvent) :
    responseEvents (events ++ later) =
      responseEvents events ++ responseEvents later :=
  List.filterMap_append

theorem begin_eq (channel : Bytes) (msg : AsgiHttpResponseMsg) :
    begin channel msg = .register channel :: responseEvents (applyResponse msg) := by
  unfold begin applyResponse
  split <;> simp [responseEvents, responseEvent, List.filterMap_map,
    Function.comp_def]

/-- What a request has shown of the current round. -/
def Life.shown (channel : Bytes) (life : Life) : List ResponseEvent :=
  match life.phase with
  | .pending (.registered _) _ | .pending (.callback _) _
  | .pending (.unpacked _ _) _ | .pending (.responsePosted _) _ =>
      [.register channel]
  | .responseDone msg => begin channel msg
  | .writing msg | .writeDone msg | .pending (.write msg) _ =>
      begin channel msg ++ content msg
  | _ => []

/-- The message of the current round. -/
def Life.inHand
    (unpack : Bytes → Option AsgiHttpResponseMsg)
    (life : Life) : List AsgiHttpResponseMsg :=
  match life.phase with
  | .pending (.registered (some data)) _ | .pending (.callback data) _ =>
      (unpack data).toList
  | .pending (.unpacked _ msg) _ | .pending (.responsePosted msg) _
  | .responseDone msg | .writing msg | .writeDone msg
  | .pending (.write msg) _ => [msg]
  | _ => []

/-- A request that has streamed some messages and is in its next round. -/
structure Streaming
    (unpack : Bytes → Option AsgiHttpResponseMsg)
    (channel : Bytes)
    (past : LifeHistory)
    (life : Life)
    (streamed : List AsgiHttpResponseMsg) : Prop where
  streams : ∀ msg ∈ streamed, msg.moreContent = true
  shown : responseEvents past.events =
    streamed.flatMap (round channel) ++ life.shown channel
  received : past.messages.filterMap unpack =
    streamed ++ (life.inHand unpack ++ life.queue.filterMap unpack)

/-- A request that is about to finish, or has shown that it has finished. -/
inductive Ended
    (unpack : Bytes → Option AsgiHttpResponseMsg)
    (channel : Bytes)
    (past : LifeHistory)
    (finish : List ResponseEvent) : Prop
  | unread :
      readFailed past.events = true →
      responseEvents past.events = finish →
      Ended unpack channel past finish
  | final (streamed : List AsgiHttpResponseMsg) (msg : AsgiHttpResponseMsg)
      (rest : List AsgiHttpResponseMsg) :
      (∀ msg ∈ streamed, msg.moreContent = true) →
      msg.moreContent = false →
      responseEvents past.events =
        streamed.flatMap (round channel) ++
          (begin channel msg ++ content msg ++ finish) →
      past.messages.filterMap unpack = streamed ++ msg :: rest →
      Ended unpack channel past finish

/-- What a request has done to its response, by its phase. -/
def Responding
    (unpack : Bytes → Option AsgiHttpResponseMsg)
    (channel : Bytes)
    (past : LifeHistory)
    (life : Life) : Prop :=
  match life.phase with
  | .ending _ => Ended unpack channel past []
  | .finished _ | .deleted _ => Ended unpack channel past [.finish]
  | _ => ∃ streamed, Streaming unpack channel past life streamed

/-- A step within a round. -/
theorem Streaming.move
    (streaming : Streaming unpack channel past life streamed)
    (shown : life.shown channel ++ responseEvents events = next.shown channel)
    (received : life.inHand unpack ++ life.queue.filterMap unpack ++
      label.messages.filterMap unpack =
        next.inHand unpack ++ next.queue.filterMap unpack) :
    Streaming unpack channel (past.after label events) next streamed where
  streams := streaming.streams
  shown := by
    rw [LifeHistory.after_events, responseEvents_append, streaming.shown,
      List.append_assoc, shown]
  received := by
    rw [LifeHistory.after_messages, List.filterMap_append, streaming.received,
      List.append_assoc, received]

/-- The step that ends a round. -/
theorem Streaming.endRound
    {msg : AsgiHttpResponseMsg}
    (streaming : Streaming unpack channel past life streamed)
    (more : msg.moreContent = true)
    (inHand : life.inHand unpack = [msg])
    (shown : life.shown channel ++ responseEvents events = round channel msg)
    (fresh : next.shown channel = [])
    (nothing : next.inHand unpack = [])
    (queue : next.queue = life.queue)
    (messages : label.messages = []) :
    Streaming unpack channel (past.after label events) next
      (streamed ++ [msg]) where
  streams := by
    intro other member
    rcases List.mem_append.mp member with earlier | last
    · exact streaming.streams other earlier
    · rw [List.mem_singleton.mp last]
      exact more
  shown := by
    rw [LifeHistory.after_events, responseEvents_append, streaming.shown,
      List.append_assoc, shown, fresh]
    simp
  received := by
    rw [LifeHistory.after_messages, messages, List.append_nil,
      streaming.received, inHand, nothing, queue]
    simp

/-- The step that ends the response. -/
theorem Streaming.finish
    {msg : AsgiHttpResponseMsg}
    (streaming : Streaming unpack channel past life streamed)
    (last : msg.moreContent = false)
    (inHand : life.inHand unpack = [msg])
    (shown : life.shown channel ++ responseEvents events =
      begin channel msg ++ content msg)
    (messages : label.messages = []) :
    Ended unpack channel (past.after label events) [] := by
  refine .final streamed msg (life.queue.filterMap unpack) streaming.streams last
    ?_ ?_
  · rw [LifeHistory.after_events, responseEvents_append, streaming.shown,
      List.append_assoc, shown, List.append_nil]
  · rw [LifeHistory.after_messages, messages, List.append_nil,
      streaming.received, inHand]
    rfl

/-- The failure of a call that writes or flushes the response. -/
def isResponseFailure : HttpEvent → Bool
  | .completed (.writeEntityChunks _) true _ | .completed .flush true _ => true
  | _ => false

/-- A message that unpacks to a response.  The format does not hold strings of
`2 ^ 32` bytes. -/
def isResponse
    (unpack : Bytes → Option AsgiHttpResponseMsg)
    (data : Bytes) : Bool :=
  match unpack data with
  | some msg => decide (msg.content.length < dwordSize)
  | none => false

theorem exists_of_isResponse
    {data : Bytes}
    (response : isResponse unpack data = true) :
    ∃ msg, unpack data = some msg ∧ msg.content.length < dwordSize := by
  unfold isResponse at response
  split at response
  · rename_i msg unpacks
    exact ⟨msg, unpacks, of_decide_eq_true response⟩
  · contradiction

/-- A request does nothing to its response before it has sent its message. -/
theorem LifeStep.untouched
    (untouched : life.sending = .reading → responseEvents past.events = [])
    (steps : LifeStep unpack request channel life label events next)
    (reading : next.sending = .reading) :
    responseEvents (past.after label events).events = [] := by
  unfold Life.sending at untouched reading
  cases steps with
  | leavePending await atPhase =>
      cases await <;> simp_all [responseEvents, responseEvent]
  | _ => simp_all [responseEvents, responseEvent, readCall]

/-- A response that has ended stays so. -/
theorem Ended.later
    {finish : List ResponseEvent}
    (label : LifeLabel)
    (events : List HttpEvent)
    (ended : Ended unpack channel past finish) :
    Ended unpack channel (past.after label events)
      (finish ++ responseEvents events) := by
  cases ended with
  | unread failure shown =>
      refine .unread ?_ ?_
      · rw [LifeHistory.after_events, readFailed_append, failure, Bool.true_or]
      · rw [LifeHistory.after_events, responseEvents_append, shown]
  | final streamed msg rest streams last shown received =>
      refine .final streamed msg (rest ++ label.messages.filterMap unpack)
        streams last ?_ ?_
      · rw [LifeHistory.after_events, responseEvents_append, shown]
        simp only [List.append_assoc]
      · rw [LifeHistory.after_messages, List.filterMap_append, received,
          List.append_assoc]
        rfl

/-- A step that leaves the phase alone and shows nothing of the response. -/
theorem Responding.samePhase
    (responding : Responding unpack channel past life)
    (phase : next.phase = life.phase)
    (silent : responseEvents events = [])
    (queue : next.queue = life.queue ++ label.messages) :
    Responding unpack channel (past.after label events) next := by
  have shown : next.shown channel = life.shown channel := by
    unfold Life.shown
    rw [phase]
  have inHand : next.inHand unpack = life.inHand unpack := by
    unfold Life.inHand
    rw [phase]
  unfold Responding at responding ⊢
  rw [phase]
  cases atPhase : life.phase with
  | ending | finished | deleted =>
      rw [atPhase] at responding
      have later := responding.later label events
      rw [silent, List.append_nil] at later
      exact later
  | _ =>
      rw [atPhase] at responding
      obtain ⟨streamed, streaming⟩ := responding
      refine ⟨streamed, streaming.move ?_ ?_⟩
      · rw [silent, shown, List.append_nil]
      · rw [queue, inHand, List.filterMap_append, List.append_assoc]

/-- Every step follows the script. -/
theorem LifeStep.responding
    (wellFormed : life.WellFormed unpack)
    (small : ∀ msg ∈ past.messages.filterMap unpack,
      msg.content.length < dwordSize)
    (untouched : life.sending = .reading → responseEvents past.events = [])
    (succeeds : ∀ event ∈ events, isResponseFailure event = false)
    (responding : Responding unpack channel past life)
    (steps : LifeStep unpack request channel life label events next) :
    Responding unpack channel (past.after label events) next := by
  have inAnyPhase := responding
  unfold Responding at responding ⊢
  cases steps with
  | executeEmpty atPhase | executeRead body atPhase | readPending body atPhase
  | readMore body bytes atPhase | readLast body bytes atPhase
  | completeReadMore body index hr bytes atPhase
  | completeReadLast body index hr bytes atPhase | rerunRead body atPhase
  | enterSend body atPhase | taskSend body returned index atPhase
  | taskPost body returned index atPhase
  | completeSend body index hr bytes atPhase
  | dispatch returned data atPhase | callbackPost returned data msg index atPhase
  | writePending msg atPhase | writeMore msg bytes atPhase more
  | completeWriteMore msg index hr bytes atPhase more
  | flushPending atPhase | flushMore bytes atPhase
  | completeFlush index hr bytes atPhase =>
      -- The step goes on within its round.
      rw [atPhase] at responding
      obtain ⟨streamed, streaming⟩ := responding
      refine ⟨streamed, streaming.move ?_ ?_⟩
      · simp [Life.shown, atPhase, responseEvents, responseEvent, readCall]
      · simp [Life.inHand, atPhase]
  | readFail body step atPhase
  | completeReadFail body step index hr bytes atPhase =>
      refine .unread ?_ ?_
      · simp [readFailed, isReadFailure, readCall]
      · have nothing := untouched (by rw [Life.sending, atPhase])
        simp [nothing, responseEvents_append]
        rfl
  | enterWait before =>
      have inPhase : (∃ streamed,
          Streaming unpack channel past life streamed) ∧
          life.shown channel = [] ∧ life.inHand unpack = [] := by
        rcases before with ⟨body, atPhase⟩ | atPhase
        · rw [atPhase] at responding
          exact ⟨responding, by simp [Life.shown, atPhase],
            by simp [Life.inHand, atPhase]⟩
        · rw [atPhase] at responding
          exact ⟨responding, by simp [Life.shown, atPhase],
            by simp [Life.inHand, atPhase]⟩
      obtain ⟨⟨streamed, streaming⟩, shown, inHand⟩ := inPhase
      refine ⟨streamed, streaming.move ?_ ?_⟩
      · rw [shown]
        rfl
      · rw [inHand]
        simp [Life.inHand]
  | pop returned data rest atPhase front =>
      rw [atPhase] at responding
      obtain ⟨streamed, streaming⟩ := responding
      refine ⟨streamed, streaming.move ?_ ?_⟩
      · simp [Life.shown, atPhase, responseEvents]
      · cases unpacks : unpack data with
        | none => simp [Life.inHand, atPhase, front, unpacks]
        | some msg => simp [Life.inHand, atPhase, front, unpacks]
  | callbackUnpack returned data msg index atPhase unpacks =>
      rw [atPhase] at responding
      obtain ⟨streamed, streaming⟩ := responding
      refine ⟨streamed, streaming.move ?_ ?_⟩
      · simp [Life.shown, atPhase, responseEvents]
      · simp [Life.inHand, atPhase, unpacks]
  | callbackThrow returned data index atPhase throws =>
      have unpacks : (unpack data).isSome := by
        have inPhase := wellFormed.2
        rw [atPhase] at inPhase
        exact inPhase
      simp [throws] at unpacks
  | completeLastResponse msg step index hr bytes atPhase empty last =>
      rw [atPhase] at responding
      obtain ⟨streamed, streaming⟩ := responding
      refine streaming.finish last ?_ ?_ rfl
      · simp [Life.inHand, atPhase]
      · simp [Life.shown, atPhase, begin_eq, content, empty]
  | completeResponse msg index hr bytes atPhase goesOn =>
      rw [atPhase] at responding
      obtain ⟨streamed, streaming⟩ := responding
      refine ⟨streamed, streaming.move ?_ ?_⟩
      · simp [Life.shown, atPhase, begin_eq]
      · simp [Life.inHand, atPhase]
  | enterWrite msg atPhase nonempty =>
      rw [atPhase] at responding
      obtain ⟨streamed, streaming⟩ := responding
      have sent : msg ∈ past.messages.filterMap unpack := by
        rw [streaming.received]
        simp [Life.inHand, atPhase]
      refine ⟨streamed, streaming.move ?_ ?_⟩
      · simp [Life.shown, atPhase, responseEvents, responseEvent, content,
          nonempty, writeCall, Nat.mod_eq_of_lt (small msg sent)]
      · simp [Life.inHand, atPhase]
  | enterFlush msg before more =>
      have inPhase : (∃ streamed,
          Streaming unpack channel past life streamed) ∧
          life.shown channel = begin channel msg ++ content msg ∧
          life.inHand unpack = [msg] := by
        rcases before with ⟨atPhase, empty⟩ | atPhase
        · rw [atPhase] at responding
          exact ⟨responding, by simp [Life.shown, atPhase, content, empty],
            by simp [Life.inHand, atPhase]⟩
        · rw [atPhase] at responding
          exact ⟨responding, by simp [Life.shown, atPhase],
            by simp [Life.inHand, atPhase]⟩
      obtain ⟨⟨streamed, streaming⟩, shown, inHand⟩ := inPhase
      refine ⟨streamed ++ [msg], streaming.endRound more inHand ?_ rfl rfl rfl rfl⟩
      rw [shown]
      rfl
  | writeFail msg step atPhase | flushFail step atPhase =>
      have success := succeeds _ List.mem_cons_self
      contradiction
  | writeLast msg step bytes atPhase last
  | completeWriteLast msg step index hr bytes atPhase last =>
      rw [atPhase] at responding
      obtain ⟨streamed, streaming⟩ := responding
      refine streaming.finish last ?_ ?_ rfl
      · simp [Life.inHand, atPhase]
      · simp [Life.shown, atPhase, responseEvents, responseEvent]
  | leavePending await atPhase =>
      rw [atPhase] at responding
      obtain ⟨streamed, streaming⟩ := responding
      refine ⟨streamed, streaming.move ?_ ?_⟩
      · cases await <;>
          simp [Life.shown, atPhase, responseEvents, responseEvent]
      · cases await with
        | registered held => cases held <;> simp [Life.inHand, atPhase]
        | _ => simp [Life.inHand, atPhase]
  | leaveFinished step atPhase =>
      rw [atPhase] at responding
      exact responding.later (.handler .stateMachine) [.returned .finishRequest]
  | cleanup step atPhase =>
      rw [atPhase] at responding
      exact responding.later (.handler .cleanupStoredContext) []
  | callbackReturn index inside =>
      exact inAnyPhase.samePhase rfl rfl (List.append_nil _).symm
  | message data => exact inAnyPhase.samePhase rfl rfl rfl

/-! ## What a script says -/

theorem register_initial
    (channel : Bytes)
    (messages : List AsgiHttpResponseMsg) :
    [.register channel] <+: responseScript channel messages := by
  cases messages with
  | nil => exact List.prefix_rfl
  | cons msg rest =>
      rw [responseScript]
      split
      · exact ⟨_, rfl⟩
      · exact ⟨_, rfl⟩

theorem begin_content_initial
    (channel : Bytes)
    (msg : AsgiHttpResponseMsg)
    (rest : List AsgiHttpResponseMsg) :
    begin channel msg ++ content msg <+: responseScript channel (msg :: rest) := by
  rw [responseScript]
  split
  · rw [ResponseScript.round, List.append_assoc _ [_]]
    exact List.prefix_append _ _
  · exact List.prefix_append _ _

theorem singleton_prefix_upToFinal
    (msg : AsgiHttpResponseMsg)
    (rest : List AsgiHttpResponseMsg) :
    [msg] <+: upToFinal (msg :: rest) := by
  rw [upToFinal]
  split
  · exact ⟨_, rfl⟩
  · exact List.prefix_rfl

/-- What is shown of a round is an initial part of the script of its message,
and writes the content of that message or nothing. -/
theorem Life.shown_prefix
    (unpack : Bytes → Option AsgiHttpResponseMsg)
    (channel : Bytes)
    (life : Life)
    (rest : List AsgiHttpResponseMsg) :
    life.shown channel <+: responseScript channel (life.inHand unpack ++ rest) ∧
      ∃ part, part <+: upToFinal (life.inHand unpack ++ rest) ∧
        written (life.shown channel) = part.flatMap fun msg => msg.content := by
  unfold Life.shown Life.inHand
  cases life.phase with
  | pending await returned =>
      cases await with
      | registered | callback | unpacked | responsePosted =>
          exact ⟨register_initial _ _, [], List.nil_prefix, rfl⟩
      | write msg =>
          refine ⟨begin_content_initial channel msg rest, [msg],
            singleton_prefix_upToFinal msg rest, ?_⟩
          simp
      | _ => exact ⟨List.nil_prefix, [], List.nil_prefix, rfl⟩
  | responseDone msg =>
      refine ⟨?_, [], List.nil_prefix, written_begin msg⟩
      exact (List.prefix_append _ _).trans
        (begin_content_initial channel msg rest)
  | writing msg | writeDone msg =>
      refine ⟨begin_content_initial channel msg rest, [msg],
        singleton_prefix_upToFinal msg rest, ?_⟩
      simp
  | _ => exact ⟨List.nil_prefix, [], List.nil_prefix, rfl⟩

/-! ## The response -/

/-- What is known of a request that responds. -/
structure Answering
    (unpack : Bytes → Option AsgiHttpResponseMsg)
    (channel : Bytes)
    (past : LifeHistory)
    (life : Life) : Prop where
  wellFormed : life.WellFormed unpack
  small : ∀ msg ∈ past.messages.filterMap unpack,
    msg.content.length < dwordSize
  untouched : life.sending = .reading → responseEvents past.events = []
  responding : Responding unpack channel past life

namespace Answering

theorem initial
    (unpack : Bytes → Option AsgiHttpResponseMsg)
    (channel : Bytes) :
    Answering unpack channel {} {} where
  wellFormed := ⟨by simp, trivial⟩
  small := by simp
  untouched _ := rfl
  responding := ⟨[], by simp, rfl, rfl⟩

theorem step
    (answering : Answering unpack channel past life)
    (succeeds : ∀ event ∈ events, isResponseFailure event = false)
    (messages : ∀ data ∈ label.messages, isResponse unpack data)
    (steps : LifeStep unpack request channel life label events next) :
    Answering unpack channel (past.after label events) next where
  wellFormed := by
    apply steps.wellFormed answering.wellFormed
    intro data member
    obtain ⟨msg, unpacks, _⟩ := exists_of_isResponse (messages data member)
    simp [unpacks]
  small := by
    rw [LifeHistory.after_messages, List.filterMap_append]
    intro msg member
    rcases List.mem_append.mp member with earlier | last
    · exact answering.small msg earlier
    · obtain ⟨data, sent, unpacks⟩ := List.mem_filterMap.mp last
      obtain ⟨other, same, small⟩ := exists_of_isResponse (messages data sent)
      rw [unpacks, Option.some.injEq] at same
      exact same ▸ small
  untouched := steps.untouched answering.untouched
  responding := steps.responding answering.wellFormed answering.small
    answering.untouched succeeds answering.responding

end Answering

/-- A request that is in a round has written the contents of a prefix. -/
theorem Streaming.fidelity
    (streaming : Streaming unpack channel past life streamed) :
    responseEvents past.events <+:
        responseScript channel (past.messages.filterMap unpack) ∧
      ∃ consumed, consumed <+: upToFinal (past.messages.filterMap unpack) ∧
        written (responseEvents past.events) =
          consumed.flatMap fun msg => msg.content := by
  obtain ⟨shown, part, consumed, writes⟩ :=
    life.shown_prefix unpack channel (life.queue.filterMap unpack)
  rw [streaming.shown, streaming.received,
    responseScript_append _ streaming.streams,
    upToFinal_append _ streaming.streams]
  refine ⟨List.prefix_append_right_inj _ |>.mpr shown, streamed ++ part,
    List.prefix_append_right_inj _ |>.mpr consumed, ?_⟩
  rw [written_append, written_rounds, writes, List.flatMap_append]

theorem written_finish
    {finish : List ResponseEvent}
    (isFinish : finish <+: [.finish]) :
    written finish = [] := by
  rcases List.prefix_cons_iff.mp isFinish with rfl | ⟨rest, rfl, nothing⟩
  · rfl
  · rw [List.prefix_nil.mp nothing]
    rfl

/-- A request that ends has failed to read its body, or it has followed its
script, except perhaps for the last event, up to a final message. -/
theorem Ended.fidelity
    {finish : List ResponseEvent}
    (ended : Ended unpack channel past finish)
    (isFinish : finish <+: [.finish]) :
    (readFailed past.events = true ∧ responseEvents past.events = finish) ∨
      ((∃ start, responseEvents past.events = start ++ finish ∧
          responseScript channel (past.messages.filterMap unpack) =
            start ++ [.finish]) ∧
        (written (responseEvents past.events) =
          (upToFinal (past.messages.filterMap unpack)).flatMap
            fun msg => msg.content) ∧
        ∃ last, (upToFinal (past.messages.filterMap unpack)).getLast? =
            some last ∧
          last.moreContent = false) := by
  cases ended with
  | unread failure shown => exact .inl ⟨failure, shown⟩
  | final streamed msg rest streams last shown received =>
      have ends : ¬ msg.moreContent = true := by simp [last]
      have upTo : upToFinal (past.messages.filterMap unpack) =
          streamed ++ [msg] := by
        rw [received, upToFinal_append _ streams, upToFinal, if_neg ends]
      refine .inr ⟨⟨streamed.flatMap (round channel) ++
        (begin channel msg ++ content msg), ?_, ?_⟩, ?_, msg, ?_, last⟩
      · rw [shown]
        simp only [List.append_assoc]
      · rw [received, responseScript_append _ streams, responseScript,
          if_neg ends]
        simp only [List.append_assoc]
      · rw [upTo, shown, written_append, written_rounds, List.flatMap_append]
        simp [written_finish isFinish]
      · rw [upTo]
        simp

/-- A request that ends has written the contents of a prefix. -/
theorem Ended.consumed
    {finish : List ResponseEvent}
    (ended : Ended unpack channel past finish)
    (isFinish : finish <+: [.finish]) :
    ∃ consumed, consumed <+: upToFinal (past.messages.filterMap unpack) ∧
      written (responseEvents past.events) =
        consumed.flatMap fun msg => msg.content := by
  rcases ended.fidelity isFinish with ⟨_, shown⟩ | ⟨_, writes, _⟩
  · refine ⟨[], List.nil_prefix, ?_⟩
    rw [shown, written_finish isFinish]
    rfl
  · exact ⟨_, List.prefix_rfl, writes⟩

/-- A request is in a round, or it has come to its end. -/
theorem Responding.cases
    (responding : Responding unpack channel past life) :
    (∃ streamed, Streaming unpack channel past life streamed) ∨
      ∃ finish, finish <+: [.finish] ∧ Ended unpack channel past finish := by
  unfold Responding at responding
  split at responding
  · exact .inr ⟨[], List.nil_prefix, responding⟩
  · exact .inr ⟨[.finish], List.prefix_rfl, responding⟩
  · exact .inr ⟨[.finish], List.prefix_rfl, responding⟩
  · exact .inl responding

namespace HttpSystem

variable {ρ : Type} [DecidableEq ρ]

/-- The response of a request follows the script of the messages sent to its
own channel, up to the first final one.  The bytes written are the contents of
a prefix of these messages, and of all of them when the request has
finished. -/
theorem response_fidelity
    {unpack : Bytes → Option AsgiHttpResponseMsg}
    {requests : Requests ρ}
    {labels : List (HttpSystemLabel ρ)}
    {trace : List (HttpSystemEvent ρ)}
    {system : HttpSystem ρ}
    (run : EventMachine.Run (step unpack requests) EventMachine.always {} labels
      trace system)
    (id : ρ)
    (wellFormed : ∀ data ∈ sentTo (requests.channel id) trace,
      isResponse unpack data)
    (succeeds : ∀ event ∈ requestEvents id trace,
      isResponseFailure event = false) :
    let messages := (sentTo (requests.channel id) trace).filterMap unpack
    let response := responseEvents (requestEvents id trace)
    (∃ consumed, consumed <+: upToFinal messages ∧
        written response = consumed.flatMap fun msg => msg.content) ∧
      (readFailed (requestEvents id trace) = false →
        response <+: responseScript (requests.channel id) messages) ∧
      (readFailed (requestEvents id trace) = false →
        (system.handlers id).thread = .finished →
        response = responseScript (requests.channel id) messages ∧
          (written response =
            (upToFinal messages).flatMap fun msg => msg.content) ∧
          ∃ last, (upToFinal messages).getLast? = some last ∧
            last.moreContent = false) := by
  intro messages response
  obtain ⟨life, ⟨_, seen⟩, answering⟩ :=
    life_induction id (fun event => isResponseFailure event = false)
      (fun data => isResponse unpack data)
      (Answering unpack (requests.channel id)) (Answering.initial _ _)
      (fun _ _ _ _ _ answering succeeds messages steps =>
        answering.step succeeds messages steps)
      succeeds wellFormed run
  refine ⟨?_, ?_, ?_⟩
  · rcases answering.responding.cases with
      ⟨streamed, streaming⟩ | ⟨finish, isFinish, ended⟩
    · exact streaming.fidelity.2
    · exact ended.consumed isFinish
  · intro read
    rcases answering.responding.cases with
      ⟨streamed, streaming⟩ | ⟨finish, isFinish, ended⟩
    · exact streaming.fidelity.1
    · rcases ended.fidelity isFinish with
        ⟨failure, _⟩ | ⟨⟨start, shown, script⟩, _⟩
      · exact absurd (read.symm.trans failure) Bool.false_ne_true
      have follows : start ++ finish <+: start ++ [.finish] :=
        (List.prefix_append_right_inj start).mpr isFinish
      rw [← shown, ← script] at follows
      exact follows
  · intro read finished
    rw [seen.handler] at finished
    obtain ⟨step, atPhase⟩ := Life.thread_finished finished
    have responding := answering.responding
    rw [Responding, atPhase] at responding
    rcases responding.fidelity List.prefix_rfl with
      ⟨failure, _⟩ | ⟨⟨start, shown, script⟩, whole⟩
    · exact absurd (read.symm.trans failure) Bool.false_ne_true
    · exact ⟨shown.trans script.symm, whole⟩

/-- Two requests are served at once; one of them streams its response. -/
theorem response_fidelity_streamed :
    ∃ labels trace system,
      EventMachine.Run
        (step (unpackSamples (ascii "ab") (ascii "c")) (sampleRequests []))
        EventMachine.always {} labels trace system ∧
      (system.handlers true).thread = .finished ∧
      written (responseEvents (requestEvents true trace)) =
        (upToFinal ((sentTo ((sampleRequests []).channel true) trace).filterMap
          (unpackSamples (ascii "ab") (ascii "c")))).flatMap
            fun msg => msg.content := by
  have executes : EventMachine.checks
      (step (unpackSamples (ascii "ab") (ascii "c")) (sampleRequests []))
      EventMachine.always {}
      (requestLabels true ++ requestLabels false ++
        responseLabels (sampleRequests []) true (packSample (ascii "ab") true) ++
        [.handler true (.callbackReturn 0),
          .handler true (.completePosted 0 sOk 0), .handler true .stateMachine,
          .handler true (.iisReturn (.completed 0)),
          .handler true .stateMachine, .handler true (.iisReturn .pending),
          .handler true .stateMachine, .handler true (.complete 0 sOk 0),
          .handler true .stateMachine, .handler true .stateMachine] ++
        responseLabels (sampleRequests []) false
          (packSample (ascii "c") false) ++
        responseLabels (sampleRequests []) true
          (packSample (ascii "c") false) ++
        [.handler true (.completePosted 0 sOk 0), .handler true .stateMachine,
          .handler true (.iisReturn (.completed 0)),
          .handler true .stateMachine])
      (fun system trace => (system.handlers true).thread = .finished ∧
        readFailed (requestEvents true trace) = false ∧
        (∀ data ∈ sentTo ((sampleRequests []).channel true) trace,
          isResponse (unpackSamples (ascii "ab") (ascii "c")) data) ∧
        ∀ event ∈ requestEvents true trace,
          isResponseFailure event = false) = true := by
    decide +kernel
  obtain ⟨trace, system, run, finished, read, wellFormed, succeeds⟩ :=
    EventMachine.Run.of_checks executes
  exact ⟨_, trace, system, run, finished,
    ((response_fidelity run true wellFormed succeeds).2.2 read finished).2.1⟩

end HttpSystem

end IisAsgiHandler
