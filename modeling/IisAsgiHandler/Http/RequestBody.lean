import IisAsgiHandler.Http.Interleaving

/-!
# Assembling the request body

The body vector is sized once, before the first read.  Every read offers the
part of it that is still missing, so the bytes delivered so far are a prefix of
the entity body however the reads are split and completed, and the message is
sent when the prefix is the whole body.

While the message has not been sent and no read has failed, the steps that a
request has taken are bounded in terms of the bytes delivered: at most four
for each read.
-/

namespace IisAsgiHandler

/-! ## What a request has shown -/

/-- The messages sent to the application. -/
def sends (events : List HttpEvent) : List (Bytes × AsgiHttpRequestMsg) :=
  events.filterMap fun
    | .send channel msg => some (channel, msg)
    | _ => none

/-- The bytes that an event delivers. -/
def readBytes : HttpEvent → Nat
  | .completed (.readEntityBody _ _ _) false bytes => bytes
  | _ => 0

/-- The number of bytes that successful reads have delivered. -/
def bytesRead (events : List HttpEvent) : Nat := (events.map readBytes).sum

/-- Whether an event is the failure of a read. -/
def isReadFailure : HttpEvent → Bool
  | .completed (.readEntityBody _ _ _) true _ => true
  | _ => false

/-- Whether a read has failed. -/
def readFailed (events : List HttpEvent) : Bool := events.any isReadFailure

@[simp] theorem sends_append (events later : List HttpEvent) :
    sends (events ++ later) = sends events ++ sends later :=
  List.filterMap_append

@[simp] theorem bytesRead_append (events later : List HttpEvent) :
    bytesRead (events ++ later) = bytesRead events + bytesRead later := by
  simp [bytesRead]

@[simp] theorem readFailed_append (events later : List HttpEvent) :
    readFailed (events ++ later) = (readFailed events || readFailed later) :=
  List.any_append

@[simp] theorem sends_applyResponse (msg : AsgiHttpResponseMsg) :
    sends (applyResponse msg) = [] := by
  unfold applyResponse
  split <;> simp [sends]

@[simp] theorem bytesRead_applyResponse (msg : AsgiHttpResponseMsg) :
    bytesRead (applyResponse msg) = 0 := by
  unfold applyResponse
  split <;> simp [bytesRead, readBytes, Function.comp_def]

@[simp] theorem readFailed_applyResponse (msg : AsgiHttpResponseMsg) :
    readFailed (applyResponse msg) = false := by
  unfold applyResponse
  split <;> simp [readFailed, isReadFailure]

/-- A read that succeeds delivers at least one byte. -/
def readDelivers : HttpEvent → Bool
  | .completed (.readEntityBody _ _ _) false bytes => decide (0 < bytes)
  | _ => true

/-- A read offers a window of the body vector that begins where the bytes read
so far end, and the request is sent when all of the body has been read. -/
def ReadsInOrder (size : Nat) (past : List HttpEvent) : HttpEvent → Prop
  | .call (.readEntityBody bufferSize offset length) =>
      bufferSize = size ∧ offset = bytesRead past ∧ offset + length ≤ size
  | .send _ _ => bytesRead past = size
  | _ => True

/-! ## The body in each phase -/

variable {unpack : Bytes → Option AsgiHttpResponseMsg}
variable {request : HttpRequest}
variable {replyChannel : Bytes}
variable {life next : Life}
variable {label : LifeLabel}
variable {events : List HttpEvent}

/-- A body vector whose first bytes are those of the entity body. -/
structure BodyPrefix (entityBody body : Bytes) (delivered : Nat) : Prop where
  length : body.length = entityBody.length
  agrees : body.take delivered = entityBody.take delivered

/-- The body vector in each phase. -/
def Life.BodySoFar (request : HttpRequest) (life : Life) : Prop :=
  match life.phase with
  | .idle => life.delivered = 0
  | .reading body | .readAgain body | .pending (.read body) _ =>
      BodyPrefix request.entityBody body life.delivered ∧
        life.delivered < request.entityBody.length
  | .readDone body | .pending (.send body) _ =>
      body = request.entityBody ∧ life.delivered = request.entityBody.length
  | _ => True

namespace BodyPrefix

variable {entityBody body : Bytes}
variable {delivered bytes : Nat}

/-- The vector before the first read. -/
theorem initial (entityBody : Bytes) :
    BodyPrefix entityBody (List.replicate entityBody.length 0) 0 where
  length := by simp
  agrees := by simp

/-- A read stores the next bytes of the entity body behind the prefix. -/
theorem store
    (isPrefix : BodyPrefix request.entityBody body delivered)
    (inside : delivered ≤ request.entityBody.length)
    (fits : bytes ≤ request.entityBody.length - delivered) :
    BodyPrefix request.entityBody (storeBody request body delivered bytes)
      (delivered + bytes) := by
  have stored : ((request.entityBody.drop delivered).take bytes).length =
      bytes := by
    simp only [List.length_take, List.length_drop]
    omega
  refine ⟨?_, ?_⟩
  · unfold storeBody
    rw [Buffer.length_store, isPrefix.length]
    rw [stored, isPrefix.length]
    omega
  · have inVector : delivered ≤ body.length := by
      rw [isPrefix.length]
      exact inside
    have upTo := Buffer.take_store
      ((request.entityBody.drop delivered).take bytes) inVector
    rw [stored] at upTo
    unfold storeBody
    rw [upTo, isPrefix.agrees, List.take_add]

/-- A prefix of full length is the whole body. -/
theorem complete
    (isPrefix : BodyPrefix entityBody body delivered)
    (all : entityBody.length ≤ delivered) :
    body = entityBody := by
  have agrees := isPrefix.agrees
  rw [List.take_of_length_le all,
    List.take_of_length_le (isPrefix.length ▸ all)] at agrees
  exact agrees

end BodyPrefix

namespace LifeStep

/-- Each phase keeps the prefix that the previous one has read. -/
theorem bodySoFar
    (soFar : life.BodySoFar request)
    (steps : LifeStep unpack request replyChannel life label events next) :
    next.BodySoFar request := by
  unfold Life.BodySoFar at soFar ⊢
  cases steps with
  | executeEmpty atPhase nothing =>
      rw [atPhase] at soFar
      have none : life.delivered = 0 := soFar
      have empty : request.entityBody = [] := by
        apply List.eq_nil_of_length_eq_zero
        omega
      exact ⟨empty.symm, by simp [none, empty]⟩
  | executeRead body atPhase sized nonempty =>
      rw [atPhase] at soFar
      have none : life.delivered = 0 := soFar
      rw [none, Nat.sub_zero] at sized
      subst sized
      refine ⟨?_, ?_⟩
      · simp only [none]
        exact BodyPrefix.initial request.entityBody
      · simpa [none, List.length_pos_iff] using nonempty
  | readPending body atPhase | rerunRead body atPhase
  | enterSend body atPhase =>
      rw [atPhase] at soFar
      exact soFar
  | readMore body bytes atPhase fits more
  | completeReadMore body index hr bytes atPhase success fits more =>
      rw [atPhase] at soFar
      obtain ⟨isPrefix, inside⟩ := soFar
      refine ⟨isPrefix.store (Nat.le_of_lt inside) fits, ?_⟩
      simp only
      omega
  | readLast body bytes atPhase fits last
  | completeReadLast body index hr bytes atPhase success fits last =>
      rw [atPhase] at soFar
      obtain ⟨isPrefix, inside⟩ := soFar
      have stored := isPrefix.store (Nat.le_of_lt inside) fits
      refine ⟨stored.complete ?_, ?_⟩
      · omega
      · simp only
        omega
  | callbackReturn | message => exact soFar
  | leavePending await atPhase =>
      rw [atPhase] at soFar
      cases await <;> exact soFar
  | _ => exact trivial

/-- The bytes that the reads deliver are counted. -/
theorem bytesRead
    (steps : LifeStep unpack request replyChannel life label events next) :
    life.delivered + bytesRead events = next.delivered := by
  cases steps with
  | completeLastResponse | completeResponse => simp
  | _ => simp [IisAsgiHandler.bytesRead, readBytes, readCall, writeCall]

/-- Reads and the send are in order. -/
theorem readsInOrder
    {past : List HttpEvent}
    (soFar : life.BodySoFar request)
    (counted : IisAsgiHandler.bytesRead past = life.delivered)
    (steps : LifeStep unpack request replyChannel life label events next) :
    EventMachine.Justified
      (fun before => ReadsInOrder request.entityBody.length (past ++ before))
      events := by
  unfold Life.BodySoFar at soFar
  cases steps with
  | executeRead body atPhase sized nonempty =>
      rw [atPhase] at soFar
      have none : life.delivered = 0 := soFar
      subst sized
      simp [ReadsInOrder, readCall, counted, none]
  | rerunRead body atPhase =>
      rw [atPhase] at soFar
      obtain ⟨isPrefix, inside⟩ := soFar
      simp only [readCall, EventMachine.Justified.singleton, ReadsInOrder,
        List.append_nil]
      exact ⟨isPrefix.length, counted.symm, by omega⟩
  | readMore body bytes atPhase fits more =>
      rw [atPhase] at soFar
      obtain ⟨isPrefix, inside⟩ := soFar
      have stored := isPrefix.store (Nat.le_of_lt inside) fits
      simp only [readCall, EventMachine.Justified.cons_iff, ReadsInOrder]
      refine ⟨trivial, ⟨stored.length, ?_, by omega⟩,
        EventMachine.Justified.nil⟩
      simp [IisAsgiHandler.bytesRead, readBytes] at counted ⊢
      omega
  | taskSend body returned index atPhase =>
      rw [atPhase] at soFar
      simp only [EventMachine.Justified.singleton, ReadsInOrder, List.append_nil]
      rw [counted]
      exact soFar.2
  | completeLastResponse msg | completeResponse msg =>
      apply EventMachine.Justified.of_forall
      intro event member before
      rcases mem_applyResponse member with ⟨status, rfl⟩ | ⟨_, _, _, rfl⟩
      · trivial
      · trivial
  | _ => simp [ReadsInOrder, writeCall]

end LifeStep

/-! ## Whether the message has been sent -/

/-- How far the request has come with its message. -/
inductive Sending
  | reading
  | sent
  | ended

/-- How far the request has come in each phase. -/
def Life.sending (life : Life) : Sending :=
  match life.phase with
  | .idle | .reading _ | .readAgain _ | .readDone _ | .pending (.read _) _
  | .pending (.send _) _ => .reading
  | .ending _ | .finished _ | .deleted _ => .ended
  | _ => .sent

/-- The message of a request. -/
def requestMsg (request : HttpRequest) (replyChannel : Bytes) :
    Bytes × AsgiHttpRequestMsg :=
  (ascii "http.request",
    HttpRequestHandler.asgiRequestMsg request replyChannel request.entityBody)

/-- The message is sent once, unless a read fails before. -/
def SentOnce
    (request : HttpRequest)
    (replyChannel : Bytes)
    (past : List HttpEvent) : Sending → Prop
  | .reading => sends past = [] ∧ readFailed past = false
  | .sent => sends past = [requestMsg request replyChannel] ∧
      readFailed past = false
  | .ended => (sends past = [] ∧ readFailed past = true) ∨
      (sends past = [requestMsg request replyChannel] ∧
        readFailed past = false)

/-- Either the message has not been sent, since a read failed or since there
is more to read, or it has been sent and no read has failed. -/
theorem SentOnce.cases
    {past : List HttpEvent}
    {sending : Sending}
    (once : SentOnce request replyChannel past sending) :
    (sends past = [] ∧ (readFailed past = true ∨ sending = .reading)) ∨
      (sends past = [requestMsg request replyChannel] ∧
        readFailed past = false) := by
  cases sending with
  | reading => exact .inl ⟨once.1, .inr rfl⟩
  | sent => exact .inr once
  | ended =>
      rcases once with ⟨unsent, failure⟩ | sent
      · exact .inl ⟨unsent, .inl failure⟩
      · exact .inr sent

theorem LifeStep.sentOnce
    {past : List HttpEvent}
    (soFar : life.BodySoFar request)
    (once : SentOnce request replyChannel past life.sending)
    (steps : LifeStep unpack request replyChannel life label events next) :
    SentOnce request replyChannel (past ++ events) next.sending := by
  unfold Life.sending at once ⊢
  cases steps with
  | taskSend body returned index atPhase =>
      rw [atPhase] at once
      rw [Life.BodySoFar, atPhase] at soFar
      obtain ⟨rfl, _⟩ := soFar
      obtain ⟨unsent, unfailed⟩ := once
      refine ⟨?_, ?_⟩
      · rw [sends_append, unsent]
        rfl
      · rw [readFailed_append, unfailed]
        rfl
  | enterWait before =>
      rcases before with ⟨body, atPhase⟩ | atPhase
      · simp_all [SentOnce, sends, readFailed, isReadFailure]
      · simp_all [SentOnce, sends, readFailed, isReadFailure]
  | enterFlush msg before =>
      rcases before with ⟨atPhase, _⟩ | atPhase
      · simp_all [SentOnce, sends, readFailed, isReadFailure]
      · simp_all [SentOnce, sends, readFailed, isReadFailure]
  | leavePending await atPhase =>
      rw [atPhase] at once
      cases await <;> simp_all [SentOnce, sends, readFailed, isReadFailure]
  | completeLastResponse | completeResponse => simp_all [SentOnce]
  | callbackReturn | message => simpa using once
  | _ => simp_all [SentOnce, sends, readFailed, isReadFailure, readCall, writeCall]

/-! ## Progress towards the message -/

/-- The number of steps after which a phase can be reached, by the bytes that
have been delivered. -/
def Life.stepBound (life : Life) : Nat :=
  match life.phase with
  | .idle => 0
  | .readAgain _ => 4 * life.delivered
  | .reading _ | .readDone _ => 4 * life.delivered + 1
  | .pending _ false => 4 * life.delivered + 2
  | _ => 4 * life.delivered + 3

/-- No more is delivered than the entity body has. -/
theorem Life.BodySoFar.delivered_le
    (soFar : life.BodySoFar request)
    (reading : life.sending = .reading) :
    life.delivered ≤ request.entityBody.length := by
  unfold Life.BodySoFar at soFar
  unfold Life.sending at reading
  cases atPhase : life.phase with
  | idle =>
      rw [atPhase] at soFar
      have none : life.delivered = 0 := soFar
      omega
  | reading | readAgain =>
      rw [atPhase] at soFar
      exact Nat.le_of_lt soFar.2
  | readDone =>
      rw [atPhase] at soFar
      exact Nat.le_of_eq soFar.2
  | pending await returned =>
      rw [atPhase] at soFar reading
      cases await with
      | read => exact Nat.le_of_lt soFar.2
      | send => exact Nat.le_of_eq soFar.2
      | _ => contradiction
  | _ =>
      rw [atPhase] at reading
      contradiction

/-- Before the message is sent no callback has run, and the steps taken are
bounded. -/
structure Bounded (steps : Nat) (life : Life) : Prop where
  noCallback : life.returning = []
  bound : steps ≤ life.stepBound

/-- The steps taken are bounded as long as every read delivers a byte. -/
theorem LifeStep.bounded
    {steps : Nat}
    (bounded : life.sending = .reading → Bounded steps life)
    (delivers : ∀ event ∈ events, readDelivers event)
    (moves : LifeStep unpack request replyChannel life label events next)
    (reading : next.sending = .reading) :
    Bounded (steps + label.ownSteps) next := by
  unfold Life.sending at bounded reading
  cases moves with
  | leavePending await atPhase =>
      rw [atPhase] at bounded
      cases await with
      | read | send =>
          obtain ⟨noCallback, bound⟩ := bounded rfl
          simp only [Life.stepBound, atPhase] at bound
          exact ⟨noCallback, Nat.succ_le_succ bound⟩
      | _ => contradiction
  | callbackReturn index running =>
      have noCallback := (bounded reading).noCallback
      simp [noCallback] at running
  | message =>
      obtain ⟨noCallback, bound⟩ := bounded reading
      exact ⟨noCallback, bound⟩
  | executeEmpty atPhase | executeRead _ atPhase | readPending _ atPhase
  | enterSend _ atPhase | rerunRead _ atPhase =>
      rw [atPhase] at bounded
      obtain ⟨noCallback, bound⟩ := bounded rfl
      simp only [Life.stepBound, atPhase] at bound
      refine ⟨noCallback, ?_⟩
      simp only [LifeLabel.ownSteps, Life.stepBound]
      omega
  | readMore body bytes atPhase | readLast body bytes atPhase
  | completeReadMore body index hr bytes atPhase
  | completeReadLast body index hr bytes atPhase =>
      have delivered : 0 < bytes :=
        of_decide_eq_true (delivers _ List.mem_cons_self)
      rw [atPhase] at bounded
      obtain ⟨noCallback, bound⟩ := bounded rfl
      simp only [Life.stepBound, atPhase] at bound
      refine ⟨noCallback, ?_⟩
      simp only [LifeLabel.ownSteps, Life.stepBound]
      omega
  | _ => simp_all

/-- A label that reports no failure, and at least one byte where it reports
bytes. -/
def HandlerLabel.Succeeds : HandlerLabel → Prop
  | .iisReturn .failed => False
  | .iisReturn (.completed bytes) => 0 < bytes
  | .complete _ hr bytes => failed hr = false ∧ 0 < bytes
  | _ => True

/-- Before its message is sent, a request can go on without a failure. -/
theorem Life.proceeds
    (unpack : Bytes → Option AsgiHttpResponseMsg)
    (replyChannel : Bytes)
    (soFar : life.BodySoFar request)
    (reading : life.sending = .reading) :
    ∃ label : HandlerLabel, label.Succeeds ∧
      (HttpRequestHandler.step unpack request replyChannel
        (life.toHandler request replyChannel) label).isSome := by
  obtain ⟨phase, serial, delivered, returning, queue⟩ := life
  cases phase with
  | idle => exact ⟨.onExecuteRequestHandler, trivial, rfl⟩
  | reading body =>
      have inside : delivered < request.entityBody.length := soFar.2
      have one : 1 ≤ request.entityBody.length - delivered := by omega
      refine ⟨.iisReturn (.completed 1), Nat.one_pos, ?_⟩
      simp [HttpRequestHandler.step, HttpRequestHandler.iisReturn, toHandler,
        thread, currentStep, readBodyStep, readCall, one,
        HttpRequestHandler.deliver]
  | readAgain body | readDone body =>
      refine ⟨.stateMachine, trivial, ?_⟩
      simp [HttpRequestHandler.step, HttpRequestHandler.stateMachine, toHandler,
        thread, currentStep, readBodyStep]
  | pending await returned =>
      cases returned with
      | false =>
          refine ⟨.stateMachine, trivial, ?_⟩
          simp [HttpRequestHandler.step, HttpRequestHandler.stateMachine,
            toHandler, thread]
      | true =>
          cases await with
          | read body =>
              have inside : delivered < request.entityBody.length := soFar.2
              have one : 1 ≤ request.entityBody.length - delivered := by omega
              refine ⟨.complete 0 sOk 1, ⟨failed_sOk, Nat.one_pos⟩, ?_⟩
              simp [HttpRequestHandler.step, HttpRequestHandler.complete,
                toHandler, thread, operations, readCall, one]
          | send body =>
              refine ⟨.taskSend 0, trivial, ?_⟩
              simp [HttpRequestHandler.step, HttpRequestHandler.taskSend,
                toHandler, thread, tasks, HttpRequestHandler.alive, currentStep,
                sendStep]
          | _ => contradiction
  | _ => contradiction

/-! ## The whole request -/

/-- What holds of a request while it assembles its body, and afterwards. -/
structure Assembling
    (request : HttpRequest)
    (replyChannel : Bytes)
    (past : LifeHistory)
    (life : Life) : Prop where
  soFar : life.BodySoFar request
  counted : bytesRead past.events = life.delivered
  inOrder : EventMachine.Justified (ReadsInOrder request.entityBody.length)
    past.events
  once : SentOnce request replyChannel past.events life.sending
  bounded : life.sending = .reading → Bounded past.ownSteps life

namespace Assembling

variable {past : LifeHistory}

theorem initial (request : HttpRequest) (replyChannel : Bytes) :
    Assembling request replyChannel {} {} where
  soFar := rfl
  counted := rfl
  inOrder := EventMachine.Justified.nil
  once := ⟨rfl, rfl⟩
  bounded _ := ⟨rfl, Nat.zero_le _⟩

theorem step
    (assembling : Assembling request replyChannel past life)
    (delivers : ∀ event ∈ events, readDelivers event)
    (steps : LifeStep unpack request replyChannel life label events next) :
    Assembling request replyChannel (past.after label events) next where
  soFar := steps.bodySoFar assembling.soFar
  counted := by
    rw [LifeHistory.after_events, bytesRead_append, assembling.counted]
    exact steps.bytesRead
  inOrder := by
    rw [LifeHistory.after_events, EventMachine.Justified.append_iff]
    exact ⟨assembling.inOrder,
      steps.readsInOrder assembling.soFar assembling.counted⟩
  once := steps.sentOnce assembling.soFar assembling.once
  bounded := steps.bounded assembling.bounded delivers

/-- While the request reads, the bound is that for the whole body. -/
theorem stepBound_le
    (assembling : Assembling request replyChannel past life)
    (reading : life.sending = .reading) :
    life.stepBound ≤ 4 * request.entityBody.length + 3 := by
  have delivered := assembling.soFar.delivered_le reading
  unfold Life.stepBound
  split <;> omega

end Assembling

namespace HttpSystem

variable {ρ : Type} [DecidableEq ρ]

/-- A request sends its message once, with the whole body in it, and only after
all of the body has been read into windows that follow one another.  It sends
nothing if a read fails.  Until then it has taken at most four steps for each
byte of the body, and it can always take another. -/
theorem request_body_assembly
    {unpack : Bytes → Option AsgiHttpResponseMsg}
    {requests : Requests ρ}
    {labels : List (HttpSystemLabel ρ)}
    {trace : List (HttpSystemEvent ρ)}
    {system : HttpSystem ρ}
    (run : EventMachine.Run (step unpack requests) EventMachine.always {} labels
      trace system)
    (id : ρ)
    (delivers : ∀ event ∈ requestEvents id trace, readDelivers event) :
    let body := (requests.request id).entityBody
    let events := requestEvents id trace
    (sends events = [] ∨
        sends events =
          [requestMsg (requests.request id) (requests.channel id)]) ∧
      EventMachine.Justified (ReadsInOrder body.length) events ∧
      (readFailed events = true → sends events = []) ∧
      (readFailed events = false → sends events = [] →
        ownSteps id labels ≤ 4 * body.length + 3 ∧
          ∃ label : HandlerLabel, label.Succeeds ∧
            (step unpack requests system (.handler id label)).isSome) := by
  intro body events
  obtain ⟨life, ⟨_, seen⟩, assembling⟩ :=
    life_induction id (fun event => readDelivers event) (fun _ => True)
      (Assembling (requests.request id) (requests.channel id))
      (Assembling.initial _ _)
      (fun _ _ _ _ _ assembling delivers _ steps =>
        assembling.step delivers steps)
      delivers (fun _ _ => trivial) run
  refine ⟨?_, assembling.inOrder, ?_, ?_⟩
  · rcases assembling.once.cases with ⟨unsent, _⟩ | ⟨sent, _⟩
    · exact .inl unsent
    · exact .inr sent
  · intro failure
    rcases assembling.once.cases with ⟨unsent, _⟩ | ⟨_, unfailed⟩
    · exact unsent
    · exact absurd (unfailed.symm.trans failure) Bool.false_ne_true
  · intro unfailed unsent
    have reading : life.sending = .reading := by
      rcases assembling.once.cases with ⟨_, failure | reading⟩ | ⟨sent, _⟩
      · exact absurd (unfailed.symm.trans failure) Bool.false_ne_true
      · exact reading
      · exact absurd (sent.symm.trans unsent) (List.cons_ne_nil _ _)
    refine ⟨?_, ?_⟩
    · calc ownSteps id labels
          ≤ life.stepBound := (assembling.bounded reading).bound
        _ ≤ 4 * body.length + 3 := assembling.stepBound_le reading
    · obtain ⟨label, succeeds, moves⟩ := life.proceeds unpack
        (requests.channel id) assembling.soFar reading
      refine ⟨label, succeeds, ?_⟩
      rw [← seen.handler] at moves
      obtain ⟨⟨handler, shown⟩, moves⟩ := Option.isSome_iff_exists.mp moves
      simp [step, moves]

/-- A body of three bytes, read in two parts, one at once and one later. -/
theorem request_body_assembly_two_reads :
    ∃ labels trace system,
      EventMachine.Run
        (step (unpackSamples [] []) (sampleRequests [0x61, 0x62, 0x63]))
        EventMachine.always {} labels trace system ∧
      bytesRead (requestEvents true trace) = 3 ∧
      (sends (requestEvents true trace) = [] ∨
        sends (requestEvents true trace) =
          [requestMsg ((sampleRequests [0x61, 0x62, 0x63]).request true)
            ((sampleRequests [0x61, 0x62, 0x63]).channel true)]) := by
  have executes : EventMachine.checks
      (step (unpackSamples [] []) (sampleRequests [0x61, 0x62, 0x63]))
      EventMachine.always {}
      [.handler true .onExecuteRequestHandler,
        .handler true (.iisReturn (.completed 2)),
        .handler true (.iisReturn .pending), .handler true .stateMachine,
        .handler true (.complete 0 sOk 1), .handler true .stateMachine,
        .handler true (.taskSend 0)]
      (fun _ trace => bytesRead (requestEvents true trace) = 3 ∧
        ∀ event ∈ requestEvents true trace, readDelivers event) = true := by
    decide +kernel
  obtain ⟨trace, system, run, read, delivers⟩ :=
    EventMachine.Run.of_checks executes
  exact ⟨_, trace, system, run, read, (request_body_assembly run true delivers).1⟩

end HttpSystem

end IisAsgiHandler
