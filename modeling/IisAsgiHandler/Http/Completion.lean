import IisAsgiHandler.Http.Protocol
import IisAsgiHandler.Http.HandlerCalls

/-!
# Requests can be completed

Wherever a request is, it can be finished: by its own steps, by successful
completions of what it has asked IIS for, by the pump, and by one last message
of the application.  No step of another request is needed.

The steps to the end are counted down.  A request that waits for a message is
at the end of a round, and the next round uses up a message.
-/

namespace IisAsgiHandler

/-- A label that reports a failure. -/
def HandlerLabel.fails : HandlerLabel → Bool
  | .iisReturn .failed => true
  | .complete _ hr _ | .completePosted _ hr _ => failed hr
  | _ => false

/-! ## The way of a request -/

/-- The steps that are left of a round, with a response that is not written
yet. -/
def Await.rank : Await → Nat
  | .read _ => 35
  | .send _ => 31
  | .sent _ => 29
  | .sendPosted _ => 27
  | .registered none => 1
  | .registered (some _) => 22
  | .callback _ => 20
  | .unpacked _ _ => 18
  | .responsePosted _ => 16
  | .write _ => 12
  | .flush => 8
  | .threw => 0

def Phase.rank : Phase → Nat
  | .idle => 40
  | .readAgain _ => 38
  | .reading _ => 37
  | .readDone _ => 33
  | .sendDone _ => 26
  | .responseDone _ => 15
  | .writing _ => 14
  | .writeDone _ => 11
  | .flushing => 10
  | .flushDone => 7
  | .pending await returned => await.rank + if returned then 0 else 1
  | .ending _ => 1
  | .finished _ | .deleted _ => 0

/-- Whether the pump polls for the request. -/
def Phase.polled : Phase → Bool
  | .pending (.registered none) _ => true
  | _ => false

namespace Life

/-- The next step of a request when all goes well.  Where it is registered with
the pump, the pump goes on. -/
def nextLabel (request : HttpRequest) (life : Life) : Option HandlerLabel :=
  match life.phase with
  | .idle => some .onExecuteRequestHandler
  | .reading _ =>
      some (.iisReturn
        (.completed (request.entityBody.length - life.delivered)))
  | .writing msg => some (.iisReturn (.completed msg.content.length))
  | .flushing => some (.iisReturn (.completed 0))
  | .readAgain _ | .readDone _ | .sendDone _ | .responseDone _ | .writeDone _
  | .flushDone | .ending _ | .pending _ false => some .stateMachine
  | .pending (.read _) true =>
      some (.complete 0 sOk (request.entityBody.length - life.delivered))
  | .pending (.write msg) true => some (.complete 0 sOk msg.content.length)
  | .pending .flush true => some (.complete 0 sOk 0)
  | .pending (.send _) true => some (.taskSend 0)
  | .pending (.sent _) true => some (.taskPost 0)
  | .pending (.sendPosted _) true | .pending (.responsePosted _) true =>
      some (.completePosted 0 sOk 0)
  | .pending (.callback _) true => some (.callbackUnpack 0)
  | .pending (.unpacked _ _) true => some (.callbackPost 0)
  | .pending (.registered _) true | .pending .threw true | .finished _
  | .deleted _ => none

variable {unpack : Bytes → Option AsgiHttpResponseMsg}
variable {request : HttpRequest}
variable {replyChannel : Bytes}
variable {life next : Life}
variable {label : HandlerLabel}
variable {events : List HttpEvent}

theorem nextLabel_succeeds
    (isNext : life.nextLabel request = some label) :
    label.fails = false := by
  obtain ⟨phase, serial, delivered, returning, queue⟩ := life
  cases phase with
  | pending await returned =>
      cases returned with
      | false =>
          cases isNext
          rfl
      | true =>
          cases await <;> first | contradiction | (cases isNext; rfl)
  | finished | deleted => contradiction
  | _ =>
      cases isNext
      rfl

/-- A request can take its next step. -/
theorem nextLabel_isSome
    (unpack : Bytes → Option AsgiHttpResponseMsg)
    (replyChannel : Bytes)
    (isNext : life.nextLabel request = some label) :
    (HttpRequestHandler.step unpack request replyChannel
      (life.toHandler request replyChannel) label).isSome = true := by
  by_cases own : (life.toHandler request replyChannel).threadStep request label =
      true
  · exact life.threadStep_isSome unpack own
  · obtain ⟨phase, serial, delivered, returning, queue⟩ := life
    cases phase with
    | idle =>
        cases isNext
        rfl
    | pending await returned =>
        cases returned with
        | false =>
            cases isNext
            exact absurd rfl own
        | true =>
            cases await with
            | registered held | threw => contradiction
            | callback data =>
                cases isNext
                cases unpacks : unpack data <;>
                  simp [HttpRequestHandler.step,
                    HttpRequestHandler.callbackUnpack, toHandler, callbacks,
                    unpacks, HttpRequestHandler.alive, thread, currentStep]
            | _ =>
                cases isNext
                simp [HttpRequestHandler.step, HttpRequestHandler.complete,
                  HttpRequestHandler.completePosted, HttpRequestHandler.taskSend,
                  HttpRequestHandler.taskPost, HttpRequestHandler.callbackPost,
                  toHandler, thread, operations, tasks, posted, callbacks,
                  readCall, writeCall, currentStep, sendStep,
                  HttpRequestHandler.alive]
    | finished step | deleted step => contradiction
    | _ =>
        cases isNext
        simp [HttpRequestHandler.threadStep, toHandler, thread, readCall,
          writeCall] at own

/-- A step on the way goes down, and what it brings to the pump has far to go
down still. -/
structure Descends (life next : Life) : Prop where
  rank : next.phase.rank < life.phase.rank
  polled : next.phase.polled = true →
    life.phase.polled = true ∨ next.phase.rank + 2 < life.phase.rank

theorem descends
    (isNext : life.nextLabel request = some label)
    (steps : LifeStep unpack request replyChannel life (.handler label) events
      next) :
    life.Descends next := by
  obtain ⟨phase, serial, delivered, returning, queue⟩ := life
  cases steps with
  | executeEmpty atPhase empty | executeRead body atPhase isBody nonempty
  | readLast body bytes atPhase inside whole
  | rerunRead body atPhase remains | enterSend body atPhase
  | enterWrite msg atPhase nonempty | writeMore msg bytes atPhase more
  | writeLast msg step bytes atPhase last | flushMore bytes atPhase
  | completeReadLast body index hr bytes atPhase succeeded inside whole
  | completeSend body index hr bytes atPhase
  | completeLastResponse msg step index hr bytes atPhase empty last
  | completeResponse msg index hr bytes atPhase more
  | completeWriteMore msg index hr bytes atPhase more
  | completeWriteLast msg step index hr bytes atPhase last
  | completeFlush index hr bytes atPhase | leaveFinished step atPhase =>
      simp only at atPhase
      subst atPhase
      exact ⟨by simp [Phase.rank, Await.rank], by simp [Phase.polled]⟩
  | taskSend body returned index atPhase | taskPost body returned index atPhase
  | callbackUnpack returned data msg index atPhase unpacks
  | callbackThrow returned data index atPhase throws
  | callbackPost returned data msg index atPhase =>
      simp only at atPhase
      subst atPhase
      exact ⟨by simp [Phase.rank, Await.rank], by simp [Phase.polled]⟩
  | enterWait before =>
      simp only at before
      obtain ⟨body, rfl⟩ | rfl := before
      · exact ⟨by simp [Phase.rank, Await.rank],
          fun _ => .inr (by simp [Phase.rank, Await.rank])⟩
      · exact ⟨by simp [Phase.rank, Await.rank],
          fun _ => .inr (by simp [Phase.rank, Await.rank])⟩
  | enterFlush msg before more =>
      simp only at before
      obtain ⟨rfl, -⟩ | rfl := before
      · exact ⟨by simp [Phase.rank], by simp [Phase.polled]⟩
      · exact ⟨by simp [Phase.rank], by simp [Phase.polled]⟩
  | leavePending await atPhase =>
      simp only at atPhase
      subst atPhase
      refine ⟨by simp [Phase.rank], fun isPolled => .inl ?_⟩
      cases await with
      | registered held => cases held <;> exact isPolled
      | _ => exact isPolled
  | readMore body bytes atPhase inside more =>
      -- All that remains is read at once.
      simp only at atPhase inside more
      subst atPhase
      cases isNext
      simp only at more
      omega
  | completeReadMore body index hr bytes atPhase succeeded inside more =>
      simp only at atPhase inside more
      subst atPhase
      cases isNext
      simp only at more
      omega
  | readFail body step atPhase | readPending body atPhase
  | writeFail msg step atPhase | writePending msg atPhase
  | flushFail step atPhase | flushPending atPhase =>
      simp only at atPhase
      subst atPhase
      cases isNext
  | completeReadFail body step index hr bytes atPhase failure =>
      simp only at atPhase
      subst atPhase
      cases isNext
      contradiction
  | cleanup step atPhase =>
      simp only at atPhase
      subst atPhase
      cases isNext
  | callbackReturn index inside =>
      unfold nextLabel at isNext
      split at isNext <;> cases isNext

/-! ## The last message -/

/-- Bytes that are a last message. -/
def IsLast (unpack : Bytes → Option AsgiHttpResponseMsg) (data : Bytes) : Prop :=
  ∃ msg, unpack data = some msg ∧ msg.moreContent = false

/-- Whether a request ends with the message that it is at. -/
def EndsRound (unpack : Bytes → Option AsgiHttpResponseMsg) : Phase → Prop
  | .pending (.registered (some data)) _ | .pending (.callback data) _ =>
      IsLast unpack data
  | .pending (.unpacked _ msg) _ | .pending (.responsePosted msg) _
  | .pending (.write msg) _ | .responseDone msg | .writing msg =>
      msg.moreContent = false
  | .ending _ | .finished _ | .deleted _ => True
  | _ => False

/-- A last message is on its way to the request. -/
def Promised (unpack : Bytes → Option AsgiHttpResponseMsg) (life : Life) : Prop :=
  (∃ data ∈ life.queue, IsLast unpack data) ∨ EndsRound unpack life.phase

theorem promised_step
    {lifeLabel : LifeLabel}
    (promised : life.Promised unpack)
    (steps : LifeStep unpack request replyChannel life lifeLabel events next) :
    next.Promised unpack := by
  rcases promised with ⟨data, member, isLast⟩ | ends
  · cases steps with
    | message other => exact .inl ⟨data, List.mem_append_left _ member, isLast⟩
    | pop returned first rest atPhase front =>
        rw [front] at member
        rcases List.mem_cons.mp member with rfl | later
        · exact .inr isLast
        · exact .inl ⟨data, later, isLast⟩
    | _ => exact .inl ⟨data, member, isLast⟩
  · right
    obtain ⟨phase, serial, delivered, returning, queue⟩ := life
    cases steps with
    | message | callbackReturn => exact ends
    | leaveFinished | cleanup | readFail | completeReadFail | writeFail
    | flushFail | writeLast | completeWriteLast | completeLastResponse =>
        trivial
    | dispatch returned data atPhase
    | callbackPost returned data msg index atPhase
    | completeResponse msg index hr bytes atPhase more
    | enterWrite msg atPhase nonempty | writePending msg atPhase =>
        simp only at atPhase
        subst atPhase
        exact ends
    | leavePending await atPhase =>
        simp only at atPhase
        subst atPhase
        cases await with
        | registered held => cases held <;> exact ends
        | _ => exact ends
    | callbackUnpack returned data msg index atPhase unpacks =>
        simp only at atPhase
        subst atPhase
        obtain ⟨other, unpacksLast, last⟩ := ends
        rw [unpacks] at unpacksLast
        cases unpacksLast
        exact last
    | callbackThrow returned data index atPhase throws =>
        simp only at atPhase
        subst atPhase
        obtain ⟨msg, unpacks, -⟩ := ends
        rw [throws] at unpacks
        contradiction
    | writeMore msg bytes atPhase more
    | completeWriteMore msg index hr bytes atPhase more =>
        simp only at atPhase
        subst atPhase
        exact absurd (more.symm.trans ends) (by simp)
    | enterFlush msg before more =>
        simp only at before
        obtain ⟨rfl, -⟩ | rfl := before
        · exact absurd (more.symm.trans ends) (by simp)
        · exact ends.elim
    | enterWait before =>
        simp only at before
        obtain ⟨body, rfl⟩ | rfl := before
        · exact ends.elim
        · exact ends.elim
    | executeEmpty atPhase | executeRead body atPhase | readPending body atPhase
    | readMore body bytes atPhase | readLast body bytes atPhase
    | completeReadMore body index hr bytes atPhase
    | completeReadLast body index hr bytes atPhase | rerunRead body atPhase
    | enterSend body atPhase | taskSend body returned index atPhase
    | taskPost body returned index atPhase
    | completeSend body index hr bytes atPhase
    | pop returned data rest atPhase front | flushPending atPhase
    | flushMore bytes atPhase | completeFlush index hr bytes atPhase =>
        simp only at atPhase
        subst atPhase
        exact ends.elim

/-- The steps that are left, by the phase and the messages in the queue. -/
def rank (life : Life) : Nat :=
  life.queue.length * 40 + life.phase.rank

/-- A step of the pump goes down, and the pump polls no longer. -/
theorem rank_lt_of_passive
    {lifeLabel : LifeLabel}
    (passive : lifeLabel.own = none)
    (silent : lifeLabel.messages = [])
    (steps : LifeStep unpack request replyChannel life lifeLabel events next) :
    next.rank < life.rank ∧ next.phase.polled = false := by
  obtain ⟨phase, serial, delivered, returning, queue⟩ := life
  cases steps with
  | pop returned data rest atPhase front =>
      simp only at atPhase front
      subst atPhase front
      refine ⟨?_, rfl⟩
      simp only [rank, Phase.rank, Await.rank, List.length_cons]
      omega
  | dispatch returned data atPhase =>
      simp only at atPhase
      subst atPhase
      refine ⟨?_, rfl⟩
      simp only [rank, Phase.rank, Await.rank]
      omega
  | message data => contradiction
  | _ => contradiction

end Life

/-! ## The system -/

/-- The steps that a message needs to come to a request that is polled. -/
def PumpThread.distance (channel : Bytes) : PumpThread → Nat
  | .loopHead => 1
  | .receiving channelNames => if channelNames.contains channel then 0 else 2
  | .received _ _ => 2
  | .exited => 0

theorem PumpThread.distance_le (channel : Bytes) (thread : PumpThread) :
    thread.distance channel ≤ 2 := by
  cases thread with
  | receiving channelNames =>
      simp only [distance]
      split <;> omega
  | _ => simp [distance]

namespace HttpSystem

variable {ρ : Type} [DecidableEq ρ]
variable {unpack : Bytes → Option AsgiHttpResponseMsg}
variable {requests : Requests ρ}
variable {system next : HttpSystem ρ}
variable {id : ρ}
variable {life lifeNext : Life}
variable {label : HttpSystemLabel ρ}
variable {events : List (HttpSystemEvent ρ)}

/-- A step of the request that reports no failure, or one of the pump. -/
def servesAlone (id : ρ) (_ : HttpSystem ρ) : HttpSystemLabel ρ → Prop
  | .handler other own => other = id ∧ own.fails = false
  | .pump _ => True
  | .send _ _ | .stopPump => False

/-- The pump has not been stopped. -/
def Pumps (system : HttpSystem ρ) : Prop :=
  system.pump.threadStop = false ∧ system.pump.thread ≠ .exited

/-- What there is to know of a request that can be finished. -/
structure Ready
    (unpack : Bytes → Option AsgiHttpResponseMsg)
    (requests : Requests ρ)
    (system : HttpSystem ρ) (id : ρ) (life : Life) : Prop where
  sound : Sound requests system
  seen : Seen requests system id life
  wellFormed : life.WellFormed unpack
  promised : life.Promised unpack
  pumps : system.Pumps

/-- The steps that are left. -/
def rank (requests : Requests ρ) (system : HttpSystem ρ) (id : ρ) (life : Life) :
    Nat :=
  life.rank +
    if life.phase.polled then
      system.pump.thread.distance (requests.channel id)
    else 0

/-- A step closer to the end. -/
def Closer
    (unpack : Bytes → Option AsgiHttpResponseMsg)
    (requests : Requests ρ)
    (system : HttpSystem ρ) (id : ρ) (life : Life) : Prop :=
  ∃ label next events lifeNext, servesAlone id system label ∧
    HttpSystem.step unpack requests system label = some (next, events) ∧
    Ready unpack requests next id lifeNext ∧
    rank requests next id lifeNext < rank requests system id life

omit [DecidableEq ρ] in
/-- Handlers do not stop the pump, or move its thread. -/
theorem pump_foldl_register
    (id : ρ)
    (events : List HttpEvent)
    (pump : ResponsePump (CapturedStep ρ)) :
    (events.foldl (register id) pump).threadStop = pump.threadStop ∧
      (events.foldl (register id) pump).thread = pump.thread := by
  induction events generalizing pump with
  | nil => exact ⟨rfl, rfl⟩
  | cons event events ih =>
      rw [List.foldl_cons]
      refine (ih _).imp (fun same => same.trans ?_) (fun same => same.trans ?_)
      · cases event <;> rfl
      · cases event <;> rfl

/-- A request takes its next step. -/
theorem Ready.own_step
    {own : HandlerLabel}
    (ready : Ready unpack requests system id life)
    (isNext : life.nextLabel (requests.request id) = some own) :
    Closer unpack requests system id life := by
  have accepts := Life.nextLabel_isSome unpack (requests.channel id) isNext
  rw [← ready.seen.handler] at accepts
  obtain ⟨⟨handler, shown⟩, steps⟩ := Option.isSome_iff_exists.mp accepts
  obtain ⟨lifeNext, lifeStep, seenNext⟩ := ready.seen.handler_self steps
  have systemSteps : HttpSystem.step unpack requests system (.handler id own) =
      some ({ system with
        handlers := Function.update system.handlers id handler
        pump := shown.foldl (register id) system.pump },
        shown.map (.request id)) := by
    simp only [HttpSystem.step, steps]
  obtain ⟨sameStop, sameThread⟩ :=
    pump_foldl_register id shown system.pump
  refine ⟨.handler id own, _, _, lifeNext,
    ⟨rfl, Life.nextLabel_succeeds isNext⟩, systemSteps,
    ⟨ready.sound.step systemSteps, seenNext,
      lifeStep.wellFormed ready.wellFormed (by simp),
      Life.promised_step ready.promised lifeStep, ?_⟩, ?_⟩
  · exact ⟨sameStop.trans ready.pumps.1, fun exited =>
      ready.pumps.2 (sameThread.symm.trans exited)⟩
  · have queue := lifeStep.registration.1
    obtain ⟨down, polled⟩ := Life.descends isNext lifeStep
    have far := PumpThread.distance_le (requests.channel id) system.pump.thread
    unfold rank Life.rank
    simp only [sameThread, queue]
    cases isPolled : lifeNext.phase.polled with
    | false =>
        simp only [Bool.false_eq_true, if_false]
        split <;> omega
    | true =>
        rcases polled isPolled with still | low
        · simp only [still, if_true]
          omega
        · simp only [if_true]
          split <;> omega

/-- The pump takes its next step. -/
theorem Ready.pump_step
    {label : PumpLabel}
    {result : PumpStep (CapturedStep ρ)}
    (ready : Ready unpack requests system id life)
    (steps : system.pump.threadMain system.queues label = some result)
    (goesOn : result.pump.thread ≠ .exited)
    (nearer : holds result.pump.thread (requests.channel id) = life.held →
      life.phase.polled = true ∧
        result.pump.thread.distance (requests.channel id) <
          system.pump.thread.distance (requests.channel id)) :
    Closer unpack requests system id life := by
  have systemSteps : HttpSystem.step unpack requests system (.pump label) =
      some ({
        pump := result.pump
        queues := result.queues
        handlers := create system.handlers result.task }, []) := by
    simp only [HttpSystem.step, steps]
  have soundNext := ready.sound.step systemSteps
  have sameStop : result.pump.threadStop = system.pump.threadStop := by
    cases ResponsePump.threadMain_stepped steps <;> rfl
  have pumps : Pumps ({
      pump := result.pump
      queues := result.queues
      handlers := create system.handlers result.task } : HttpSystem ρ) :=
    ⟨sameStop.trans ready.pumps.1, goesOn⟩
  obtain ⟨lifeNext, moved, seenNext⟩ := ready.seen.step ready.sound systemSteps
  refine ⟨.pump label, _, _, lifeNext, trivial, systemSteps, ?_⟩
  cases moved with
  | still =>
      obtain ⟨isPolled, less⟩ := nearer seenNext.held
      refine ⟨⟨soundNext, seenNext, ready.wellFormed, ready.promised, pumps⟩, ?_⟩
      simp only [rank, isPolled, if_true]
      exact Nat.add_lt_add_left less _
  | moved lifeLabel _ owned messages lifeStep =>
      have silent : lifeLabel.messages = [] := messages.symm
      obtain ⟨less, notPolled⟩ :=
        Life.rank_lt_of_passive owned.symm silent lifeStep
      refine ⟨⟨soundNext, seenNext,
        lifeStep.wellFormed ready.wellFormed fun data member => ?_,
        Life.promised_step ready.promised lifeStep, pumps⟩, ?_⟩
      · rw [silent] at member
        contradiction
      · simp only [rank, notPolled, Bool.false_eq_true, if_false]
        omega

/-- A message that is on its way comes closer to a request that waits for
it. -/
theorem Ready.polled_step
    (ready : Ready unpack requests system id life)
    (waiting : life.phase = .pending (.registered none) true) :
    Closer unpack requests system id life := by
  have isPolled : life.phase.polled = true := by rw [waiting]; rfl
  have notHeld : life.held = none := by unfold Life.held; rw [waiting]
  have present :
      (system.pump.registered (requests.channel id)).isSome = true := by
    rw [ready.seen.registered, Life.registered, waiting]
    rfl
  have named := (system.pump.mem_keys_iff (requests.channel id)).mpr present
  obtain ⟨notStopped, running⟩ := ready.pumps
  cases atThread : system.pump.thread with
  | exited => exact absurd atThread running
  | loopHead =>
      have steps : system.pump.threadMain system.queues .snapshot =
          some {
            pump := { system.pump with
              thread := .receiving system.pump.callbacks.keys }
            queues := system.queues } := by
        simp [ResponsePump.threadMain, atThread, notStopped,
          List.ne_nil_of_mem named]
      refine ready.pump_step steps (by simp) fun _ => ⟨isPolled, ?_⟩
      simp [PumpThread.distance, atThread, named]
  | receiving channelNames =>
      by_cases asked : requests.channel id ∈ channelNames
      · obtain ⟨data, rest, front⟩ : ∃ data rest,
            system.queues (requests.channel id) = data :: rest := by
          rcases ready.promised with ⟨data, member, -⟩ | ends
          · rw [ready.seen.queue]
            exact List.exists_cons_of_ne_nil (List.ne_nil_of_mem member)
          · rw [waiting] at ends
            exact ends.elim
        have steps : system.pump.threadMain system.queues
            (.receiveMany (some (requests.channel id))) =
            some {
              pump := { system.pump with
                thread := .received (requests.channel id) data }
              queues :=
                Function.update system.queues (requests.channel id) rest } := by
          simp [ResponsePump.threadMain, atThread, front, asked,
            requests.channel_ne_nil id]
        refine ready.pump_step steps (by simp) fun same => ?_
        rw [notHeld] at same
        simp [holds] at same
      · have steps : system.pump.threadMain system.queues (.receiveMany none) =
            some {
              pump := { system.pump with thread := .loopHead }
              queues := system.queues } := by
          simp [ResponsePump.threadMain, atThread]
        refine ready.pump_step steps (by simp) fun _ => ⟨isPolled, ?_⟩
        simp [PumpThread.distance, atThread, asked]
  | received other data =>
      have found := ready.sound.polling.received other data atThread
      obtain ⟨callback, isCallback⟩ := Option.isSome_iff_exists.mp found
      have steps : system.pump.threadMain system.queues .dispatch =
          some {
            pump := { system.pump.removeChannel other with thread := .loopHead }
            queues := system.queues
            task := some ⟨callback, other, data⟩ } := by
        simp [ResponsePump.threadMain, atThread, isCallback]
      refine ready.pump_step steps (by simp) fun _ => ⟨isPolled, ?_⟩
      simp [PumpThread.distance, atThread]

/-- The message that the pump holds for a request is dispatched. -/
theorem Ready.held_step
    {data : Bytes}
    (ready : Ready unpack requests system id life)
    (waiting : life.phase = .pending (.registered (some data)) true) :
    Closer unpack requests system id life := by
  have isHeld : life.held = some data := by unfold Life.held; rw [waiting]
  have held := ready.seen.held
  rw [isHeld] at held
  have atThread : system.pump.thread = .received (requests.channel id) data := by
    unfold holds at held
    split at held
    next other message atThread =>
      split at held
      next same =>
        cases held
        rw [atThread, same]
      next => contradiction
    next => contradiction
  have found : system.pump.registered (requests.channel id) =
      some ⟨id, life.serial⟩ := by
    rw [ready.seen.registered, Life.registered, waiting]
    rfl
  have steps : system.pump.threadMain system.queues .dispatch =
      some {
        pump := { system.pump.removeChannel (requests.channel id) with
          thread := .loopHead }
        queues := system.queues
        task := some ⟨⟨id, life.serial⟩, requests.channel id, data⟩ } := by
    simp [ResponsePump.threadMain, atThread, found]
  refine ready.pump_step steps (by simp) fun same => ?_
  rw [isHeld] at same
  contradiction

/-- The request has been finished. -/
def Finished (system : HttpSystem ρ) (id : ρ) : Prop :=
  (system.handlers id).thread = .finished ∨
    (system.handlers id).thread = .deleted

/-- A request that can be finished has been, or comes closer. -/
theorem Ready.progress (ready : Ready unpack requests system id life) :
    Finished system id ∨ Closer unpack requests system id life := by
  cases isNext : life.nextLabel (requests.request id) with
  | some own => exact .inr (ready.own_step isNext)
  | none =>
      unfold Life.nextLabel at isNext
      split at isNext
      any_goals contradiction
      next held atPhase =>
        cases held with
        | none => exact .inr (ready.polled_step atPhase)
        | some data => exact .inr (ready.held_step atPhase)
      next atPhase => exact absurd rfl (ready.wellFormed.live atPhase)
      next step atPhase =>
        left; left
        rw [ready.seen.handler]
        simp [Life.toHandler, Life.thread, atPhase]
      next step atPhase =>
        left; right
        rw [ready.seen.handler]
        simp [Life.toHandler, Life.thread, atPhase]

/-- The pump thread leaves its loop only when it is told to stop. -/
theorem threadStop_of_exited_step
    {label : HttpSystemLabel ρ}
    (holds : system.pump.thread = .exited → system.pump.threadStop = true)
    (steps : step unpack requests system label = some (next, events)) :
    next.pump.thread = .exited → next.pump.threadStop = true := by
  intro exited
  cases label with
  | handler id label =>
      simp only [step] at steps
      split at steps
      next => contradiction
      next handler shown _ =>
        cases steps
        obtain ⟨sameStop, sameThread⟩ := pump_foldl_register id shown system.pump
        exact sameStop.trans (holds (sameThread.symm.trans exited))
  | pump label =>
      simp only [step] at steps
      split at steps
      next => contradiction
      next result stepped =>
        cases steps
        cases ResponsePump.threadMain_stepped stepped with
        | exit atThread stop => exact stop
        | idle => exact holds exited
        | _ => contradiction
  | send channel data =>
      cases steps
      exact holds exited
  | stopPump =>
      cases steps
      rfl

/-- A last message makes a request ready to be finished. -/
theorem Ready.of_send
    {last : Bytes}
    (sound : Sound requests system)
    (seen : Seen requests system id life)
    (wellFormed : life.WellFormed unpack)
    (isLast : Life.IsLast unpack last)
    (pumps : system.Pumps) :
    ∃ lifeNext, Ready unpack requests
      { system with queues := system.queues.send (requests.channel id) last } id
      lifeNext := by
  have steps : step unpack requests system (.send (requests.channel id) last) =
      some ({ system with
        queues := system.queues.send (requests.channel id) last },
        [.sent (requests.channel id) last]) := rfl
  obtain ⟨lifeNext, moved, seenNext⟩ := seen.step sound steps
  have sends : sentTo (requests.channel id)
      [(.sent (requests.channel id) last : HttpSystemEvent ρ)] = [last] := by
    simp [sentTo]
  refine ⟨lifeNext, sound.step steps, seenNext, ?_, ?_, pumps⟩
  · cases moved with
    | still => exact wellFormed
    | moved lifeLabel _ owned messages lifeStep =>
        refine lifeStep.wellFormed wellFormed fun data member => ?_
        rw [← messages, sends] at member
        obtain ⟨msg, unpacks, -⟩ := isLast
        rw [List.mem_singleton.mp member, unpacks]
        rfl
  · left
    refine ⟨last, ?_, isLast⟩
    rw [← seenNext.queue]
    simp

/-- As long as the pump is not stopped, a request can be completed, wherever it
is.  One more message of the application is enough, if it is a last one:  with
it the request comes to its end by steps of its own, none of which reports a
failure, and by steps of the pump. -/
theorem request_can_finish
    {labels : List (HttpSystemLabel ρ)}
    {trace : List (HttpSystemEvent ρ)}
    (run : EventMachine.Run (step unpack requests) EventMachine.always {} labels
      trace system)
    (notStopped : system.pump.threadStop = false)
    (id : ρ)
    (wellFormed : ∀ data ∈ sentTo (requests.channel id) trace,
      (unpack data).isSome)
    {last : Bytes}
    (isLast : Life.IsLast unpack last) :
    ∃ more later final,
      EventMachine.Run (step unpack requests) (servesAlone id)
        { system with queues := system.queues.send (requests.channel id) last }
        more later final ∧
      Finished final id := by
  obtain ⟨life, ⟨-, seen⟩, lifeWellFormed⟩ :=
    life_induction id (fun _ => True) (fun data => (unpack data).isSome)
      (fun _ life => life.WellFormed unpack)
      ⟨by simp, trivial⟩
      (fun _ _ _ _ _ holds _ messages steps => steps.wellFormed holds messages)
      (fun _ _ => trivial) wellFormed run
  have sound : Sound requests system := run.preserves (Sound requests)
    sound_start fun _ _ _ _ isSound _ steps => isSound.step steps
  have running : system.pump.thread ≠ .exited := by
    intro exited
    have stopped : system.pump.threadStop = true := run.preserves
      (fun system => system.pump.thread = .exited →
        system.pump.threadStop = true) (by simp)
      (fun _ _ _ _ holds _ steps => threadStop_of_exited_step holds steps) exited
    rw [notStopped] at stopped
    contradiction
  obtain ⟨lifeNext, ready⟩ := Ready.of_send sound seen lifeWellFormed isLast
    ⟨notStopped, running⟩
  refine EventMachine.exists_run_of_descent (Finished · id)
    (fun bound state => ∃ life, Ready unpack requests state id life ∧
      rank requests state id life = bound) ?_ ⟨lifeNext, ready, rfl⟩
  rintro bound state ⟨current, isReady, rfl⟩
  rcases isReady.progress with finished |
    ⟨label, next, events, closer, alone, steps, readyNext, less⟩
  · exact .inl finished
  · exact .inr ⟨label, next, events, _, less, alone, steps, closer, readyNext, rfl⟩

/-- A request that waits for a response is answered. -/
theorem request_can_finish_sample :
    ∃ labels trace system,
      EventMachine.Run
        (step (unpackSamples [] (ascii "ok")) (sampleRequests []))
        EventMachine.always {} labels trace system ∧
      (system.handlers true).thread = .waiting ∧
      ∃ more later final,
        EventMachine.Run
          (step (unpackSamples [] (ascii "ok")) (sampleRequests []))
          (servesAlone true)
          { system with
            queues := system.queues.send ((sampleRequests []).channel true)
              (packSample (ascii "ok") false) }
          more later final ∧
        Finished final true := by
  have executes : EventMachine.checks
      (step (unpackSamples [] (ascii "ok")) (sampleRequests []))
      EventMachine.always {} (requestLabels true)
      (fun system trace => (system.handlers true).thread = .waiting ∧
        system.pump.threadStop = false ∧
        ∀ data ∈ sentTo ((sampleRequests []).channel true) trace,
          (unpackSamples [] (ascii "ok") data).isSome) = true := by
    decide +kernel
  obtain ⟨trace, system, run, waiting, notStopped, wellFormed⟩ :=
    EventMachine.Run.of_checks executes
  exact ⟨_, trace, system, run, waiting,
    request_can_finish run notStopped true wellFormed
      ⟨sampleResponse (ascii "ok") false, by decide +kernel, rfl⟩⟩

end HttpSystem

end IisAsgiHandler
