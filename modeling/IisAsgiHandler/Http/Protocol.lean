import IisAsgiHandler.Http.Interleaving

/-!
# The completion protocol

A request that has told IIS to wait has exactly one source of a future
completion, and the current step started it.  A request that has told IIS that
it is finished has none.  The abstract life of a request has this built in, so
it remains to read the sources off the system and to see that no callback of a
well-formed response throws.
-/

namespace IisAsgiHandler

/-- A source of a future completion. -/
inductive CompletionSource
  | operation (serial : Nat) (call : IisCall)
  | sendTask (task : SendTask)
  /-- A callback in the pump's map. -/
  | registered (serial : Nat)
  /-- A dispatched callback that has not posted. -/
  | callback (callback : ResponseCallback)
  | posted (serial : Nat)
  deriving DecidableEq

/-- The step that started a source. -/
def CompletionSource.startedBy : CompletionSource → Nat
  | .operation serial _ | .registered serial | .posted serial => serial
  | .sendTask task => task.serial
  | .callback started => started.serial

/-- The source that completes a request in an abstract state. -/
def Life.source (request : HttpRequest) (life : Life) : Option CompletionSource :=
  match life.phase with
  | .pending (.read body) _ =>
      some (.operation life.serial (readCall request body life.delivered))
  | .pending (.write msg) _ =>
      some (.operation life.serial (writeCall msg))
  | .pending .flush _ => some (.operation life.serial .flush)
  | .pending (.send _) _ => some (.sendTask { serial := life.serial })
  | .pending (.sent _) _ =>
      some (.sendTask { serial := life.serial, sent := true })
  | .pending (.registered _) _ => some (.registered life.serial)
  | .pending (.callback data) _ =>
      some (.callback { serial := life.serial, data := data })
  | .pending (.unpacked data _) _ =>
      some (.callback { serial := life.serial, data := data, unpacked := true })
  | .pending (.sendPosted _) _ | .pending (.responsePosted _) _ =>
      some (.posted life.serial)
  | _ => none

namespace HttpSystem

variable {ρ : Type} [DecidableEq ρ]

/-- The callbacks in the pump's map that capture a step of the request. -/
def captured (pump : ResponsePump (CapturedStep ρ)) (id : ρ) : List Nat :=
  pump.callbacks.entries.filterMap fun entry =>
    if entry.2.request = id then some entry.2.serial else none

/-- Everything that will complete a request. -/
def sources (system : HttpSystem ρ) (id : ρ) : List CompletionSource :=
  let handler := system.handlers id
  handler.operations.map (fun operation => .operation operation.1 operation.2) ++
    handler.tasks.map .sendTask ++
    (captured system.pump id).map .registered ++
    handler.callbacks.map .callback ++
    handler.posted.map .posted

/-- Only the reply channel of a request can have a callback that captures one
of its steps. -/
theorem captured_eq
    {requests : Requests ρ}
    {pump : ResponsePump (CapturedStep ρ)}
    (polling : Polling requests pump)
    (id : ρ) :
    captured pump id =
      ((pump.registered (requests.channel id)).bind fun callback =>
        if callback.request = id then some callback.serial else none).toList := by
  refine pump.filterMap_entries
    (fun callback =>
      if callback.request = id then some callback.serial else none) ?_
  intro channel callback found selected
  have isOwner : callback.request = id := by
    by_contra foreign
    simp [foreign] at selected
  rw [← isOwner]
  exact polling.owner channel callback found

/-- The sources of a request, seen from its life. -/
theorem Seen.sources
    {requests : Requests ρ}
    {system : HttpSystem ρ}
    {id : ρ}
    {life : Life}
    (polling : Polling requests system.pump)
    (seen : Seen requests system id life) :
    sources system id = (life.source (requests.request id)).toList := by
  have registered : captured system.pump id = life.registered.toList := by
    rw [captured_eq polling, seen.registered]
    cases life.registered <;> simp
  unfold HttpSystem.sources
  rw [registered, seen.handler]
  obtain ⟨phase, serial, delivered, returning, queue⟩ := life
  cases phase with
  | pending await returned => cases await <;> rfl
  | _ => rfl

end HttpSystem

/-! ## Well-formed responses -/

/-- Whatever the request has still to unpack can be unpacked, and no callback
has thrown. -/
def Life.WellFormed
    (unpack : Bytes → Option AsgiHttpResponseMsg)
    (life : Life) : Prop :=
  (∀ data ∈ life.queue, (unpack data).isSome) ∧
    match life.phase with
    | .pending (.registered (some data)) _ | .pending (.callback data) _ =>
        (unpack data).isSome = true
    | .pending .threw _ => False
    | _ => True

namespace LifeStep

variable {unpack : Bytes → Option AsgiHttpResponseMsg}
variable {request : HttpRequest}
variable {replyChannel : Bytes}
variable {life next : Life}
variable {label : LifeLabel}
variable {events : List HttpEvent}

theorem wellFormed
    (wellFormed : life.WellFormed unpack)
    (messages : ∀ data ∈ label.messages, (unpack data).isSome)
    (steps : LifeStep unpack request replyChannel life label events next) :
    next.WellFormed unpack := by
  obtain ⟨phase, serial, delivered, returning, queue⟩ := life
  obtain ⟨unpacks, inPhase⟩ := wellFormed
  cases steps with
  | message data =>
      refine ⟨?_, inPhase⟩
      intro other member
      rcases List.mem_append.mp member with earlier | last
      · exact unpacks other earlier
      · rw [List.mem_singleton.mp last]
        exact messages data List.mem_cons_self
  | pop returned data rest atPhase front =>
      simp only at front
      subst front
      exact ⟨fun other member => unpacks other (List.mem_cons_of_mem data member),
        unpacks data List.mem_cons_self⟩
  | dispatch returned data atPhase =>
      simp only at atPhase
      subst atPhase
      exact ⟨unpacks, inPhase⟩
  | callbackThrow returned data index atPhase throws =>
      simp only at atPhase
      subst atPhase
      have unpacked : (unpack data).isSome = true := inPhase
      rw [throws] at unpacked
      contradiction
  | callbackReturn => exact ⟨unpacks, inPhase⟩
  | leavePending await atPhase =>
      simp only at atPhase
      subst atPhase
      cases await with
      | registered held => cases held <;> exact ⟨unpacks, inPhase⟩
      | _ => exact ⟨unpacks, inPhase⟩
  | _ => exact ⟨unpacks, trivial⟩

/-- Nothing that happens to a request is a fault. -/
theorem faultless
    (steps : LifeStep unpack request replyChannel life label events next)
    (fault : Fault) :
    .fault fault ∉ events := by
  cases steps <;> simp [applyResponse]

end LifeStep

/-! ## The protocol -/

/-- The source of a life is started by its current step. -/
theorem Life.startedBy_of_mem_source
    {request : HttpRequest}
    {life : Life}
    {source : CompletionSource}
    (member : source ∈ life.source request) :
    source.startedBy = life.serial := by
  unfold Life.source at member
  split at member <;>
    first
      | contradiction
      | (rw [Option.mem_some_iff] at member; subst member; rfl)

/-- A life that is pending has a source, unless its callback has thrown. -/
theorem Life.source_of_pending
    {life : Life}
    {await : Await}
    {returned : Bool}
    (request : HttpRequest)
    (pending : life.phase = .pending await returned)
    (live : await ≠ .threw) :
    (life.source request).isSome := by
  obtain ⟨phase, serial, delivered, returning, queue⟩ := life
  simp only at pending
  subst pending
  cases await with
  | threw => exact absurd rfl live
  | _ => rfl

/-- In a well-formed life no callback has thrown. -/
theorem Life.WellFormed.live
    {unpack : Bytes → Option AsgiHttpResponseMsg}
    {life : Life}
    {await : Await}
    {returned : Bool}
    (wellFormed : life.WellFormed unpack)
    (pending : life.phase = .pending await returned) :
    await ≠ .threw := by
  rintro rfl
  have inPhase := wellFormed.2
  rw [pending] at inPhase
  exact inPhase

namespace HttpSystem

variable {ρ : Type} [DecidableEq ρ]

/-- A call that has returned `RQ_NOTIFICATION_PENDING` leaves exactly one
source of a completion, started by the current step; a call that has returned
`RQ_NOTIFICATION_FINISH_REQUEST` leaves none.  At all times every outstanding
source belongs to the current step, and nothing that happens to a request is a
fault. -/
theorem completion_protocol
    {unpack : Bytes → Option AsgiHttpResponseMsg}
    {requests : Requests ρ}
    {labels : List (HttpSystemLabel ρ)}
    {trace : List (HttpSystemEvent ρ)}
    {system : HttpSystem ρ}
    (run : EventMachine.Run (step unpack requests) EventMachine.always {} labels
      trace system)
    (id : ρ)
    (wellFormed : ∀ data ∈ sentTo (requests.channel id) trace,
      (unpack data).isSome) :
    ((system.handlers id).thread = .waiting →
        ∃ source, sources system id = [source] ∧
          source.startedBy = (system.handlers id).serial) ∧
      ((system.handlers id).thread = .finished → sources system id = []) ∧
      (∀ source ∈ sources system id,
        source.startedBy = (system.handlers id).serial) ∧
      ∀ fault, .fault fault ∉ requestEvents id trace := by
  obtain ⟨life, ⟨polling, seen⟩, lifeWellFormed, faultless⟩ :=
    life_induction id (fun _ => True) (fun data => (unpack data).isSome)
      (fun past life =>
        life.WellFormed unpack ∧ ∀ fault, .fault fault ∉ past.events)
      ⟨⟨by simp, trivial⟩, by simp⟩
      (fun _ _ _ _ _ ⟨holds, faultless⟩ _ messages steps =>
        ⟨steps.wellFormed holds messages, fun fault member =>
          (List.mem_append.mp member).elim (faultless fault)
            (steps.faultless fault)⟩)
      (fun _ _ => trivial) wellFormed run
  have sourcesAre := seen.sources polling
  rw [seen.handler]
  refine ⟨?_, ?_, ?_, ?_⟩
  · intro waiting
    obtain ⟨await, pending⟩ := Life.thread_waiting waiting
    have present := Life.source_of_pending (requests.request id) pending
      (lifeWellFormed.live pending)
    obtain ⟨source, isSource⟩ := Option.isSome_iff_exists.mp present
    refine ⟨source, by rw [sourcesAre, isSource]; rfl, ?_⟩
    exact Life.startedBy_of_mem_source isSource
  · intro finished
    obtain ⟨step, atPhase⟩ := Life.thread_finished finished
    rw [sourcesAre, Life.source, atPhase]
    rfl
  · intro source member
    rw [sourcesAre, Option.mem_toList] at member
    exact Life.startedBy_of_mem_source member
  · exact faultless

/-- A request waits while its callback has posted. -/
theorem completion_protocol_posted :
    ∃ labels trace system,
      EventMachine.Run
        (step (unpackSamples [] (ascii "ok")) (sampleRequests []))
        EventMachine.always {} labels trace system ∧
      (system.handlers true).thread = .waiting ∧
      ∃ source, sources system true = [source] ∧
        source.startedBy = (system.handlers true).serial := by
  have executes : EventMachine.checks
      (step (unpackSamples [] (ascii "ok")) (sampleRequests []))
      EventMachine.always {}
      (requestLabels true ++ responseLabels (sampleRequests []) true
        (packSample (ascii "ok") false))
      (fun system trace => (system.handlers true).thread = .waiting ∧
        ∀ data ∈ sentTo ((sampleRequests []).channel true) trace,
          (unpackSamples [] (ascii "ok") data).isSome) = true := by
    decide +kernel
  obtain ⟨trace, system, run, waiting, wellFormed⟩ :=
    EventMachine.Run.of_checks executes
  exact ⟨_, trace, system, run, waiting,
    (completion_protocol run true wellFormed).1 waiting⟩

end HttpSystem

end IisAsgiHandler
