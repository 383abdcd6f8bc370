import IisAsgiHandler.Library.EventMachine
import IisAsgiHandler.ResponsePump.Basic

/-!
# One subscriber of the response pump

An object registers callbacks for a channel of its own, and the pump creates
tasks for them.  Other threads register, remove and send to other channels, and
the application sends to the channel of the object.

To the object the pump and the channel layer look like one queue: the messages
sent and not handed over yet, with the one that the pump thread holds, and
whether a callback is registered.
-/

namespace IisAsgiHandler

/-- Whose callback is registered. -/
inductive PumpClient
  | subscriber
  | other
  deriving DecidableEq

/-- How an object uses the pump: its steps, the channel that one of its events
registers, and what a task for its callback changes. -/
structure Subscriber (σ ι ε : Type) where
  step : EventMachine σ ι ε
  registers : ε → Option Bytes
  receive : σ → Bytes → σ

/-- The object with the pump and the channels. -/
structure SubscriberSystem (σ : Type) where
  state : σ
  pump : ResponsePump PumpClient := {}
  queues : ChannelQueues := fun _ => []

/-- What happens next around the object. -/
inductive SubscriberLabel (ι : Type)
  | own (label : ι)
  | pump (label : PumpLabel)
  | send (channel data : Bytes)
  /-- Another thread registers a channel. -/
  | addChannel (channel : Bytes)
  /-- Another thread removes a channel. -/
  | removeChannel (channel : Bytes)
  | stopPump
  deriving DecidableEq

/-- A property of the labels of the object. -/
def SubscriberLabel.onOwn {ι : Type} (holds : ι → Bool) : SubscriberLabel ι → Bool
  | .own label => holds label
  | _ => false

/-- What the system shows. -/
inductive SubscriberEvent (ε : Type)
  | own (event : ε)
  | sent (channel data : Bytes)
  /-- The pump has created a task for the object's callback. -/
  | dispatched (data : Bytes)
  deriving DecidableEq

namespace Subscriber

variable {σ ι ε : Type}
variable (subscriber : Subscriber σ ι ε)
variable (channel : Bytes)

/-- The effect of an event of the object on the pump. -/
def register (pump : ResponsePump PumpClient) (event : ε) :
    ResponsePump PumpClient :=
  match subscriber.registers event with
  | some channel => pump.addChannel channel .subscriber
  | none => pump

/-- The object once the pump has created a task. -/
def create (state : σ) : Option (DispatchedTask PumpClient) → σ
  | some ⟨.subscriber, _, data⟩ => subscriber.receive state data
  | _ => state

/-- What a task that the pump has created shows. -/
def createdEvents : Option (DispatchedTask PumpClient) → List (SubscriberEvent ε)
  | some ⟨.subscriber, _, data⟩ => [.dispatched data]
  | _ => []

/-- What a label does to the system.  Other threads do not know the channel of
the object, whose name is random. -/
def systemStep :
    EventMachine (SubscriberSystem σ) (SubscriberLabel ι) (SubscriberEvent ε)
  | system, .own label =>
      match subscriber.step system.state label with
      | none => none
      | some (state, events) =>
          some ({ system with
              state := state
              pump := events.foldl subscriber.register system.pump },
            events.map .own)
  | system, .pump label =>
      match system.pump.threadMain system.queues label with
      | none => none
      | some result =>
          some ({
              state := subscriber.create system.state result.task
              pump := result.pump
              queues := result.queues },
            createdEvents result.task)
  | system, .send other data =>
      some ({ system with queues := system.queues.send other data },
        [.sent other data])
  | system, .addChannel other =>
      if other = channel then none
      else
        some ({ system with pump := system.pump.addChannel other .other }, [])
  | system, .removeChannel other =>
      if other = channel then none
      else some ({ system with pump := system.pump.removeChannel other }, [])
  | system, .stopPump =>
      some ({ system with
        pump := { system.pump with threadStop := true } }, [])

end Subscriber

/-- A property of the events of the object. -/
def SubscriberEvent.onOwn {ε : Type} (holds : ε → Bool) : SubscriberEvent ε → Bool
  | .own event => holds event
  | _ => false

/-- A step of the object is one of its own machine. -/
theorem Subscriber.systemStep_own
    {σ ι ε : Type}
    {subscriber : Subscriber σ ι ε}
    {channel : Bytes}
    {system next : SubscriberSystem σ}
    {label : ι}
    {events : List (SubscriberEvent ε)}
    (steps : subscriber.systemStep channel system (.own label) =
      some (next, events)) :
    ∃ shown, subscriber.step system.state label = some (next.state, shown) ∧
      events = shown.map .own := by
  simp only [Subscriber.systemStep] at steps
  split at steps
  · contradiction
  · rename_i state shown ownSteps
    simp only [Option.some.injEq, Prod.mk.injEq] at steps
    obtain ⟨rfl, rfl⟩ := steps
    exact ⟨shown, ownSteps, rfl⟩

/-- Other steps show no event of the object. -/
theorem Subscriber.systemStep_other
    {σ ι ε : Type}
    {subscriber : Subscriber σ ι ε}
    {channel : Bytes}
    {system next : SubscriberSystem σ}
    {label : SubscriberLabel ι}
    {events : List (SubscriberEvent ε)}
    (other : ∀ own, label ≠ .own own)
    (steps : subscriber.systemStep channel system label = some (next, events))
    (holds : ε → Bool) :
    ∀ event ∈ events, SubscriberEvent.onOwn holds event = false := by
  cases label with
  | own label => exact absurd rfl (other label)
  | pump label =>
      simp only [Subscriber.systemStep] at steps
      split at steps
      · contradiction
      · rename_i result pumpSteps
        simp only [Option.some.injEq, Prod.mk.injEq] at steps
        obtain ⟨rfl, rfl⟩ := steps
        intro event member
        unfold Subscriber.createdEvents at member
        split at member
        · rw [List.mem_singleton.mp member]
          rfl
        · contradiction
  | send named data =>
      cases steps
      intro event member
      rw [List.mem_singleton.mp member]
      rfl
  | addChannel named | removeChannel named =>
      simp only [Subscriber.systemStep] at steps
      split at steps
      · contradiction
      · cases steps
        simp
  | stopPump =>
      cases steps
      simp

/-! ## Traces -/

/-- The events of the object. -/
def ownEvents {ε : Type} (trace : List (SubscriberEvent ε)) : List ε :=
  trace.filterMap fun
    | .own event => some event
    | _ => none

/-- The messages sent to a channel. -/
def sentToChannel {ε : Type} (channel : Bytes) (trace : List (SubscriberEvent ε)) :
    List Bytes :=
  trace.filterMap fun
    | .sent other data => if other = channel then some data else none
    | _ => none

/-- The messages that the object's callbacks have been given. -/
def dispatchedData {ε : Type} (trace : List (SubscriberEvent ε)) : List Bytes :=
  trace.filterMap fun
    | .dispatched data => some data
    | _ => none

@[simp] theorem ownEvents_append
    {ε : Type}
    (first second : List (SubscriberEvent ε)) :
    ownEvents (first ++ second) = ownEvents first ++ ownEvents second :=
  List.filterMap_append

@[simp] theorem sentToChannel_append
    {ε : Type}
    (channel : Bytes)
    (first second : List (SubscriberEvent ε)) :
    sentToChannel channel (first ++ second) =
      sentToChannel channel first ++ sentToChannel channel second :=
  List.filterMap_append

@[simp] theorem dispatchedData_append
    {ε : Type}
    (first second : List (SubscriberEvent ε)) :
    dispatchedData (first ++ second) =
      dispatchedData first ++ dispatchedData second :=
  List.filterMap_append

@[simp] theorem ownEvents_own {ε : Type} (events : List ε) :
    ownEvents (events.map SubscriberEvent.own) = events := by
  simp [ownEvents]

@[simp] theorem sentToChannel_own {ε : Type} (channel : Bytes) (events : List ε) :
    sentToChannel channel (events.map SubscriberEvent.own) = [] := by
  simp [sentToChannel]

@[simp] theorem dispatchedData_own {ε : Type} (events : List ε) :
    dispatchedData (events.map SubscriberEvent.own) = [] := by
  simp [dispatchedData]

/-! ## What the object sees -/

/-- The pump and the channel layer, seen through one channel. -/
structure ChannelView where
  registered : Bool
  /-- The message that the pump thread holds. -/
  held : Option Bytes
  queue : List Bytes
  deriving DecidableEq

namespace SubscriberSystem

variable {σ ι ε : Type}

/-- The message of a channel that the pump thread holds. -/
def heldBy (thread : PumpThread) (channel : Bytes) : Option Bytes :=
  match thread with
  | .received other data => if other = channel then some data else none
  | _ => none

/-- What is seen of a channel. -/
def view (channel : Bytes) (system : SubscriberSystem σ) : ChannelView where
  registered := (system.pump.registered channel).isSome
  held := heldBy system.pump.thread channel
  queue := system.queues channel

/-- What the pump polls or holds for the channel is registered, and the
channel is the only one of the object. -/
structure Polled (channel : Bytes) (pump : ResponsePump PumpClient) : Prop where
  polled : ∀ channelNames, pump.thread = .receiving channelNames →
    channel ∈ channelNames → (pump.registered channel).isSome
  received : ∀ data, pump.thread = .received channel data →
    (pump.registered channel).isSome
  owner : ∀ client, pump.registered channel = some client →
    client = .subscriber
  single : ∀ other, pump.registered other = some .subscriber → other = channel

theorem polled_empty (channel : Bytes) : Polled channel {} where
  polled := by simp
  received := by simp
  owner := by simp
  single := by simp

/-- What a step of the system is to the object. -/
inductive Moved
    (subscriber : Subscriber σ ι ε)
    (channel : Bytes)
    (state : σ)
    (view : ChannelView) :
    SubscriberLabel ι → σ → ChannelView → List (SubscriberEvent ε) → Prop
  | own (label : ι) (next : σ) (events : List ε) {viewNext : ChannelView}
      (steps : subscriber.step state label = some (next, events))
      (seen : viewNext = { view with
        registered := view.registered ||
          events.any fun event => (subscriber.registers event).isSome }) :
      Moved subscriber channel state view (.own label) next viewNext
        (events.map .own)
  | dispatched (data : Bytes) (label : PumpLabel) {viewNext : ChannelView}
      (registered : view.registered = true)
      (held : view.held = some data)
      (seen : viewNext = { view with registered := false, held := none }) :
      Moved subscriber channel state view (.pump label)
        (subscriber.receive state data) viewNext [.dispatched data]
  | popped (data : Bytes) (rest : List Bytes) (label : PumpLabel)
      {viewNext : ChannelView}
      (registered : view.registered = true)
      (held : view.held = none)
      (queue : view.queue = data :: rest)
      (seen : viewNext = { view with held := some data, queue := rest }) :
      Moved subscriber channel state view (.pump label) state viewNext []
  | sent (data : Bytes) {viewNext : ChannelView}
      (seen : viewNext = { view with queue := view.queue ++ [data] }) :
      Moved subscriber channel state view (.send channel data) state viewNext
        [.sent channel data]
  | quiet (label : SubscriberLabel ι) (events : List (SubscriberEvent ε))
      (notOwn : ∀ own, label ≠ .own own)
      (silent : ownEvents events = [])
      (notSent : sentToChannel channel events = [])
      (notDispatched : dispatchedData events = []) :
      Moved subscriber channel state view label state view events

variable {subscriber : Subscriber σ ι ε}
variable {channel : Bytes}
variable {pump : ResponsePump PumpClient}

/-- The pump after events that register no channel but the object's. -/
theorem foldl_register
    (pump : ResponsePump PumpClient)
    (events : List ε)
    (own : ∀ event ∈ events, ∀ other, subscriber.registers event = some other →
      other = channel) :
    (events.foldl subscriber.register pump).thread = pump.thread ∧
      (events.foldl subscriber.register pump).registered =
        if events.any fun event => (subscriber.registers event).isSome then
          Function.update pump.registered channel (some .subscriber)
        else pump.registered := by
  induction events generalizing pump with
  | nil => exact ⟨rfl, rfl⟩
  | cons event events inductionHypothesis =>
      obtain ⟨thread, registered⟩ := inductionHypothesis
        (subscriber.register pump event)
        fun later member => own later (List.mem_cons_of_mem event member)
      rw [List.foldl_cons, thread, registered, List.any_cons]
      cases registers : subscriber.registers event with
      | none =>
          have same : subscriber.register pump event = pump := by
            rw [Subscriber.register, registers]
          rw [same]
          exact ⟨rfl, by simp⟩
      | some other =>
          obtain rfl := own event List.mem_cons_self other registers
          have added : subscriber.register pump event =
              pump.addChannel other .subscriber := by
            rw [Subscriber.register, registers]
          rw [added, ResponsePump.registered_addChannel_eq]
          refine ⟨rfl, ?_⟩
          simp [Function.update_idem]

/-- Steps of the object keep what the pump polls registered. -/
theorem Polled.own
    (polled : Polled channel pump)
    (events : List ε)
    (own : ∀ event ∈ events, ∀ other, subscriber.registers event = some other →
      other = channel) :
    Polled channel (events.foldl subscriber.register pump) := by
  obtain ⟨thread, registered⟩ := foldl_register pump events own
  split at registered
  · refine ⟨?_, ?_, ?_, ?_⟩
    · intro channelNames _ _
      simp [registered]
    · intro data _
      simp [registered]
    · intro client found
      rw [registered, Function.update_self, Option.some.injEq] at found
      exact found.symm
    · intro other found
      by_contra different
      rw [registered, Function.update_of_ne different] at found
      exact different (polled.single other found)
  · refine ⟨?_, ?_, ?_, ?_⟩
    · rw [thread, registered]
      exact polled.polled
    · rw [thread, registered]
      exact polled.received
    · rw [registered]
      exact polled.owner
    · rw [registered]
      exact polled.single

/-- Other threads do not touch the channel. -/
theorem Polled.update_other
    {next : ResponsePump PumpClient}
    {other : Bytes}
    {client : Option PumpClient}
    (polled : Polled channel pump)
    (different : other ≠ channel)
    (notOwn : client ≠ some .subscriber)
    (thread : next.thread = pump.thread)
    (registered : next.registered = Function.update pump.registered other client) :
    Polled channel next := by
  have same : next.registered channel = pump.registered channel := by
    rw [registered, Function.update_of_ne different.symm]
  refine ⟨?_, ?_, ?_, ?_⟩
  · rw [thread, same]
    exact polled.polled
  · rw [thread, same]
    exact polled.received
  · rw [same]
    exact polled.owner
  · intro named found
    by_cases equal : named = other
    · rw [registered, equal, Function.update_self] at found
      exact absurd found notOwn
    · rw [registered, Function.update_of_ne equal] at found
      exact polled.single named found

/-- Steps of the pump thread poll what is registered. -/
theorem Polled.threadMain
    {queues : ChannelQueues}
    {label : PumpLabel}
    {result : PumpStep PumpClient}
    (polled : Polled channel pump)
    (stepped : ResponsePump.Stepped pump queues label result) :
    Polled channel result.pump := by
  cases stepped with
  | exit | idle | nothing | drop =>
      exact ⟨by simp_all, by simp_all, polled.owner, polled.single⟩
  | discard => exact ⟨by simp, by simp, polled.owner, polled.single⟩
  | snapshot atHead =>
      refine ⟨?_, by simp, polled.owner, polled.single⟩
      intro channelNames waiting member
      obtain rfl := PumpThread.receiving.inj waiting
      exact (pump.mem_keys_iff channel).mp member
  | receive channelNames other data rest waiting offered =>
      refine ⟨by simp, ?_, polled.owner, polled.single⟩
      intro ownData holding
      obtain ⟨rfl, rfl⟩ := PumpThread.received.inj holding
      exact polled.polled channelNames waiting offered
  | dispatch other data client holding found =>
      have registered := pump.registered_removeChannel_eq other
      refine ⟨by simp, by simp, ?_, ?_⟩
      · intro ownClient ownFound
        change (pump.removeChannel other).registered channel = _ at ownFound
        rw [registered, Function.update_apply] at ownFound
        split at ownFound
        · contradiction
        · exact polled.owner ownClient ownFound
      · intro named ownFound
        change (pump.removeChannel other).registered named = _ at ownFound
        rw [registered, Function.update_apply] at ownFound
        split at ownFound
        · contradiction
        · exact polled.single named ownFound

theorem heldBy_self (channel data : Bytes) :
    heldBy (.received channel data) channel = some data := by
  rw [heldBy, if_pos rfl]

/-- What a step of the pump thread is to the object. -/
theorem moved_pump
    {system : SubscriberSystem σ}
    {label : PumpLabel}
    {result : PumpStep PumpClient}
    (nonempty : channel ≠ [])
    (polled : Polled channel system.pump)
    (stepped : ResponsePump.Stepped system.pump system.queues label result) :
    Moved subscriber channel system.state (system.view channel)
      (.pump label) (subscriber.create system.state result.task)
      (view channel {
        state := subscriber.create system.state result.task
        pump := result.pump
        queues := result.queues })
      (Subscriber.createdEvents result.task) := by
  have quiet : ∀ next : ChannelView, next = system.view channel →
      Moved subscriber channel system.state (system.view channel)
        (.pump label) system.state next [] := by
    rintro _ rfl
    exact .quiet _ _ (by simp) rfl rfl rfl
  cases stepped with
  | exit atHead =>
      apply quiet
      simp [view, ResponsePump.registered, heldBy, atHead]
  | idle atHead =>
      apply quiet
      simp [view]
  | snapshot atHead =>
      apply quiet
      simp [view, ResponsePump.registered, heldBy, atHead]
  | nothing channelNames waiting =>
      apply quiet
      simp [view, ResponsePump.registered, heldBy, waiting]
  | discard channelNames data rest waiting offered front =>
      apply quiet
      simp [view, ResponsePump.registered, heldBy, waiting,
        Function.update_of_ne nonempty]
  | receive channelNames other data rest waiting offered front =>
      by_cases same : other = channel
      · subst same
        have registered := polled.polled channelNames waiting offered
        refine .popped data rest _ registered ?_ front ?_
        · simp [view, heldBy, waiting]
        · simp [view, ResponsePump.registered, heldBy_self]
      · apply quiet
        simp [view, ResponsePump.registered, heldBy, waiting, same,
          Function.update_of_ne (Ne.symm same)]
  | dispatch other data client holding found =>
      by_cases same : other = channel
      · subst same
        obtain rfl := polled.owner client found
        have removed := system.pump.registered_removeChannel other
        rw [ResponsePump.registered] at removed
        refine .dispatched data _ ?_ ?_ ?_
        · rw [view, found]
          rfl
        · rw [view, holding, heldBy_self]
        · simp [view, ResponsePump.registered, heldBy, removed]
      · cases client with
        | subscriber => exact absurd (polled.single other found) same
        | other =>
            apply quiet
            have kept := system.pump.registered_removeChannel_ne
              (Ne.symm same)
            rw [ResponsePump.registered, ResponsePump.registered] at kept
            simp [view, ResponsePump.registered, heldBy, holding, same, kept]
  | drop other data holding missing =>
      apply quiet
      have different : other ≠ channel := by
        rintro rfl
        have registered := polled.received data holding
        rw [missing] at registered
        contradiction
      simp [view, ResponsePump.registered, heldBy, holding, different]

variable {system next : SubscriberSystem σ}
variable {label : SubscriberLabel ι}
variable {events : List (SubscriberEvent ε)}

/-- Every step of the system is one of these to the object, when the object
registers its own channel only. -/
theorem step_moved
    (nonempty : channel ≠ [])
    (polled : Polled channel system.pump)
    (own : ∀ ownLabel state shown,
      subscriber.step system.state ownLabel = some (state, shown) →
        ∀ event ∈ shown, ∀ other, subscriber.registers event = some other →
          other = channel)
    (steps : subscriber.systemStep channel system label = some (next, events)) :
    Polled channel next.pump ∧
      Moved subscriber channel system.state (system.view channel) label
        next.state (next.view channel) events := by
  cases label with
  | own label =>
      simp only [Subscriber.systemStep] at steps
      split at steps
      · contradiction
      · rename_i state shown ownSteps
        simp only [Option.some.injEq, Prod.mk.injEq] at steps
        obtain ⟨rfl, rfl⟩ := steps
        have registers := own label state shown ownSteps
        obtain ⟨thread, registered⟩ :=
          foldl_register system.pump shown registers
        refine ⟨polled.own shown registers, .own label state shown ownSteps ?_⟩
        simp only [view, thread, registered]
        split
        · rename_i some
          simp [some]
        · rename_i none
          simp [none]
  | pump label =>
      simp only [Subscriber.systemStep] at steps
      split at steps
      · contradiction
      · rename_i result pumpSteps
        simp only [Option.some.injEq, Prod.mk.injEq] at steps
        obtain ⟨rfl, rfl⟩ := steps
        have stepped := ResponsePump.threadMain_stepped pumpSteps
        exact ⟨polled.threadMain stepped, moved_pump nonempty polled stepped⟩
  | send other data =>
      simp only [Subscriber.systemStep, Option.some.injEq,
        Prod.mk.injEq] at steps
      obtain ⟨rfl, rfl⟩ := steps
      refine ⟨polled, ?_⟩
      by_cases same : other = channel
      · subst same
        exact .sent data (by simp [view])
      · have seen : view channel { system with
            queues := system.queues.send other data } = system.view channel := by
          simp [view, ChannelQueues.send_ne _ _ (Ne.symm same)]
        rw [seen]
        exact .quiet _ _ (by simp) rfl (by simp [sentToChannel, same]) rfl
  | addChannel other =>
      simp only [Subscriber.systemStep] at steps
      split at steps
      · contradiction
      · rename_i different
        simp only [Option.some.injEq, Prod.mk.injEq] at steps
        obtain ⟨rfl, rfl⟩ := steps
        refine ⟨polled.update_other different (by simp) rfl
          (system.pump.registered_addChannel_eq other .other), ?_⟩
        have seen : view channel { system with
            pump := system.pump.addChannel other .other } =
            system.view channel := by
          simp [view, system.pump.registered_addChannel_ne .other
            (Ne.symm different)]
        rw [seen]
        exact .quiet _ _ (by simp) rfl rfl rfl
  | removeChannel other =>
      simp only [Subscriber.systemStep] at steps
      split at steps
      · contradiction
      · rename_i different
        simp only [Option.some.injEq, Prod.mk.injEq] at steps
        obtain ⟨rfl, rfl⟩ := steps
        refine ⟨polled.update_other different (by simp) rfl
          (system.pump.registered_removeChannel_eq other), ?_⟩
        have seen : view channel { system with
            pump := system.pump.removeChannel other } =
            system.view channel := by
          simp [view, system.pump.registered_removeChannel_ne
            (Ne.symm different)]
        rw [seen]
        exact .quiet _ _ (by simp) rfl rfl rfl
  | stopPump =>
      simp only [Subscriber.systemStep, Option.some.injEq,
        Prod.mk.injEq] at steps
      obtain ⟨rfl, rfl⟩ := steps
      exact ⟨⟨polled.polled, polled.received, polled.owner, polled.single⟩,
        .quiet _ _ (by simp) rfl rfl rfl⟩

/-- A law of the object and of what it sees, kept by every step, holds
throughout every run. -/
theorem run_law
    {good : σ → SubscriberLabel ι → Prop}
    {start : SubscriberSystem σ}
    {labels : List (SubscriberLabel ι)}
    {trace : List (SubscriberEvent ε)}
    (law : List (SubscriberEvent ε) → σ → ChannelView → Prop)
    (nonempty : channel ≠ [])
    (polled : Polled channel start.pump)
    (initially : law [] start.state (start.view channel))
    (own : ∀ trace state view ownLabel stateNext shown, law trace state view →
      subscriber.step state ownLabel = some (stateNext, shown) →
        ∀ event ∈ shown, ∀ other, subscriber.registers event = some other →
          other = channel)
    (kept : ∀ trace state view label stateNext viewNext events,
      law trace state view → good state label →
      Moved subscriber channel state view label stateNext viewNext events →
      law (trace ++ events) stateNext viewNext)
    (run : EventMachine.Run (subscriber.systemStep channel)
      (fun system label => good system.state label) start labels trace system) :
    Polled channel system.pump ∧
      law trace system.state (system.view channel) := by
  exact run.preserves_trace
    (fun trace system => Polled channel system.pump ∧
      law trace system.state (system.view channel))
    ⟨polled, initially⟩
    (by
      rintro trace system label next events ⟨polled, holds⟩ isGood steps
      obtain ⟨polledNext, moved⟩ := step_moved nonempty polled
        (fun ownLabel state shown ownSteps =>
          own trace system.state _ ownLabel state shown holds ownSteps) steps
      exact ⟨polledNext, kept _ _ _ _ _ _ _ holds isGood moved⟩)

/-- Every message sent has been handed over, is held, or waits. -/
def Accounts
    (channel : Bytes)
    (trace : List (SubscriberEvent ε))
    (view : ChannelView) : Prop :=
  sentToChannel channel trace =
    dispatchedData trace ++ (view.held.toList ++ view.queue)

theorem Accounts.moved
    {state stateNext : σ}
    {seen viewNext : ChannelView}
    {trace : List (SubscriberEvent ε)}
    (accounts : Accounts channel trace seen)
    (moved : Moved subscriber channel state seen label stateNext viewNext
      events) :
    Accounts channel (trace ++ events) viewNext := by
  rw [Accounts, sentToChannel_append, dispatchedData_append, accounts]
  cases moved with
  | own label next shown steps seen => simp [seen]
  | dispatched data label registered held seen =>
      simp [seen, held, sentToChannel, dispatchedData]
  | popped data rest label registered held queue seen =>
      simp [seen, held, queue, sentToChannel, dispatchedData]
  | sent data seen => simp [seen, sentToChannel, dispatchedData]
  | quiet label events notOwn silent notSent notDispatched =>
      simp [notSent, notDispatched]

end SubscriberSystem

end IisAsgiHandler
