import IisAsgiHandler.Library.EventMachine
import IisAsgiHandler.ResponsePump.Basic

/-!
# The response pump among other threads

The pump thread runs while other threads call `AddChannel` and `RemoveChannel`
on any channels, applications send messages, and the tasks that the pump has
created invoke their callbacks in any order.

Every `AddChannel` call and every popped message has a number of its own, so
the laws of delivery can be read off the events of a run: each event is
justified by the events before it.
-/

namespace IisAsgiHandler

/-- A message that `ReceiveMany` has popped. -/
structure PoppedMessage where
  number : Nat
  channel : Bytes
  data : Bytes
  deriving DecidableEq

/-- A task that the pump has created, with the message it hands over and the
number of the `AddChannel` call that registered its callback. -/
structure PumpTask (κ : Type) where
  message : PoppedMessage
  registration : Nat
  callback : κ
  deriving DecidableEq

/-- What happens around the pump. -/
inductive PumpEvent (κ : Type)
  | addChannel (channel : Bytes) (registration : Nat) (callback : κ)
  | removeChannel (channel : Bytes)
  | sent (channel data : Bytes)
  | snapshot
  | popped (message : PoppedMessage)
  | dispatched (task : PumpTask κ)
  /-- The lookup has found no callback. -/
  | dropped (message : PoppedMessage)
  | invoked (task : PumpTask κ)
  deriving DecidableEq

/-- What happens next around the pump. -/
inductive PumpSystemLabel (κ : Type)
  | addChannel (channel : Bytes) (callback : κ)
  | removeChannel (channel : Bytes)
  | send (channel data : Bytes)
  | pump (label : PumpLabel)
  | invoke (index : Nat)
  | stop
  deriving DecidableEq

/-- The pump among other threads. -/
structure PumpSystem (κ : Type) where
  pump : ResponsePump (Nat × κ) := {}
  queues : ChannelQueues := fun _ => []
  /-- Number of `AddChannel` calls made so far. -/
  registrations : Nat := 0
  /-- Number of messages popped so far, which names the last of them. -/
  popped : Nat := 0
  /-- The tasks that have not run yet. -/
  tasks : List (PumpTask κ) := []

namespace PumpSystem

variable {κ : Type}

/-- The task that hands over the message popped last. -/
def task (system : PumpSystem κ) (created : DispatchedTask (Nat × κ)) : PumpTask κ where
  message := ⟨system.popped, created.channel, created.data⟩
  registration := created.callback.1
  callback := created.callback.2

/-- Number of messages that a step of the pump thread pops. -/
def pops : PumpLabel → Nat
  | .receiveMany (some _) => 1
  | _ => 0

/-- What a step of the pump thread shows. -/
def pumpEvents
    (system : PumpSystem κ)
    (result : PumpStep (Nat × κ)) : PumpLabel → List (PumpEvent κ)
  | .snapshot =>
      match result.pump.thread with
      | .receiving _ => [.snapshot]
      | _ => []
  | .receiveMany none => []
  | .receiveMany (some channel) =>
      (system.queues channel).head?.toList.map fun data =>
        .popped ⟨system.popped + 1, channel, data⟩
  | .dispatch =>
      match system.pump.thread, result.task with
      | .received _ _, some created => [.dispatched (system.task created)]
      | .received channel data, none => [.dropped ⟨system.popped, channel, data⟩]
      | _, _ => []

/-- What a label does. -/
def step : EventMachine (PumpSystem κ) (PumpSystemLabel κ) (PumpEvent κ)
  | system, .addChannel channel callback =>
      some ({ system with
          pump := system.pump.addChannel channel
            (system.registrations, callback)
          registrations := system.registrations + 1 },
        [.addChannel channel system.registrations callback])
  | system, .removeChannel channel =>
      some ({ system with pump := system.pump.removeChannel channel },
        [.removeChannel channel])
  | system, .send channel data =>
      some ({ system with queues := system.queues.send channel data },
        [.sent channel data])
  | system, .pump label =>
      match system.pump.threadMain system.queues label with
      | none => none
      | some result =>
          some ({ system with
              pump := result.pump
              queues := result.queues
              popped := system.popped + pops label
              tasks := system.tasks ++ result.task.toList.map system.task },
            system.pumpEvents result label)
  | system, .invoke index =>
      match system.tasks[index]? with
      | none => none
      | some task =>
          some ({ system with tasks := system.tasks.eraseIdx index },
            [.invoked task])
  | system, .stop =>
      some ({ system with
        pump := { system.pump with threadStop := true } }, [])

/-! ## What a step can do -/

/-- The cases of one step. -/
inductive Moved (system : PumpSystem κ) :
    PumpSystem κ → List (PumpEvent κ) → Prop
  /-- The thread sleeps, leaves the loop, or has received nothing; or it is
  told to stop. -/
  | quiet (pump : ResponsePump (Nat × κ)) :
      pump.callbacks = system.pump.callbacks →
      (pump.thread = system.pump.thread ∨
        ((pump.thread = .loopHead ∨ pump.thread = .exited) ∧
          ∀ channel data, system.pump.thread ≠ .received channel data)) →
      Moved system { system with pump := pump } []
  | addChannel (channel : Bytes) (callback : κ) :
      Moved system { system with
          pump := system.pump.addChannel channel
            (system.registrations, callback)
          registrations := system.registrations + 1 }
        [.addChannel channel system.registrations callback]
  | removeChannel (channel : Bytes) :
      Moved system { system with pump := system.pump.removeChannel channel }
        [.removeChannel channel]
  | send (channel data : Bytes) :
      Moved system { system with queues := system.queues.send channel data }
        [.sent channel data]
  | snapshot :
      system.pump.thread = .loopHead →
      Moved system { system with
          pump := { system.pump with
            thread := .receiving system.pump.callbacks.keys } }
        [.snapshot]
  | receive (channelNames : List Bytes) (channel data : Bytes)
      (rest : List Bytes) (thread : PumpThread) :
      system.pump.thread = .receiving channelNames →
      channel ∈ channelNames →
      system.queues channel = data :: rest →
      (thread = .received channel data ∧ channel ≠ [] ∨
        thread = .loopHead ∧ channel = []) →
      Moved system { system with
          pump := { system.pump with thread := thread }
          queues := Function.update system.queues channel rest
          popped := system.popped + 1 }
        [.popped ⟨system.popped + 1, channel, data⟩]
  | dispatch (channel data : Bytes) (registration : Nat) (callback : κ) :
      system.pump.thread = .received channel data →
      system.pump.registered channel = some (registration, callback) →
      Moved system { system with
          pump := { system.pump.removeChannel channel with thread := .loopHead }
          tasks := system.tasks ++
            [⟨⟨system.popped, channel, data⟩, registration, callback⟩] }
        [.dispatched ⟨⟨system.popped, channel, data⟩, registration, callback⟩]
  | drop (channel data : Bytes) :
      system.pump.thread = .received channel data →
      system.pump.registered channel = none →
      Moved system { system with
          pump := { system.pump with thread := .loopHead } }
        [.dropped ⟨system.popped, channel, data⟩]
  | invoke (index : Nat) (task : PumpTask κ) :
      system.tasks[index]? = some task →
      Moved system { system with tasks := system.tasks.eraseIdx index }
        [.invoked task]

theorem moved_pump
    {system : PumpSystem κ}
    {label : PumpLabel}
    {result : PumpStep (Nat × κ)}
    (stepped : ResponsePump.Stepped system.pump system.queues label result) :
    Moved system { system with
        pump := result.pump
        queues := result.queues
        popped := system.popped + pops label
        tasks := system.tasks ++ result.task.toList.map system.task }
      (system.pumpEvents result label) := by
  cases stepped with
  | exit atHead stop =>
      simp only [Option.toList_none, List.map_nil, List.append_nil]
      exact .quiet _ rfl (.inr ⟨.inr rfl, by simp [atHead]⟩)
  | idle atHead =>
      simp only [pumpEvents, atHead, Option.toList_none, List.map_nil,
        List.append_nil]
      exact .quiet _ rfl (.inl rfl)
  | snapshot atHead =>
      simp only [Option.toList_none, List.map_nil, List.append_nil]
      exact .snapshot atHead
  | nothing channelNames waiting =>
      simp only [Option.toList_none, List.map_nil, List.append_nil]
      exact .quiet _ rfl (.inr ⟨.inl rfl, by simp [waiting]⟩)
  | receive channelNames channel data rest waiting polled front nonempty =>
      simp only [pumpEvents, front, Option.toList_none, List.map_nil,
        List.append_nil]
      exact .receive channelNames channel data rest _ waiting polled front
        (.inl ⟨rfl, nonempty⟩)
  | discard channelNames data rest waiting polled front =>
      simp only [pumpEvents, front, Option.toList_none, List.map_nil,
        List.append_nil]
      exact .receive channelNames [] data rest _ waiting polled front
        (.inr ⟨rfl, rfl⟩)
  | dispatch channel data callback holding found =>
      simp only [pumpEvents, holding]
      exact .dispatch channel data callback.1 callback.2 holding found
  | drop channel data holding missing =>
      simp only [pumpEvents, holding, Option.toList_none, List.map_nil,
        List.append_nil]
      exact .drop channel data holding missing

/-- Every step is one of these cases. -/
theorem step_moved
    {system next : PumpSystem κ}
    {label : PumpSystemLabel κ}
    {events : List (PumpEvent κ)}
    (steps : step system label = some (next, events)) :
    Moved system next events := by
  cases label with
  | addChannel channel callback =>
      cases steps
      exact .addChannel channel callback
  | removeChannel channel =>
      cases steps
      exact .removeChannel channel
  | send channel data =>
      cases steps
      exact .send channel data
  | pump label =>
      simp only [step] at steps
      split at steps
      · contradiction
      · rename_i result pumpSteps
        cases steps
        exact moved_pump (ResponsePump.threadMain_stepped pumpSteps)
  | invoke index =>
      simp only [step] at steps
      split at steps
      · contradiction
      · rename_i task found
        cases steps
        exact .invoke index task found
  | stop =>
      cases steps
      exact .quiet _ rfl (.inl rfl)

end PumpSystem

/-! ## Reading the events -/

namespace PumpEvent

variable {κ : Type}

/-- The effect of an event on the registrations. -/
def register
    (registered : Bytes → Option (Nat × κ)) :
    PumpEvent κ → Bytes → Option (Nat × κ)
  | .addChannel channel registration callback =>
      Function.update registered channel (some (registration, callback))
  | .removeChannel channel => Function.update registered channel none
  | .dispatched task => Function.update registered task.message.channel none
  | _ => registered

/-- The callback that is registered for a channel after some events, with the
number of its registration. -/
def registeredAfter (trace : List (PumpEvent κ)) : Bytes → Option (Nat × κ) :=
  trace.foldl register fun _ => none

/-- The events since the last snapshot satisfy one condition, and those before
it another. -/
def SinceSnapshot
    (trace : List (PumpEvent κ))
    (condition : List (PumpEvent κ) → List (PumpEvent κ) → Prop) : Prop :=
  ∃ before after, trace = before ++ .snapshot :: after ∧
    .snapshot ∉ after ∧ condition before after

/-- The messages popped. -/
def poppedMessages (trace : List (PumpEvent κ)) : List PoppedMessage :=
  trace.filterMap fun
    | .popped message => some message
    | _ => none

/-- The messages sent to a channel. -/
def sentOn (channel : Bytes) (trace : List (PumpEvent κ)) : List Bytes :=
  trace.filterMap fun
    | .sent other data => if other = channel then some data else none
    | _ => none

/-- The tasks that the pump has created. -/
def dispatchedTasks (trace : List (PumpEvent κ)) : List (PumpTask κ) :=
  trace.filterMap fun
    | .dispatched task => some task
    | _ => none

/-- The tasks that have invoked their callbacks. -/
def invokedTasks (trace : List (PumpEvent κ)) : List (PumpTask κ) :=
  trace.filterMap fun
    | .invoked task => some task
    | _ => none

/-- The messages that the pump has looked a callback up for. -/
def handledMessages (trace : List (PumpEvent κ)) : List PoppedMessage :=
  trace.filterMap fun
    | .dispatched task => some task.message
    | .dropped message => some message
    | _ => none

/-- The laws of delivery.  A message is popped from a channel that was
registered when the snapshot was taken.  It is handed to the callback that is
registered for its channel at the lookup, and to no other; it is dropped only
if its channel has been removed since the snapshot.  A callback is invoked at
most once for each `AddChannel` call. -/
def DeliveryLaw (past : List (PumpEvent κ)) : PumpEvent κ → Prop
  | .addChannel _ registration _ =>
      ∀ channel callback, .addChannel channel registration callback ∉ past
  | .popped message =>
      SinceSnapshot past (fun before _ =>
        (registeredAfter before message.channel).isSome) ∧
      ∀ other ∈ poppedMessages past, other.number ≠ message.number
  | .dispatched task =>
      task.message ∈ poppedMessages past ∧
      registeredAfter past task.message.channel =
        some (task.registration, task.callback) ∧
      task.message ∉ handledMessages past
  | .dropped message =>
      message ∈ poppedMessages past ∧
      SinceSnapshot past (fun _ after =>
        .removeChannel message.channel ∈ after) ∧
      message ∉ handledMessages past
  | .invoked task =>
      task ∈ dispatchedTasks past ∧
      ∀ other ∈ invokedTasks past,
        other.message ≠ task.message ∧ other.registration ≠ task.registration
  | _ => True

/-- A channel is registered again only after every callback that has been
given a message of it has been invoked. -/
def ReregistersLater (past : List (PumpEvent κ)) : PumpEvent κ → Prop
  | .addChannel channel _ _ =>
      ∀ task ∈ dispatchedTasks past, task.message.channel = channel →
        task ∈ invokedTasks past
  | _ => True

@[simp] theorem poppedMessages_append (trace events : List (PumpEvent κ)) :
    poppedMessages (trace ++ events) =
      poppedMessages trace ++ poppedMessages events :=
  List.filterMap_append

@[simp] theorem sentOn_append
    (channel : Bytes)
    (trace events : List (PumpEvent κ)) :
    sentOn channel (trace ++ events) =
      sentOn channel trace ++ sentOn channel events :=
  List.filterMap_append

@[simp] theorem dispatchedTasks_append (trace events : List (PumpEvent κ)) :
    dispatchedTasks (trace ++ events) =
      dispatchedTasks trace ++ dispatchedTasks events :=
  List.filterMap_append

@[simp] theorem invokedTasks_append (trace events : List (PumpEvent κ)) :
    invokedTasks (trace ++ events) = invokedTasks trace ++ invokedTasks events :=
  List.filterMap_append

@[simp] theorem handledMessages_append (trace events : List (PumpEvent κ)) :
    handledMessages (trace ++ events) =
      handledMessages trace ++ handledMessages events :=
  List.filterMap_append

@[simp] theorem registeredAfter_append
    (trace : List (PumpEvent κ))
    (event : PumpEvent κ) :
    registeredAfter (trace ++ [event]) = register (registeredAfter trace) event := by
  simp [registeredAfter]

/-- A condition on what comes before the last snapshot and after it is kept by
an event that is no snapshot. -/
theorem SinceSnapshot.append
    {trace : List (PumpEvent κ)}
    {condition later : List (PumpEvent κ) → List (PumpEvent κ) → Prop}
    {event : PumpEvent κ}
    (since : SinceSnapshot trace condition)
    (different : event ≠ .snapshot)
    (kept : ∀ before after, condition before after →
      later before (after ++ [event])) :
    SinceSnapshot (trace ++ [event]) later := by
  obtain ⟨before, after, rfl, none, holds⟩ := since
  refine ⟨before, after ++ [event], by simp, ?_, kept before after holds⟩
  intro member
  rcases List.mem_append.mp member with earlier | last
  · exact none earlier
  · exact different (List.mem_singleton.mp last).symm

/-- A registration ends with `RemoveChannel` or with a dispatch. -/
theorem removed_of_registeredAfter
    {before after : List (PumpEvent κ)}
    {channel : Bytes}
    (registered : (registeredAfter before channel).isSome)
    (missing : registeredAfter (before ++ after) channel = none) :
    .removeChannel channel ∈ after ∨
      ∃ task ∈ dispatchedTasks after, task.message.channel = channel := by
  induction after generalizing before with
  | nil =>
      rw [List.append_nil] at missing
      simp [missing] at registered
  | cons event after inductionHypothesis =>
      rw [← List.singleton_append, ← List.append_assoc] at missing
      by_cases stays : (registeredAfter (before ++ [event]) channel).isSome
      · rcases inductionHypothesis stays missing with
          removed | ⟨task, dispatched, same⟩
        · exact .inl (List.mem_cons_of_mem event removed)
        · refine .inr ⟨task, ?_, same⟩
          rw [← List.singleton_append, dispatchedTasks_append]
          exact List.mem_append_right _ dispatched
      · rw [registeredAfter_append] at stays
        cases event with
        | removeChannel other =>
            by_cases same : channel = other
            · subst same
              exact .inl List.mem_cons_self
            · simp [register, same, registered] at stays
        | dispatched task =>
            by_cases same : channel = task.message.channel
            · exact .inr ⟨task, by simp [dispatchedTasks], same.symm⟩
            · simp [register, same, registered] at stays
        | addChannel other registration callback =>
            by_cases same : channel = other
            · simp [register, same] at stays
            · simp [register, same, registered] at stays
        | _ => simp [register, registered] at stays

end PumpEvent

end IisAsgiHandler
