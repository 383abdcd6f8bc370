import IisAsgiHandler.ResponsePump.Ledger

/-!
# Delivery by the response pump

The ledger justifies every event by the events before it: a message is popped
from a channel that was registered at the snapshot, handed to the callback
registered for its channel, and dropped only if the channel was removed.  When
channels are registered again only after their callbacks have been invoked, the
messages of a channel are handed over in order.
-/

namespace IisAsgiHandler

open PumpEvent

variable {κ : Type}
variable {trace events : List (PumpEvent κ)}
variable {system next : PumpSystem κ}

/-! ## The laws -/

/-- The numbers of the messages popped differ. -/
theorem Ledger.popped_nodup (ledger : Ledger trace system) :
    (poppedMessages trace).Nodup := by
  apply List.Nodup.of_map PoppedMessage.number
  rw [ledger.numbers]
  exact List.nodup_range.map Nat.succ_injective

/-- The messages that have been handled, and the one in hand, differ. -/
theorem Ledger.handled_nodup (ledger : Ledger trace system) :
    (handledMessages trace ++ system.inHand).Nodup := by
  rw [ledger.handled]
  exact ledger.popped_nodup.filter _

/-- The message in hand has been popped, and not handled yet. -/
theorem Ledger.of_inHand
    {message : PoppedMessage}
    (ledger : Ledger trace system)
    (holds : system.inHand = [message]) :
    message ∈ poppedMessages trace ∧ message ∉ handledMessages trace := by
  have handled := ledger.handled
  have differ := ledger.handled_nodup
  rw [holds] at handled differ
  refine ⟨?_, ?_⟩
  · have inFilter : message ∈ (poppedMessages trace).filter
        fun message => message.channel ≠ [] := by
      rw [← handled]
      exact List.mem_append_right _ List.mem_cons_self
    exact List.mem_of_mem_filter inFilter
  · intro earlier
    exact (List.nodup_append.mp differ).2.2 message earlier message
      List.mem_cons_self rfl

/-- The messages of the tasks are among those handled, in order. -/
theorem dispatched_sublist_handled (trace : List (PumpEvent κ)) :
    ((dispatchedTasks trace).map PumpTask.message).Sublist
      (handledMessages trace) := by
  induction trace with
  | nil => exact List.Sublist.refl _
  | cons event trace inductionHypothesis =>
      rw [← List.singleton_append, dispatchedTasks_append,
        handledMessages_append, List.map_append]
      refine List.Sublist.append ?_ inductionHypothesis
      cases event with
      | dropped message => exact List.nil_sublist _
      | _ => exact List.Sublist.refl _

/-- The tasks that have run and those that have not differ. -/
theorem Ledger.tasks_differ
    {β : Type}
    {task other : PumpTask κ}
    (ledger : Ledger trace system)
    (project : PumpTask κ → β)
    (differ : ((dispatchedTasks trace).map project).Nodup)
    (waits : task ∈ system.tasks)
    (invoked : other ∈ invokedTasks trace) :
    project other ≠ project task := by
  have apart := (ledger.tasks.map project).nodup_iff.mp differ
  rw [List.map_append] at apart
  exact (List.nodup_append.mp apart).2.2 _ (List.mem_map_of_mem invoked) _
    (List.mem_map_of_mem waits)

/-- Every step obeys the laws of delivery. -/
theorem Ledger.law
    (ledger : Ledger trace system)
    (moved : system.Moved next events) :
    ∀ event ∈ events, DeliveryLaw trace event := by
  intro event member
  have polled := ledger.polled
  cases moved with
  | quiet => contradiction
  | addChannel channel callback =>
      rw [List.mem_singleton.mp member]
      intro other otherCallback earlier
      exact Nat.lt_irrefl _ (ledger.added _ _ _ earlier)
  | removeChannel | send | snapshot =>
      rw [List.mem_singleton.mp member]
      trivial
  | receive channelNames channel data rest thread waiting offered front =>
      rw [List.mem_singleton.mp member]
      rw [waiting] at polled
      obtain ⟨before, after, split, last, registered, _⟩ := polled
      refine ⟨⟨before, after, split, last, registered channel offered⟩, ?_⟩
      intro other popped same
      have counted : other.number ∈
          (poppedMessages trace).map PoppedMessage.number :=
        List.mem_map_of_mem popped
      rw [ledger.numbers, same] at counted
      simp at counted
  | dispatch channel data registration callback holding found =>
      rw [List.mem_singleton.mp member]
      have inHand : system.inHand = [⟨system.popped, channel, data⟩] := by
        rw [PumpSystem.inHand, holding]
      obtain ⟨popped, unhandled⟩ := ledger.of_inHand inHand
      refine ⟨popped, ?_, unhandled⟩
      rw [← ledger.registered]
      exact found
  | drop channel data holding missing =>
      rw [List.mem_singleton.mp member]
      have inHand : system.inHand = [⟨system.popped, channel, data⟩] := by
        rw [PumpSystem.inHand, holding]
      obtain ⟨popped, unhandled⟩ := ledger.of_inHand inHand
      rw [holding] at polled
      obtain ⟨before, after, split, last, registered, none⟩ := polled
      refine ⟨popped, ⟨before, after, split, last, ?_⟩, unhandled⟩
      rw [ledger.registered, split] at missing
      rcases removed_of_registeredAfter registered missing with
        removed | ⟨task, dispatched, _⟩
      · exact (List.mem_cons.mp removed).resolve_left (by simp)
      · have nothing : dispatchedTasks (.snapshot :: after) = [] := none
        rw [nothing] at dispatched
        contradiction
  | invoke index task found =>
      rw [List.mem_singleton.mp member]
      have waits := List.mem_of_getElem? found
      refine ⟨ledger.tasks.mem_iff.mpr (List.mem_append_right _ waits), ?_⟩
      intro other invoked
      refine ⟨?_, ?_⟩
      · refine ledger.tasks_differ PumpTask.message ?_ waits invoked
        exact (dispatched_sublist_handled trace).nodup
          (List.nodup_append.mp ledger.handled_nodup).1
      · exact ledger.tasks_differ PumpTask.registration ledger.spent waits
          invoked

/-! ## Channel order -/

/-- The tasks of one channel. -/
def tasksOn (channel : Bytes) (tasks : List (PumpTask κ)) : List (PumpTask κ) :=
  tasks.filter fun task => task.message.channel = channel

@[simp] theorem tasksOn_append
    (channel : Bytes)
    (tasks later : List (PumpTask κ)) :
    tasksOn channel (tasks ++ later) =
      tasksOn channel tasks ++ tasksOn channel later :=
  List.filter_append ..

/-- When channels are registered again only after their callbacks have been
invoked, at most one task of a channel waits, and none while the channel is
registered. -/
structure InTurn
    (trace : List (PumpEvent κ))
    (system : PumpSystem κ)
    (channel : Bytes) : Prop where
  order : tasksOn channel (dispatchedTasks trace) =
    tasksOn channel (invokedTasks trace) ++ tasksOn channel system.tasks
  single : (tasksOn channel system.tasks).length ≤ 1
  token : (system.pump.registered channel).isSome →
    tasksOn channel system.tasks = []

/-- A step that creates no task and runs none. -/
theorem InTurn.silent
    {channel : Bytes}
    (inTurn : InTurn trace system channel)
    (dispatches : dispatchedTasks events = [])
    (invokes : invokedTasks events = [])
    (tasks : next.tasks = system.tasks)
    (token : (next.pump.registered channel).isSome →
      tasksOn channel system.tasks = []) :
    InTurn (trace ++ events) next channel where
  order := by
    rw [dispatchedTasks_append, invokedTasks_append, dispatches, invokes, tasks,
      List.append_nil, List.append_nil]
    exact inTurn.order
  single := by
    rw [tasks]
    exact inTurn.single
  token := by
    rw [tasks]
    exact token

/-- The tasks of a channel, before and after one of the tasks runs. -/
theorem tasksOn_eraseIdx
    {tasks : List (PumpTask κ)}
    {index : Nat}
    {task : PumpTask κ}
    (channel : Bytes)
    (found : tasks[index]? = some task) :
    tasksOn channel tasks =
      tasksOn channel (tasks.take index) ++
        (tasksOn channel [task] ++ tasksOn channel (tasks.drop (index + 1))) ∧
      tasksOn channel (tasks.eraseIdx index) =
        tasksOn channel (tasks.take index) ++
          tasksOn channel (tasks.drop (index + 1)) := by
  obtain ⟨inside, rfl⟩ := List.getElem?_eq_some_iff.mp found
  refine ⟨?_, ?_⟩
  · rw [← tasksOn_append, ← tasksOn_append, List.singleton_append,
      List.getElem_cons_drop, List.take_append_drop]
  · rw [← tasksOn_append, List.eraseIdx_eq_take_drop_succ]

/-- A channel whose callbacks have been invoked can be registered again. -/
theorem InTurn.reregistered
    {channel added : Bytes}
    {callback : Nat × κ}
    (ledger : Ledger trace system)
    (inTurn : InTurn trace system channel)
    (later : ∀ task ∈ dispatchedTasks trace, task.message.channel = added →
      task ∈ invokedTasks trace)
    (registered :
      ((system.pump.addChannel added callback).registered channel).isSome) :
    tasksOn channel system.tasks = [] := by
  by_cases same : channel = added
  · subst same
    -- A task that waits has been dispatched but not invoked.
    rw [tasksOn, List.filter_eq_nil_iff]
    intro task waits onChannel
    have dispatched : task ∈ dispatchedTasks trace :=
      ledger.tasks.mem_iff.mpr (List.mem_append_right _ waits)
    have invoked := later task dispatched (of_decide_eq_true onChannel)
    exact ledger.tasks_differ PumpTask.registration ledger.spent waits
      invoked rfl
  · rw [system.pump.registered_addChannel_ne _ same] at registered
    exact inTurn.token registered

/-- A task is created for a channel that has none. -/
theorem InTurn.dispatched
    {channel : Bytes}
    {task : PumpTask κ}
    (inTurn : InTurn trace system channel)
    (free : task.message.channel = channel → tasksOn channel system.tasks = [])
    (tasks : next.tasks = system.tasks ++ [task])
    (token : (next.pump.registered channel).isSome →
      task.message.channel ≠ channel ∧
        (system.pump.registered channel).isSome) :
    InTurn (trace ++ [.dispatched task]) next channel := by
  have created : dispatchedTasks [.dispatched task] = [task] := rfl
  have none : invokedTasks [.dispatched task] = [] := rfl
  refine ⟨?_, ?_, ?_⟩
  · rw [dispatchedTasks_append, invokedTasks_append, created, none, tasks,
      List.append_nil, tasksOn_append, tasksOn_append, inTurn.order,
      List.append_assoc]
  · rw [tasks, tasksOn_append]
    by_cases same : task.message.channel = channel
    · rw [free same]
      simp [tasksOn, same]
    · simpa [tasksOn, same] using inTurn.single
  · intro registered
    obtain ⟨different, earlier⟩ := token registered
    rw [tasks, tasksOn_append, inTurn.token earlier]
    simp [tasksOn, different]

/-- The task that runs is the only one of its channel. -/
theorem InTurn.invoked
    {channel : Bytes}
    {index : Nat}
    {task : PumpTask κ}
    (inTurn : InTurn trace system channel)
    (found : system.tasks[index]? = some task)
    (tasks : next.tasks = system.tasks.eraseIdx index)
    (pump : next.pump = system.pump) :
    InTurn (trace ++ [.invoked task]) next channel := by
  obtain ⟨order, single, token⟩ := inTurn
  obtain ⟨before, after⟩ := tasksOn_eraseIdx channel found
  have ran : invokedTasks [.invoked task] = [task] := rfl
  have none : dispatchedTasks [.invoked task] = [] := rfl
  -- Nothing of the channel is before a task of the channel.
  have first : tasksOn channel system.tasks =
      tasksOn channel [task] ++ tasksOn channel next.tasks := by
    rw [tasks, before, after]
    by_cases same : task.message.channel = channel
    · have isOwn : tasksOn channel [task] = [task] := by
        simp [tasksOn, same]
      rw [before, isOwn] at single
      simp only [List.length_append, List.length_singleton] at single
      have noneBefore := List.eq_nil_of_length_eq_zero
        (show (tasksOn channel (system.tasks.take index)).length = 0 by omega)
      rw [noneBefore, List.nil_append, List.nil_append]
    · have elsewhere : tasksOn channel [task] = [] := by
        simp [tasksOn, same]
      rw [elsewhere, List.nil_append, List.nil_append]
  refine ⟨?_, ?_, ?_⟩
  · rw [dispatchedTasks_append, invokedTasks_append, none, ran, List.append_nil,
      tasksOn_append, order, first, List.append_assoc]
  · rw [first, List.length_append] at single
    omega
  · rw [pump]
    intro registered
    have nothing := token registered
    rw [first] at nothing
    exact (List.append_eq_nil_iff.mp nothing).2

theorem InTurn.step
    {channel : Bytes}
    (ledger : Ledger trace system)
    (inTurn : InTurn trace system channel)
    (later : ∀ event ∈ events, ReregistersLater trace event)
    (moved : system.Moved next events) :
    InTurn (trace ++ events) next channel := by
  cases moved with
  | addChannel added callback =>
      refine inTurn.silent rfl rfl rfl ?_
      exact inTurn.reregistered ledger (later _ List.mem_cons_self)
  | removeChannel removed =>
      refine inTurn.silent rfl rfl rfl ?_
      intro registered
      by_cases same : channel = removed
      · simp [same] at registered
      · rw [system.pump.registered_removeChannel_ne same] at registered
        exact inTurn.token registered
  | dispatch other data registration callback holding found =>
      refine inTurn.dispatched ?_ rfl ?_
      · rintro rfl
        apply inTurn.token
        rw [found]
        rfl
      · intro registered
        have different : other ≠ channel := by
          rintro rfl
          have removed := system.pump.registered_removeChannel other
          unfold ResponsePump.registered at removed registered
          rw [removed] at registered
          contradiction
        refine ⟨different, ?_⟩
        rw [← system.pump.registered_removeChannel_ne different.symm]
        exact registered
  | invoke index task found => exact inTurn.invoked found rfl rfl
  | quiet pump callbacks =>
      refine inTurn.silent rfl rfl rfl ?_
      intro registered
      apply inTurn.token
      unfold ResponsePump.registered at registered ⊢
      rw [callbacks] at registered
      exact registered
  | _ => exact inTurn.silent rfl rfl rfl inTurn.token

theorem InTurn.initial (channel : Bytes) :
    InTurn [] ({} : PumpSystem κ) channel where
  order := rfl
  single := Nat.zero_le 1
  token _ := rfl

/-- The messages handed over on a channel are among those popped, in order. -/
theorem InTurn.sublist
    {channel : Bytes}
    (ledger : Ledger trace system)
    (inTurn : InTurn trace system channel) :
    ((tasksOn channel (invokedTasks trace)).map PumpTask.message).Sublist
      ((poppedMessages trace).filter fun message =>
        message.channel = channel) := by
  have handled : (handledMessages trace).Sublist (poppedMessages trace) := by
    have inOrder := List.sublist_append_left (handledMessages trace)
      system.inHand
    rw [ledger.handled] at inOrder
    exact inOrder.trans List.filter_sublist
  have dispatched := (dispatched_sublist_handled trace).trans handled
  have onChannel := dispatched.filter fun message =>
    decide (message.channel = channel)
  rw [List.filter_map] at onChannel
  have invoked : (tasksOn channel (invokedTasks trace)).Sublist
      (tasksOn channel (dispatchedTasks trace)) := by
    rw [inTurn.order]
    exact List.sublist_append_left _ _
  exact (invoked.map PumpTask.message).trans onChannel

/-! ## Runs -/

namespace PumpSystem

/-- What is known of every run. -/
theorem run_ledger
    {labels : List (PumpSystemLabel κ)}
    (run : EventMachine.Run step EventMachine.always {} labels trace system) :
    Ledger trace system ∧ EventMachine.Justified DeliveryLaw trace ∧
      (EventMachine.Justified ReregistersLater trace →
        ∀ channel, InTurn trace system channel) := by
  refine EventMachine.Run.preserves_trace
    (fun trace system => Ledger trace system ∧
      EventMachine.Justified DeliveryLaw trace ∧
      (EventMachine.Justified ReregistersLater trace →
        ∀ channel, InTurn trace system channel)) ?_ ?_ run
  · exact ⟨Ledger.initial, EventMachine.Justified.nil,
      fun _ channel => InTurn.initial channel⟩
  · rintro trace system label next events ⟨ledger, justified, inTurn⟩ _ steps
    have moved := step_moved steps
    refine ⟨ledger.step moved, ?_, ?_⟩
    · rcases moved.events_eq with rfl | ⟨event, rfl⟩
      · rwa [List.append_nil]
      · rw [EventMachine.Justified.snoc_iff]
        exact ⟨justified, ledger.law moved event List.mem_cons_self⟩
    · intro later channel
      rcases moved.events_eq with rfl | ⟨event, rfl⟩
      · rw [List.append_nil] at later
        exact (inTurn later channel).step ledger (by simp) moved
      · rw [EventMachine.Justified.snoc_iff] at later
        refine (inTurn later.1 channel).step ledger ?_ moved
        intro other member
        rw [List.mem_singleton.mp member]
        exact later.2

/-- Delivery by the response pump.  Every event obeys the laws of delivery; the
messages popped from channels with a name have been handled in order, except
for the one in hand; every task created has run or waits; messages are popped
in channel order, and handed over in channel order if channels are registered
again only after their callbacks have been invoked. -/
theorem pump_delivery
    {labels : List (PumpSystemLabel κ)}
    (run : EventMachine.Run step EventMachine.always {} labels trace system) :
    EventMachine.Justified DeliveryLaw trace ∧
      (handledMessages trace ++ system.inHand =
        (poppedMessages trace).filter fun message => message.channel ≠ []) ∧
      (dispatchedTasks trace).Perm (invokedTasks trace ++ system.tasks) ∧
      (∀ channel,
        ((poppedMessages trace).filter fun message =>
            message.channel = channel).map PoppedMessage.data <+:
          sentOn channel trace) ∧
      (EventMachine.Justified ReregistersLater trace →
        ∀ channel,
          ((tasksOn channel (invokedTasks trace)).map PumpTask.message).Sublist
            ((poppedMessages trace).filter fun message =>
              message.channel = channel)) := by
  obtain ⟨ledger, justified, inTurn⟩ := run_ledger run
  refine ⟨justified, ledger.handled, ledger.tasks, ?_, ?_⟩
  · intro channel
    exact ⟨_, ledger.queues channel⟩
  · intro later channel
    exact (inTurn later channel).sublist ledger

/-- A callback is registered twice and handed two messages. -/
theorem pump_delivery_twice :
    ∃ labels trace, ∃ system : PumpSystem Nat,
      EventMachine.Run step EventMachine.always {} labels trace system ∧
      (invokedTasks trace).length = 2 ∧
      ∀ channel,
        ((tasksOn channel (invokedTasks trace)).map PumpTask.message).Sublist
          ((poppedMessages trace).filter fun message =>
            message.channel = channel) := by
  have executes : EventMachine.checks step EventMachine.always
      ({} : PumpSystem Nat)
      [.addChannel (ascii "a") 7, .send (ascii "a") [1], .send (ascii "a") [2],
        .pump .snapshot, .pump (.receiveMany (some (ascii "a"))),
        .pump .dispatch, .invoke 0, .addChannel (ascii "a") 7, .pump .snapshot,
        .pump (.receiveMany (some (ascii "a"))), .pump .dispatch, .invoke 0]
      (fun _ trace => trace =
        [.addChannel (ascii "a") 0 7, .sent (ascii "a") [1],
          .sent (ascii "a") [2], .snapshot, .popped ⟨1, ascii "a", [1]⟩,
          .dispatched ⟨⟨1, ascii "a", [1]⟩, 0, 7⟩,
          .invoked ⟨⟨1, ascii "a", [1]⟩, 0, 7⟩, .addChannel (ascii "a") 1 7,
          .snapshot, .popped ⟨2, ascii "a", [2]⟩,
          .dispatched ⟨⟨2, ascii "a", [2]⟩, 1, 7⟩,
          .invoked ⟨⟨2, ascii "a", [2]⟩, 1, 7⟩]) = true := by
    decide +kernel
  obtain ⟨trace, system, run, rfl⟩ := EventMachine.Run.of_checks executes
  refine ⟨_, _, system, run, rfl, (pump_delivery run).2.2.2.2 ?_⟩
  simp [EventMachine.Justified.cons_iff, ReregistersLater, dispatchedTasks,
    invokedTasks]

/-- A message of the channel without a name is popped and goes nowhere: the
pump takes the empty name for the absence of a message. -/
theorem pump_loses_unnamed :
    ∃ labels trace, ∃ system : PumpSystem Nat,
      EventMachine.Run step EventMachine.always {} labels trace system ∧
      (∀ channel, .removeChannel channel ∉ trace) ∧
      system.pump.thread = .loopHead ∧
      ∃ message ∈ poppedMessages trace,
        message ∉ (dispatchedTasks trace).map PumpTask.message := by
  have executes : EventMachine.checks step EventMachine.always
      ({} : PumpSystem Nat)
      [.addChannel [] 7, .send [] [1], .pump .snapshot,
        .pump (.receiveMany (some []))]
      (fun system trace => system.pump.thread = .loopHead ∧
        trace = [.addChannel [] 0 7, .sent [] [1], .snapshot,
          .popped ⟨1, [], [1]⟩]) = true := by
    decide +kernel
  obtain ⟨trace, system, run, atHead, rfl⟩ :=
    EventMachine.Run.of_checks executes
  exact ⟨_, _, system, run, by simp, atHead, ⟨1, [], [1]⟩,
    by simp [poppedMessages], by simp [dispatchedTasks]⟩

end PumpSystem

end IisAsgiHandler
