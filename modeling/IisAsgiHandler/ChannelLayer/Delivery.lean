import IisAsgiHandler.ChannelLayer.Store
import IisAsgiHandler.Library.Queues

/-!
# Delivery over the channel layer

The lists of the channels are queues of messages, and a `ReceiveMany` returns
what it popped from one of them.  So messages are delivered in the order in
which they were sent to their channel, each at most once and unchanged.
-/

namespace IisAsgiHandler
namespace RedisChannelLayer

open Redis (Database Command Reply Entry Stored)

/-! ## Queues of messages -/

/-- The messages of a list: the keys, with what is stored under them. -/
def contents (db : Database) (key : Bytes) : List (Bytes × Option Bytes) :=
  (db.itemsAt key).map fun item => (item, db.stringAt (cStr item))

/-- What an event does to the queues. -/
def LayerEvent.operation (mPrefix : Bytes) :
    LayerEvent → Option (Queues.Operation Bytes (Bytes × Option Bytes))
  | .pushed _ channel item payload =>
      some (.push (mPrefix ++ channel) (item, some payload))
  | .popped _ key item held => some (.pop key (item, held))
  | .returned _ _ _ _ => none

/-- What a trace does to the queues. -/
def operations (mPrefix : Bytes) (trace : List LayerEvent) :
    List (Queues.Operation Bytes (Bytes × Option Bytes)) :=
  trace.filterMap (LayerEvent.operation mPrefix)

theorem operations_append (mPrefix : Bytes) (trace events : List LayerEvent) :
    operations mPrefix (trace ++ events) =
      operations mPrefix trace ++ operations mPrefix events :=
  List.filterMap_append

/-- A call that returns does nothing to the queues. -/
theorem operations_returned
    (mPrefix : Bytes)
    {events : List LayerEvent}
    (silent : ∀ event ∈ events, ∃ index channels channel payload,
      event = .returned index channels channel payload) :
    operations mPrefix events = [] := by
  apply List.filterMap_eq_nil_iff.mpr
  intro event member
  obtain ⟨index, channels, channel, payload, rfl⟩ := silent event member
  rfl

/-- The messages of a list change only with its items. -/
theorem Stocked.contents_eq
    {mPrefix key : Bytes}
    {layer next : Layer}
    {events : List LayerEvent}
    (stocked : Stocked mPrefix layer)
    (effect : StoreEffect mPrefix layer next events)
    (items : next.db.itemsAt key = layer.db.itemsAt key) :
    contents next.db key = contents layer.db key := by
  rw [contents, contents, items]
  apply List.map_congr_left
  intro item member
  obtain ⟨index, send, located, pushed, -, rfl⟩ := stocked.lists member
  rw [effect.stringAt_dataKey located]
  intro first
  rw [first] at pushed
  cases pushed

/-- The lists are queues: each step pushes a message, pops one, or neither. -/
theorem Stocked.queues_step
    {mPrefix : Bytes}
    {layer next : Layer}
    {trace events : List LayerEvent}
    (stocked : Stocked mPrefix layer)
    (effect : StoreEffect mPrefix layer next events)
    (queues : Queues.Run (operations mPrefix trace) (contents layer.db)) :
    Queues.Run (operations mPrefix (trace ++ events)) (contents next.db) := by
  rw [operations_append]
  have kept : ∀ key, next.db.itemsAt key = layer.db.itemsAt key →
      contents next.db key = contents layer.db key :=
    fun key items => stocked.contents_eq effect items
  cases effect with
  | quiet items strings silent =>
      have same : contents next.db = contents layer.db :=
        funext fun key => kept key (items key)
      rwa [operations_returned mPrefix silent, List.append_nil, same]
  | @pushed index since send found stage after appended others strings =>
      have list := (stocked.clean found).channelKey
      rw [list] at appended others
      refine queues.push ?_ fun other different =>
        kept other (others other different)
      have held := stocked.stored found (by rw [stage]; exact nofun)
      have old : ∀ item ∈ layer.db.itemsAt (mPrefix ++ send.channel),
          next.db.stringAt (cStr item) = layer.db.stringAt (cStr item) :=
        fun item _ => strings (cStr item)
      rw [contents, appended, List.map_append, contents,
        List.map_congr_left fun item member => by rw [old item member],
        List.map_singleton, strings, held]
  | @popped index key item taken others strings =>
      refine queues.pop ?_ fun other different =>
        kept other (others other different)
      rw [contents, taken, List.map_cons, contents]
      simp only [strings]

/-! ## What a receiver gets -/

/-- A call of `ReceiveMany` with regular names; once it has popped a key, that
is the key of a `Send` to a channel it asked for. -/
def Receive.Sound
    (mPrefix : Bytes) (trace : List LayerEvent) (layer : Layer) (index : Nat)
    (receive : Receive) : Prop :=
  receive.keys.Perm (prefixedChannels mPrefix receive.channels) ∧
  (∀ channel ∈ receive.channels, RegularName channel) ∧
  ∀ channel item, receive.stage = .get channel item →
    channel ∈ receive.channels ∧
    ∃ (sender : Nat) (send : Send), layer.calls[sender]? = some (.send send) ∧
      send.stage ≠ .set ∧ send.dataKey = item ∧
      .popped index (mPrefix ++ channel) item (some send.buffer) ∈ trace

/-- The steps of a `ReceiveMany` over a store in order. -/
inductive ReceiveStep
    (mPrefix : Bytes) (layer : Layer) (index : Nat) (receive : Receive) :
    ReceiveStage → List LayerEvent → Prop
  | popped {channel : Bytes} {sender : Nat} {send : Send}
      (start : receive.stage = .pop)
      (asked : channel ∈ receive.channels)
      (located : layer.calls[sender]? = some (.send send))
      (begun : send.stage ≠ .set) :
      ReceiveStep mPrefix layer index receive (.get channel send.dataKey)
        [.popped index (mPrefix ++ channel) send.dataKey (some send.buffer)]
  | empty (start : receive.stage = .pop) :
      ReceiveStep mPrefix layer index receive (.done [] [])
        [.returned index receive.channels [] []]
  | refused (start : receive.stage = .pop) :
      ReceiveStep mPrefix layer index receive .crashed []
  | got {channel item payload : Bytes}
      (stage : receive.stage = .get channel item)
      (held : layer.db.stringAt (cStr item) = some payload) :
      ReceiveStep mPrefix layer index receive (.done channel payload)
        [.returned index receive.channels channel payload]

/-- A key that `BLPOP` reports is the list of a channel that was asked for. -/
theorem Send.Clean.asked
    {mPrefix key : Bytes}
    {keys channels : List Bytes}
    {send : Send}
    (clean : send.Clean mPrefix)
    (list : send.channelKey mPrefix = key)
    (shuffled : keys.Perm (prefixedChannels mPrefix channels))
    (regular : ∀ channel ∈ channels, RegularName channel)
    (member : key ∈ keys.map cStr) :
    ∃ channel ∈ channels, key = mPrefix ++ channel := by
  obtain ⟨argument, argumentMember, rfl⟩ := List.mem_map.mp member
  rw [clean.channelKey] at list
  rcases List.mem_append.mp (shuffled.mem_iff.mp argumentMember) with
    fromCount | fromNames
  · have empty := List.eq_of_mem_replicate fromCount
    subst empty
    have name := (List.append_eq_nil_iff.mp list).2
    exact absurd name clean.channel.1
  · obtain ⟨channel, asked, rfl⟩ := List.mem_map.mp fromNames
    refine ⟨channel, asked, cStr_of_notMem ?_⟩
    rw [List.mem_append]
    exact not_or.mpr ⟨clean.mPrefix, (regular channel asked).2⟩

theorem Stocked.receiveStep
    {mPrefix : Bytes}
    {trace : List LayerEvent}
    {layer : Layer}
    {index : Nat}
    {receive : Receive}
    {command : Command}
    (stocked : Stocked mPrefix layer)
    (sound : receive.Sound mPrefix trace layer index)
    (issues : receive.command = some command) :
    ReceiveStep mPrefix layer index receive
      (receive.advance mPrefix (some (layer.db.execute command).2)).stage
      (receiveEvents index layer.db receive
        (receive.advance mPrefix (some (layer.db.execute command).2))
        (layer.db.execute command).2) := by
  obtain ⟨shuffled, regular, getting⟩ := sound
  cases stage : receive.stage with
  | pop =>
      rw [Receive.command, stage] at issues
      cases issues
      rw [Receive.advance, stage, Database.execute]
      rcases Database.popFirst_cases layer.db (receive.keys.map cStr) with
        ⟨key, member, item, items, deadline, found, popped⟩ | same | same
      · have first : item ∈ layer.db.itemsAt key := by
          rw [Database.itemsAt, found]
          exact List.mem_cons_self
        obtain ⟨sender, send, located, pushed, list, rfl⟩ := stocked.lists first
        obtain ⟨channel, asked, rfl⟩ :=
          (stocked.clean located).asked list shuffled regular member
        have begun : send.stage ≠ .set := by
          intro first
          rw [first] at pushed
          cases pushed
        have step : ReceiveStep mPrefix layer index receive
            (.get channel send.dataKey)
            [.popped index (mPrefix ++ channel) send.dataKey
              (some send.buffer)] :=
          .popped stage asked located begun
        rw [popped]
        simpa [receiveEvents, stage, afterPop, stocked.stored located begun]
          using step
      · have step : ReceiveStep mPrefix layer index receive (.done [] [])
            [.returned index receive.channels [] []] := .empty stage
        rw [same]
        simpa [receiveEvents, stage, afterPop] using step
      · have step : ReceiveStep mPrefix layer index receive .crashed [] :=
          .refused stage
        rw [same]
        simpa [receiveEvents, stage, afterPop, Redis.wrongType] using step
  | get channel item =>
      rw [Receive.command, stage] at issues
      cases issues
      obtain ⟨-, sender, send, located, begun, rfl, -⟩ := getting _ _ stage
      have held := stocked.stored located begun
      have step : ReceiveStep mPrefix layer index receive
          (.done channel send.buffer)
          [.returned index receive.channels channel send.buffer] :=
        .got stage held
      rw [Receive.advance, stage, Database.execute_get held]
      simpa [receiveEvents, stage, afterGet] using step
  | done channel payload =>
      rw [Receive.command, stage] at issues
      cases issues
  | crashed =>
      rw [Receive.command, stage] at issues
      cases issues

/-! ## Runs -/

/-- The calls that returned, in order. -/
def returnedCalls (trace : List LayerEvent) : List Nat :=
  trace.filterMap fun event =>
    match event with
    | .returned index _ _ _ => some index
    | _ => none

/-- The keys that were popped, in order, over all receivers and lists. -/
def poppedItems (trace : List LayerEvent) : List Bytes :=
  trace.filterMap fun event =>
    match event with
    | .popped _ _ item _ => some item
    | _ => none

/-- Every key is pushed once, by the `Send` that it belongs to. -/
structure PushedOnce
    (mPrefix : Bytes) (trace : List LayerEvent) (layer : Layer) : Prop where
  once : ((Queues.pushes (operations mPrefix trace)).map
    fun entry => entry.2.1).Nodup
  pushers : ∀ entry ∈ Queues.pushes (operations mPrefix trace),
    ∃ (index : Nat) (send : Send), layer.calls[index]? = some (.send send) ∧
      send.stage.pushed = true ∧ send.dataKey = entry.2.1

/-- A key that is pushed has not been pushed before. -/
theorem PushedOnce.step
    {mPrefix : Bytes}
    {trace events : List LayerEvent}
    {layer next : Layer}
    {label : LayerLabel}
    (before : PushedOnce mPrefix trace layer)
    (distinct : KeysDistinct mPrefix layer)
    (effect : StoreEffect mPrefix layer next events)
    (steps : LayerStep mPrefix layer label next events) :
    PushedOnce mPrefix (trace ++ events) next := by
  have old : ∀ entry ∈ Queues.pushes (operations mPrefix trace),
      ∃ (index : Nat) (send : Send), next.calls[index]? = some (.send send) ∧
        send.stage.pushed = true ∧ send.dataKey = entry.2.1 := by
    intro entry member
    obtain ⟨index, send, located, pushed, same⟩ := before.pushers entry member
    obtain ⟨later, found, dataKey, -, -, stays, -⟩ := steps.send_after located
    exact ⟨index, later, found, stays pushed, dataKey.trans same⟩
  have joined : Queues.pushes (operations mPrefix (trace ++ events)) =
      Queues.pushes (operations mPrefix trace) ++
        Queues.pushes (operations mPrefix events) := by
    rw [operations_append, Queues.pushes_append]
  cases effect with
  | quiet items strings silent =>
      rw [operations_returned mPrefix silent, Queues.pushes_nil,
        List.append_nil] at joined
      constructor
      · rw [joined]
        exact before.once
      · rw [joined]
        exact old
  | @pushed index since send found stage after appended others strings =>
      have fresh : send.dataKey ∉
          (Queues.pushes (operations mPrefix trace)).map
            fun entry => entry.2.1 := by
        intro member
        obtain ⟨entry, entryMember, same⟩ := List.mem_map.mp member
        obtain ⟨other, pusher, located, pushed, dataKey⟩ :=
          before.pushers entry entryMember
        have equal := distinct.data located found
          (congrArg cStr (dataKey.trans same))
        subst equal
        rw [found] at located
        cases located
        rw [stage] at pushed
        cases pushed
      constructor
      · rw [joined, List.map_append]
        exact before.once.append (List.nodup_singleton _)
          (List.disjoint_singleton.mpr fresh)
      · rw [joined]
        intro entry member
        rcases List.mem_append.mp member with earlier | last
        · exact old entry earlier
        · cases List.mem_singleton.mp last
          refine ⟨index, _, after, ?_, send.advance_dataKey _⟩
          simp [Send.advance, stage, SendStage.pushed]
  | popped taken others strings =>
      rw [show Queues.pushes (operations mPrefix [_]) = [] from rfl,
        List.append_nil] at joined
      constructor
      · rw [joined]
        exact before.once
      · rw [joined]
        exact old

/-- What has been sent and received so far. -/
structure Delivering
    (mPrefix : Bytes) (trace : List LayerEvent) (layer : Layer) : Prop where
  stocked : Stocked mPrefix layer
  queues : Queues.Run (operations mPrefix trace) (contents layer.db)
  pushedOnce : ((Queues.pushes (operations mPrefix trace)).map
    fun entry => entry.2.1).Nodup
  pushers : ∀ entry ∈ Queues.pushes (operations mPrefix trace),
    ∃ (index : Nat) (send : Send), layer.calls[index]? = some (.send send) ∧
      send.stage.pushed = true ∧ send.dataKey = entry.2.1
  receives : ∀ {index : Nat} {receive : Receive},
    layer.calls[index]? = some (.receive receive) →
    receive.Sound mPrefix trace layer index
  results : ∀ {index : Nat} {channels : List Bytes} {channel payload : Bytes},
    .returned index channels channel payload ∈ trace →
    (channel, payload) ≠ ([], []) →
    channel ∈ channels ∧
      ∃ item, .popped index (mPrefix ++ channel) item (some payload) ∈ trace
  returners : ∀ index ∈ returnedCalls trace, ∃ receive channel payload,
    layer.calls[index]? = some (.receive receive) ∧
      receive.stage = .done channel payload
  returnedOnce : (returnedCalls trace).Nodup

/-- A `ReceiveMany` stays sound when others take a step. -/
theorem Receive.Sound.later
    {mPrefix : Bytes}
    {trace events : List LayerEvent}
    {layer next : Layer}
    {label : LayerLabel}
    {index : Nat}
    {receive : Receive}
    (sound : receive.Sound mPrefix trace layer index)
    (steps : LayerStep mPrefix layer label next events) :
    receive.Sound mPrefix (trace ++ events) next index := by
  obtain ⟨shuffled, regular, getting⟩ := sound
  refine ⟨shuffled, regular, fun channel item stage => ?_⟩
  obtain ⟨asked, sender, send, located, begun, same, popped⟩ :=
    getting channel item stage
  obtain ⟨later, found, dataKey, -, buffer, -, stays⟩ := steps.send_after located
  refine ⟨asked, sender, later, found, stays begun, dataKey.trans same, ?_⟩
  rw [buffer]
  exact List.mem_append_left events popped

/-- The step of a `ReceiveMany`, with what becomes of it. -/
theorem Delivering.receive_step
    {mPrefix : Bytes}
    {trace : List LayerEvent}
    {layer : Layer}
    {index : Nat}
    {receive : Receive}
    {command : Command}
    (before : Delivering mPrefix trace layer)
    (found : layer.calls[index]? = some (.receive receive))
    (issues : receive.command = some command) :
    ∃ stage events,
      receive.advance mPrefix (some (layer.db.execute command).2) =
        { receive with stage := stage } ∧
      receiveEvents index layer.db receive
        (receive.advance mPrefix (some (layer.db.execute command).2))
        (layer.db.execute command).2 = events ∧
      ReceiveStep mPrefix layer index receive stage events := by
  refine ⟨_, _, ?_, rfl, before.stocked.receiveStep (before.receives found) issues⟩
  unfold Receive.advance
  split <;> rfl

/-- Whoever receives goes on as it began. -/
theorem Delivering.receives_step
    {mPrefix : Bytes}
    {trace events : List LayerEvent}
    {layer next : Layer}
    {label : LayerLabel}
    {index : Nat}
    {receive : Receive}
    (before : Delivering mPrefix trace layer)
    (undisturbed : Undisturbed mPrefix layer label)
    (steps : LayerStep mPrefix layer label next events)
    (located : next.calls[index]? = some (.receive receive)) :
    receive.Sound mPrefix (trace ++ events) next index := by
  have others : layer.calls[index]? = some (.receive receive) →
      receive.Sound mPrefix (trace ++ events) next index :=
    fun old => (before.receives old).later steps
  have sends := fun (sender : Nat) (send : Send)
    (old : layer.calls[sender]? = some (.send send)) => steps.send_after old
  cases steps with
  | startSend generated =>
      rcases getElem?_append_singleton located with old | ⟨-, equal⟩
      · exact others old
      · cases equal
  | startReceive shuffled =>
      rcases getElem?_append_singleton located with old | ⟨-, equal⟩
      · exact others old
      · cases equal
        exact ⟨shuffled, undisturbed.2, nofun⟩
  | @send current send command found issues =>
      rcases getElem?_set_cases located with ⟨-, equal⟩ | ⟨-, old⟩
      · cases equal
      · exact others old
  | @receive current earlier command found issues =>
      rcases getElem?_set_cases located with ⟨rfl, equal⟩ | ⟨-, old⟩
      · obtain ⟨stage, shown, advanced, events, step⟩ :=
          before.receive_step found issues
        have kept := (before.receives found).later (.receive found issues)
        rw [events] at kept ⊢
        rw [advanced] at equal
        cases equal
        refine ⟨kept.1, kept.2.1, fun channel item isGet => ?_⟩
        change stage = .get channel item at isGet
        subst isGet
        cases step with
        | @popped _ sender send start asked sentBy begun =>
            obtain ⟨later, foundLater, dataKey, -, buffer, -, stays⟩ :=
              sends sender send sentBy
            refine ⟨asked, sender, later, foundLater, stays begun, dataKey, ?_⟩
            rw [buffer]
            exact List.mem_append_right trace (List.mem_singleton_self _)
      · exact others old
  | elapse => exact others located

/-- A result is what its call popped. -/
theorem Delivering.results_step
    {mPrefix : Bytes}
    {trace events : List LayerEvent}
    {layer next : Layer}
    {label : LayerLabel}
    {index : Nat}
    {channels : List Bytes}
    {channel payload : Bytes}
    (before : Delivering mPrefix trace layer)
    (steps : LayerStep mPrefix layer label next events)
    (returned : .returned index channels channel payload ∈ events)
    (nonempty : (channel, payload) ≠ ([], [])) :
    channel ∈ channels ∧
      ∃ item, .popped index (mPrefix ++ channel) item (some payload) ∈ trace := by
  cases steps with
  | startSend generated => cases returned
  | startReceive shuffled => cases returned
  | @send current send command found issues =>
      unfold sendEvents at returned
      split at returned
      · cases List.mem_singleton.mp returned
      · cases returned
  | @receive current receive command found issues =>
      obtain ⟨stage, shown, -, events, step⟩ := before.receive_step found issues
      rw [events] at returned
      cases step with
      | popped start asked located begun => cases List.mem_singleton.mp returned
      | empty start =>
          cases List.mem_singleton.mp returned
          exact absurd rfl nonempty
      | refused start => cases returned
      | @got got item held stage stored =>
          cases List.mem_singleton.mp returned
          obtain ⟨-, -, getting⟩ := before.receives found
          obtain ⟨asked, sender, send, located, begun, rfl, popped⟩ :=
            getting _ _ stage
          rw [before.stocked.stored located begun] at stored
          cases stored
          exact ⟨asked, send.dataKey, popped⟩
  | elapse => cases returned

/-- A step lets at most one call return, and that call had not returned. -/
theorem Delivering.returnedCalls_step
    {mPrefix : Bytes}
    {trace events : List LayerEvent}
    {layer next : Layer}
    {label : LayerLabel}
    (before : Delivering mPrefix trace layer)
    (steps : LayerStep mPrefix layer label next events) :
    returnedCalls events = [] ∨
    ∃ index receive later channel payload,
      returnedCalls events = [index] ∧
      layer.calls[index]? = some (.receive receive) ∧
      (∀ channel payload, receive.stage ≠ .done channel payload) ∧
      next.calls[index]? = some (.receive later) ∧
      later.stage = .done channel payload := by
  cases steps with
  | startSend generated => exact .inl rfl
  | startReceive shuffled => exact .inl rfl
  | @send current send command found issues =>
      left
      unfold sendEvents
      split <;> rfl
  | @receive current receive command found issues =>
      have inside := (List.getElem?_eq_some_iff.mp found).1
      obtain ⟨stage, shown, advanced, events, step⟩ :=
        before.receive_step found issues
      rw [events, advanced]
      cases step with
      | popped start asked located begun => exact .inl rfl
      | empty start =>
          refine .inr ⟨current, receive, _, [], [], rfl, found, ?_,
            List.getElem?_set_self inside, rfl⟩
          rw [start]
          exact nofun
      | refused start => exact .inl rfl
      | got stage stored =>
          refine .inr ⟨current, receive, _, _, _, rfl, found, ?_,
            List.getElem?_set_self inside, rfl⟩
          rw [stage]
          exact nofun
  | elapse => exact .inl rfl

/-- A call that has returned stays as it is. -/
theorem LayerStep.receive_done
    {mPrefix : Bytes}
    {layer next : Layer}
    {events : List LayerEvent}
    {label : LayerLabel}
    {index : Nat}
    {receive : Receive}
    {channel payload : Bytes}
    (steps : LayerStep mPrefix layer label next events)
    (located : layer.calls[index]? = some (.receive receive))
    (done : receive.stage = .done channel payload) :
    next.calls[index]? = some (.receive receive) := by
  have inside := (List.getElem?_eq_some_iff.mp located).1
  cases steps with
  | startSend generated => rwa [List.getElem?_append_left inside]
  | startReceive shuffled => rwa [List.getElem?_append_left inside]
  | @send current send command found issues =>
      have different : current ≠ index := by
        rintro rfl
        rw [found] at located
        cases located
      rwa [List.getElem?_set_ne different]
  | @receive current other command found issues =>
      have different : current ≠ index := by
        rintro rfl
        rw [found] at located
        cases located
        rw [Receive.command, done] at issues
        cases issues
      rwa [List.getElem?_set_ne different]
  | elapse => exact located

/-- Each step keeps the account of what was sent and received. -/
theorem Delivering.step
    {mPrefix : Bytes}
    {trace events : List LayerEvent}
    {layer next : Layer}
    {label : LayerLabel}
    (before : Delivering mPrefix trace layer)
    (undisturbed : Undisturbed mPrefix layer label)
    (steps : LayerStep mPrefix layer label next events) :
    Delivering mPrefix (trace ++ events) next := by
  have effect := before.stocked.effect undisturbed steps
  have pushes := (PushedOnce.mk before.pushedOnce before.pushers).step
    before.stocked.distinct effect steps
  have returns : returnedCalls (trace ++ events) =
      returnedCalls trace ++ returnedCalls events := List.filterMap_append
  have oldReturners : ∀ index ∈ returnedCalls trace,
      ∃ receive channel payload, next.calls[index]? = some (.receive receive) ∧
        receive.stage = .done channel payload := by
    intro index member
    obtain ⟨receive, channel, payload, located, done⟩ :=
      before.returners index member
    exact ⟨receive, channel, payload, steps.receive_done located done, done⟩
  constructor
  · exact before.stocked.step undisturbed steps
  · exact before.stocked.queues_step effect before.queues
  · exact pushes.once
  · exact pushes.pushers
  · exact before.receives_step undisturbed steps
  · intro index channels channel payload member nonempty
    rcases List.mem_append.mp member with old | new
    · obtain ⟨asked, item, popped⟩ := before.results old nonempty
      exact ⟨asked, item, List.mem_append_left events popped⟩
    · obtain ⟨asked, item, popped⟩ := before.results_step steps new nonempty
      exact ⟨asked, item, List.mem_append_left events popped⟩
  · intro index member
    rw [returns, List.mem_append] at member
    rcases before.returnedCalls_step steps with
      none | ⟨current, receive, later, channel, payload, one, -, -, found, done⟩
    · rw [none] at member
      exact oldReturners index (member.resolve_right List.not_mem_nil)
    · rcases member with old | new
      · exact oldReturners index old
      · rw [one] at new
        cases List.mem_singleton.mp new
        exact ⟨later, channel, payload, found, done⟩
  · rw [returns]
    rcases before.returnedCalls_step steps with
      none | ⟨current, receive, later, channel, payload, one, found, unfinished, -⟩
    · rw [none, List.append_nil]
      exact before.returnedOnce
    · rw [one]
      refine before.returnedOnce.append (List.nodup_singleton _)
        (List.disjoint_singleton.mpr fun member => ?_)
      obtain ⟨other, channel, payload, located, done⟩ :=
        before.returners current member
      rw [found] at located
      cases located
      exact unfinished channel payload done

/-- The payloads sent to a channel, in the order of their `RPUSH`es. -/
def sentTo (channel : Bytes) (trace : List LayerEvent) : List Bytes :=
  trace.filterMap fun event =>
    match event with
    | .pushed _ name _ payload => if name = channel then some payload else none
    | _ => none

/-- What was stored under the keys popped from a channel, in the order of the
`BLPOP`s. -/
def poppedFrom (mPrefix channel : Bytes) (trace : List LayerEvent) :
    List (Option Bytes) :=
  trace.filterMap fun event =>
    match event with
    | .popped _ key _ held => if key = mPrefix ++ channel then some held else none
    | _ => none

theorem pushes_payloads (mPrefix channel : Bytes) (trace : List LayerEvent) :
    (Queues.ofQueue (mPrefix ++ channel)
      (Queues.pushes (operations mPrefix trace))).map Prod.snd =
      (sentTo channel trace).map some := by
  simp only [Queues.ofQueue, Queues.pushes, operations, sentTo,
    List.filterMap_filterMap, List.map_filterMap]
  apply List.filterMap_congr
  intro event _
  cases event with
  | pushed index name item payload =>
      by_cases same : name = channel <;>
        simp [LayerEvent.operation, same]
  | popped index key item held => rfl
  | returned index channels name payload => rfl

theorem pops_payloads (mPrefix channel : Bytes) (trace : List LayerEvent) :
    (Queues.ofQueue (mPrefix ++ channel)
      (Queues.pops (operations mPrefix trace))).map Prod.snd =
      poppedFrom mPrefix channel trace := by
  simp only [Queues.ofQueue, Queues.pops, operations, poppedFrom,
    List.filterMap_filterMap, List.map_filterMap]
  apply List.filterMap_congr
  intro event _
  cases event with
  | pushed index name item payload => rfl
  | popped index key item held =>
      by_cases same : key = mPrefix ++ channel <;>
        simp [LayerEvent.operation, same]
  | returned index channels name payload => rfl

theorem pops_items (mPrefix : Bytes) (trace : List LayerEvent) :
    (Queues.pops (operations mPrefix trace)).map (fun entry => entry.2.1) =
      poppedItems trace := by
  simp only [Queues.pops, operations, poppedItems, List.filterMap_filterMap,
    List.map_filterMap]
  apply List.filterMap_congr
  intro event _
  cases event <;> rfl

/-- What the channel layer promises. -/
structure DeliveredInOrder
    (mPrefix : Bytes) (trace : List LayerEvent) : Prop where
  /-- A non-empty result names a channel that was asked for, and its payload is
  what was stored under the key that the call popped from it. -/
  results : ∀ index channels channel payload,
    .returned index channels channel payload ∈ trace →
    (channel, payload) ≠ ([], []) →
    channel ∈ channels ∧
      ∃ item, .popped index (mPrefix ++ channel) item (some payload) ∈ trace
  /-- The payloads popped from a channel are the first ones sent to it. -/
  inOrder : ∀ channel,
    poppedFrom mPrefix channel trace <+: (sentTo channel trace).map some
  /-- No key is popped before its payload is stored. -/
  stored : ∀ index key item held, .popped index key item held ∈ trace →
    held ≠ none
  /-- No key is popped twice, and no call returns twice. -/
  poppedOnce : (poppedItems trace).Nodup
  returnedOnce : (returnedCalls trace).Nodup

/-- Whatever is popped from a queue has a payload. -/
theorem Delivering.held_ne_none
    {mPrefix : Bytes}
    {trace : List LayerEvent}
    {layer : Layer}
    (delivering : Delivering mPrefix trace layer)
    {index : Nat}
    {key item : Bytes}
    {held : Option Bytes}
    (popped : .popped index key item held ∈ trace) :
    held ≠ none := by
  have taken : (key, item, held) ∈ Queues.pops (operations mPrefix trace) := by
    apply List.mem_filterMap.mpr
    exact ⟨.pop key (item, held),
      List.mem_filterMap.mpr ⟨_, popped, rfl⟩, rfl⟩
  have pushed := delivering.queues.pushed_of_popped taken
  obtain ⟨operation, member, isPush⟩ := List.mem_filterMap.mp pushed
  obtain ⟨event, -, shown⟩ := List.mem_filterMap.mp member
  rintro rfl
  cases event with
  | pushed index channel item payload =>
      cases shown
      cases isPush
  | popped index key item held =>
      cases shown
      cases isPush
  | returned index channels channel payload => cases shown

/-- In every interleaving of the commands of any calls, messages are delivered
in order, at most once, and as they were sent. -/
theorem delivered_in_order
    {mPrefix : Bytes}
    {labels : List LayerLabel}
    {trace : List LayerEvent}
    {layer : Layer}
    (run : EventMachine.Run (channelLayer mPrefix) (Undisturbed mPrefix) {}
      labels trace layer) :
    DeliveredInOrder mPrefix trace := by
  have initially : Delivering mPrefix [] {} := {
    stocked := ⟨⟨by simp, by simp⟩, by simp, by simp, by simp [Database.itemsAt,
      Database.find, Option.filter]⟩
    queues := .start
    pushedOnce := List.nodup_nil
    pushers := by simp [operations]
    receives := by simp
    results := by simp
    returners := by simp [returnedCalls]
    returnedOnce := List.nodup_nil }
  have delivering := run.preserves_trace (Delivering mPrefix) initially
    fun trace layer label next events before undisturbed steps =>
      before.step undisturbed (layerStep_of_channelLayer steps)
  constructor
  · intro index channels channel payload returned nonempty
    exact delivering.results returned nonempty
  · intro channel
    rw [← pushes_payloads mPrefix, ← pops_payloads]
    exact (delivering.queues.pops_first (mPrefix ++ channel)).map Prod.snd
  · intro index key item held popped
    exact delivering.held_ne_none popped
  · rw [← pops_items mPrefix]
    exact delivering.queues.nodup_pops Prod.fst delivering.pushedOnce
  · exact delivering.returnedOnce

/-- Two messages to one channel and two receivers, with their commands mixed. -/
def mixedRun : List LayerLabel :=
  let keys := [ascii "asgi:d", [], ascii "asgi:c", []]
  [.startSend (ascii "c") [1, 0, 2] (ascii "AAAAAAAAAA"),
    .startSend (ascii "c") [] (ascii "BBBBBBBBBB"),
    .startReceive [ascii "c", ascii "d"] keys,
    .startReceive [ascii "c", ascii "d"] keys,
    .runCommand 0, .runCommand 1, .runCommand 1, .runCommand 1, .runCommand 0,
    .runCommand 2, .runCommand 0, .runCommand 3, .runCommand 3, .runCommand 0,
    .runCommand 2]

theorem delivered_in_order_sample :
    ∃ trace layer,
      EventMachine.Run (channelLayer defaultPrefix) (Undisturbed defaultPrefix)
        {} mixedRun trace layer ∧
      poppedFrom defaultPrefix (ascii "c") trace = [some [], some [1, 0, 2]] ∧
      DeliveredInOrder defaultPrefix trace := by
  have checked : EventMachine.checks (channelLayer defaultPrefix)
      (fun layer label => Orderly defaultPrefix layer label ∧
        label.atOnce = true) {} mixedRun
      (fun _ trace =>
        poppedFrom defaultPrefix (ascii "c") trace =
          [some [], some [1, 0, 2]]) = true := by
    decide +kernel
  obtain ⟨trace, layer, run, shown⟩ := EventMachine.Run.of_checks checked
  have undisturbed :=
    run.mono fun layer label allowed => undisturbed_of_atOnce allowed
  exact ⟨trace, layer, undisturbed, shown, delivered_in_order undisturbed⟩

end RedisChannelLayer
end IisAsgiHandler
