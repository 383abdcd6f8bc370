import IisAsgiHandler.ChannelLayer.Steps

/-!
# Expiry of messages

A message lives for `m_expiry` seconds from the moment its data key was given
that life, and the list of its channel is to outlive it.  The list has a clock
of its own, which an earlier `Send` may have set: between the `RPUSH` and the
`EXPIRE` of a `Send` the list can expire with the new key in it.  Where this
does not happen, no live message is lost.
-/

namespace IisAsgiHandler
namespace RedisChannelLayer

open Redis (Database Command Reply Entry Stored)

/-- The end of a message's life, in milliseconds. -/
def lifeEnd (since : Nat) : Nat := since + 1000 * mExpiry

/-- Some `ReceiveMany` popped the key of a `Send` after it was pushed. -/
def PoppedSince
    (mPrefix : Bytes) (trace : List LayerEvent) (index : Nat) (send : Send) :
    Prop :=
  ∃ before after receiver held,
    trace = before ++
      .pushed index send.channel send.dataKey send.buffer :: after ∧
    .popped receiver (send.channelKey mPrefix) send.dataKey held ∈ after

/-! ## Keys that hold something for long enough -/

/-- A list holds an item, and does not expire before the horizon. -/
def ListHolds
    (db : Database) (key item : Bytes) (horizon : Option Nat) : Prop :=
  ∃ items deadline, db.find key = some ⟨.list items, deadline⟩ ∧
    item ∈ items ∧
    ∀ ends, deadline = some ends → ∀ least, horizon = some least → least ≤ ends

/-- A data key holds its payload with the deadline of a message. -/
def DataHolds (db : Database) (key payload : Bytes) (since : Nat) : Prop :=
  since ≤ db.now ∧ (db.now < lifeEnd since →
    db.find key = some ⟨.string payload, some (lifeEnd since)⟩)

/-- What Redis holds of a message that nobody has popped. -/
def Send.Held (mPrefix : Bytes) (db : Database) (send : Send) : Prop :=
  match send.stage with
  | .set => True
  | .expireData =>
      db.find (cStr send.dataKey) = some ⟨.string send.buffer, none⟩
  | .push since => DataHolds db (cStr send.dataKey) send.buffer since
  | .expireChannel since =>
      DataHolds db (cStr send.dataKey) send.buffer since ∧
        (db.now < lifeEnd since →
          ListHolds db (send.channelKey mPrefix) send.dataKey none)
  | .done since =>
      DataHolds db (cStr send.dataKey) send.buffer since ∧
        (db.now < lifeEnd since →
          ListHolds db (send.channelKey mPrefix) send.dataKey
            (some (lifeEnd since)))

/-- Unless the life of the message is over by then or its key is no longer in
the list, a list that waits for the `EXPIRE` of a `Send` is alive for a time. -/
def Send.outlasted
    (mPrefix : Bytes) (db : Database) (milliseconds : Nat) (send : Send) : Bool :=
  match send.stage with
  | .expireChannel since =>
      decide (db.now + milliseconds < lifeEnd since →
        (db.itemsAt (send.channelKey mPrefix)).contains send.dataKey = true →
        (db.find (send.channelKey mPrefix)).all
          (Entry.alive (db.now + milliseconds)) = true)
  | _ => true

namespace ListHolds

variable {db : Database} {key item : Bytes} {horizon : Option Nat}

/-- Only what is found at the key matters. -/
theorem of_find
    {later : Database}
    (holds : ListHolds db key item horizon)
    (same : later.find key = db.find key) :
    ListHolds later key item horizon := by
  obtain ⟨items, deadline, found, rest⟩ := holds
  exact ⟨items, deadline, same.trans found, rest⟩

/-- Appending to the list keeps its items and its deadline. -/
theorem rpush (new : Bytes) (holds : ListHolds db key item horizon) :
    ListHolds (db.execute (.rpush key new)).1 key item horizon := by
  obtain ⟨items, deadline, found, member, bound⟩ := holds
  exact ⟨items ++ [new], deadline, Database.find_rpush new found,
    List.mem_append_left _ member, bound⟩

/-- `EXPIRE` sets a new deadline for the same items. -/
theorem expire
    {seconds : Nat}
    {later : Option Nat}
    (holds : ListHolds db key item horizon)
    (positive : 0 < seconds)
    (reaches : ∀ least, later = some least → least ≤ db.now + 1000 * seconds) :
    ListHolds (db.execute (.expire key seconds)).1 key item later := by
  obtain ⟨items, deadline, found, member, -⟩ := holds
  refine ⟨items, some (db.now + 1000 * seconds),
    Database.find_expire positive found, member, ?_⟩
  intro ends equal least isLater
  cases equal
  exact reaches least isLater

/-- Taking another item from the front leaves the list with this one. -/
theorem put_listEntry
    {first : Bytes}
    {items : List Bytes}
    {deadline : Option Nat}
    (holds : ListHolds db key item horizon)
    (found : db.find key = some ⟨.list (first :: items), deadline⟩)
    (other : first ≠ item) :
    ListHolds (db.put key (Database.listEntry items deadline)) key item
      horizon := by
  obtain ⟨all, ends, foundAll, member, bound⟩ := holds
  have equal := foundAll.symm.trans found
  cases equal
  have later : item ∈ items :=
    (List.mem_cons.mp member).resolve_left (Ne.symm other)
  refine ⟨items, deadline, ?_, later, bound⟩
  rw [Database.find_put_listEntry found, Database.listEntry,
    if_neg (List.ne_nil_of_mem later)]

/-- A list whose deadline is still ahead outlives the wait. -/
theorem elapse
    {milliseconds : Nat}
    (holds : ListHolds db key item horizon)
    (survives : ∀ entry, db.find key = some entry →
      entry.alive (db.now + milliseconds) = true) :
    ListHolds (db.elapse milliseconds) key item horizon := by
  obtain ⟨items, deadline, found, rest⟩ := holds
  refine ⟨items, deadline, ?_, rest⟩
  rw [Database.find_elapse, found, Option.filter, survives _ found, if_pos rfl]

end ListHolds

namespace DataHolds

variable {db : Database} {key payload : Bytes} {since : Nat}

/-- A string that is kept goes on being the data. -/
theorem of_string
    {later : Database}
    (holds : DataHolds db key payload since)
    (sameTime : later.now = db.now)
    (kept : ∀ value deadline, db.find key = some ⟨.string value, deadline⟩ →
      later.find key = some ⟨.string value, deadline⟩) :
    DataHolds later key payload since := by
  obtain ⟨started, alive⟩ := holds
  constructor
  · rwa [sameTime]
  · intro living
    rw [sameTime] at living
    exact kept _ _ (alive living)

theorem elapse
    (milliseconds : Nat)
    (holds : DataHolds db key payload since) :
    DataHolds (db.elapse milliseconds) key payload since := by
  obtain ⟨started, alive⟩ := holds
  constructor
  · exact Nat.le_trans started (Nat.le_add_right _ _)
  · intro living
    change db.now + milliseconds < lifeEnd since at living
    rw [Database.find_elapse, alive (by omega)]
    simp [Option.filter, Entry.alive, living]

end DataHolds

namespace Send.Held

variable {mPrefix : Bytes} {db : Database} {send : Send}

/-- A message stays held when its data stays, and its list goes on holding the
key for as long. -/
theorem of_parts
    {later : Database}
    (held : send.Held mPrefix db)
    (sameTime : later.now = db.now)
    (kept : ∀ value deadline,
      db.find (cStr send.dataKey) = some ⟨.string value, deadline⟩ →
      later.find (cStr send.dataKey) = some ⟨.string value, deadline⟩)
    (list : ∀ horizon, send.stage.pushed = true →
      (∀ least, horizon = some least → least ≤ lifeEnd db.now) →
      ListHolds db (send.channelKey mPrefix) send.dataKey horizon →
      ListHolds later (send.channelKey mPrefix) send.dataKey horizon) :
    send.Held mPrefix later := by
  unfold Send.Held at *
  split at held
  next => trivial
  next => exact kept _ _ held
  next => exact held.of_string sameTime kept
  next since stage =>
    obtain ⟨data, holds⟩ := held
    refine ⟨data.of_string sameTime kept, fun living => ?_⟩
    rw [sameTime] at living
    rw [stage] at list
    exact list none rfl (by simp) (holds living)
  next since stage =>
    obtain ⟨data, holds⟩ := held
    refine ⟨data.of_string sameTime kept, fun living => ?_⟩
    rw [sameTime] at living
    rw [stage] at list
    refine list (some (lifeEnd since)) rfl ?_ (holds living)
    intro least equal
    cases equal
    exact Nat.add_le_add_right data.1 _

/-- A command on other keys. -/
theorem execute
    {command : Command}
    (held : send.Held mPrefix db)
    (data : cStr send.dataKey ∉ command.changes)
    (list : send.channelKey mPrefix ∉ command.changes) :
    send.Held mPrefix (db.execute command).1 :=
  held.of_parts (Database.now_execute db command)
    (fun _ _ found => (Database.find_execute_ne data).trans found)
    fun _ _ _ holds => holds.of_find (Database.find_execute_ne list)

/-- A `Send` appends to a list that holds no data. -/
theorem rpush
    {key : Bytes}
    (new : Bytes)
    (held : send.Held mPrefix db)
    (apart : cStr send.dataKey ≠ key) :
    send.Held mPrefix (db.execute (.rpush key new)).1 := by
  apply held.of_parts (Database.now_execute db _)
  · intro value deadline found
    rwa [Database.find_execute_ne (List.mem_singleton.not.mpr apart)]
  · intro horizon _ _ holds
    by_cases same : send.channelKey mPrefix = key
    · rw [same] at holds ⊢
      exact holds.rpush new
    · exact holds.of_find
        (Database.find_execute_ne (List.mem_singleton.not.mpr same))

/-- A `Send` sets the deadline of a list that holds no data. -/
theorem expire
    {key : Bytes}
    (held : send.Held mPrefix db)
    (apart : cStr send.dataKey ≠ key) :
    send.Held mPrefix (db.execute (.expire key (mExpiry + 10))).1 := by
  apply held.of_parts (Database.now_execute db _)
  · intro value deadline found
    rwa [Database.find_execute_ne (List.mem_singleton.not.mpr apart)]
  · intro horizon _ bound holds
    by_cases same : send.channelKey mPrefix = key
    · rw [same] at holds ⊢
      apply holds.expire (by decide)
      intro least equal
      have before := bound least equal
      simp only [lifeEnd, mExpiry] at before ⊢
      omega
    · exact holds.of_find
        (Database.find_execute_ne (List.mem_singleton.not.mpr same))

/-- `BLPOP` takes something else than the key of the message. -/
theorem blpop
    {keys : List Bytes}
    (held : send.Held mPrefix db)
    (other : send.stage.pushed = true → (db.popFirst keys).2 ≠
      .array [send.channelKey mPrefix, send.dataKey]) :
    send.Held mPrefix (db.popFirst keys).1 := by
  apply held.of_parts (Database.now_popFirst db keys)
  · intro value deadline found
    exact Database.find_popFirst_string keys found
  · intro horizon isPushed _ holds
    have other := other isPushed
    rcases Database.popFirst_cases db keys with
      ⟨key, -, item, items, deadline, found, equal⟩ | equal | equal
    · rw [equal] at other ⊢
      by_cases same : send.channelKey mPrefix = key
      · subst same
        apply holds.put_listEntry found
        rintro rfl
        exact other rfl
      · exact holds.of_find (Database.find_put_ne _ same)
    · rwa [equal]
    · rwa [equal]

/-- Time passes, but not the deadline of a list that still waits for its
`EXPIRE`. -/
theorem elapse
    {milliseconds : Nat}
    (held : send.Held mPrefix db)
    (survives : send.outlasted mPrefix db milliseconds = true) :
    send.Held mPrefix (db.elapse milliseconds) := by
  unfold Send.Held at *
  split at held
  next => trivial
  next =>
    rw [Database.find_elapse, held]
    rfl
  next => exact held.elapse milliseconds
  next since stage =>
    obtain ⟨data, holds⟩ := held
    refine ⟨data.elapse milliseconds, fun living => ?_⟩
    change db.now + milliseconds < lifeEnd since at living
    have list := holds (by omega)
    obtain ⟨items, deadline, found, member, -⟩ := list
    rw [Send.outlasted, stage, decide_eq_true_eq] at survives
    have listed := List.contains_iff_mem.mpr member
    have alive := survives living (by rwa [Database.itemsAt, found])
    apply (holds (by omega)).elapse
    intro entry equal
    rwa [equal, Option.all_some] at alive
  next since _ =>
    obtain ⟨data, holds⟩ := held
    refine ⟨data.elapse milliseconds, fun living => ?_⟩
    change db.now + milliseconds < lifeEnd since at living
    have list := holds (by omega)
    obtain ⟨items, deadline, found, member, bound⟩ := list
    apply (holds (by omega)).elapse
    intro entry equal
    rw [found] at equal
    cases equal
    rw [Entry.alive]
    split
    · rfl
    next ends isDeadline =>
      have later := bound ends isDeadline (lifeEnd since) rfl
      exact decide_eq_true (by omega)

/-- The next command of the `Send` itself. -/
theorem advance
    {command : Command}
    (held : send.Held mPrefix db)
    (apart : cStr send.dataKey ≠ send.channelKey mPrefix)
    (issues : send.command mPrefix = some command)
    (succeeds : (db.execute command).2.isError = false) :
    (send.advance db.now).Held mPrefix (db.execute command).1 := by
  have sameTime := Database.now_execute db command
  obtain ⟨channel, buffer, dataKey, stage⟩ := send
  cases stage with
  | set =>
      cases issues
      exact Database.find_set db _ buffer
  | expireData =>
      cases issues
      constructor
      · exact Nat.le_of_eq sameTime.symm
      · intro _
        exact Database.find_expire (by decide) held
  | push since =>
      cases issues
      have data : DataHolds db (cStr dataKey) buffer since := held
      refine ⟨data.of_string sameTime fun value deadline found => ?_, fun _ => ?_⟩
      · rwa [Database.find_execute_ne (List.mem_singleton.not.mpr apart)]
      · obtain ⟨items, deadline, found, member⟩ :=
          Database.mem_of_rpush succeeds
        exact ⟨items, deadline, found, member, by simp⟩
  | expireChannel since =>
      cases issues
      obtain ⟨data, holds⟩ :
        DataHolds db (cStr dataKey) buffer since ∧ (db.now < lifeEnd since →
          ListHolds db (cStr (mPrefix ++ channel)) dataKey none) := held
      refine ⟨data.of_string sameTime fun value deadline found => ?_,
        fun living => ?_⟩
      · rwa [Database.find_execute_ne (List.mem_singleton.not.mpr apart)]
      · rw [sameTime] at living
        apply (holds living).expire (by decide)
        intro least equal
        cases equal
        have started := data.1
        simp only [lifeEnd, mExpiry]
        omega
  | done since => cases issues

/-- A command of another `Send`. -/
theorem of_other
    {issuer : Send}
    {command : Command}
    (held : send.Held mPrefix db)
    (issues : issuer.command mPrefix = some command)
    (data : cStr send.dataKey ≠ cStr issuer.dataKey)
    (list : cStr issuer.dataKey ≠ send.channelKey mPrefix)
    (apart : cStr send.dataKey ≠ issuer.channelKey mPrefix) :
    send.Held mPrefix (db.execute command).1 := by
  unfold Send.command at issues
  split at issues <;> cases issues
  · exact held.execute (List.mem_singleton.not.mpr data)
      (List.mem_singleton.not.mpr list.symm)
  · exact held.execute (List.mem_singleton.not.mpr data)
      (List.mem_singleton.not.mpr list.symm)
  · exact held.rpush _ apart
  · exact held.expire apart

/-- A command of a `ReceiveMany` that does not pop the message. -/
theorem of_receive
    {receive : Receive}
    {command : Command}
    (held : send.Held mPrefix db)
    (issues : receive.command = some command)
    (other : send.stage.pushed = true → (db.execute command).2 ≠
      .array [send.channelKey mPrefix, send.dataKey]) :
    send.Held mPrefix (db.execute command).1 := by
  unfold Receive.command at issues
  split at issues <;> cases issues
  · exact held.blpop other
  · exact held.execute List.not_mem_nil List.not_mem_nil

end Send.Held

/-! ## Runs that lose nothing -/

/-- No list expires between the `RPUSH` and the `EXPIRE` of a `Send` that put a
live key into it. -/
def Layer.outlasts (mPrefix : Bytes) (layer : Layer) : LayerLabel → Bool
  | .elapse milliseconds =>
      layer.sends.all (Send.outlasted mPrefix layer.db milliseconds)
  | _ => true

/-- An orderly run in which lists outlast the `Send`s to them. -/
def ListsKept (mPrefix : Bytes) (layer : Layer) (label : LayerLabel) : Prop :=
  Orderly mPrefix layer label ∧ layer.outlasts mPrefix label = true

instance (mPrefix : Bytes) (layer : Layer) (label : LayerLabel) :
    Decidable (ListsKept mPrefix layer label) :=
  inferInstanceAs (Decidable (_ ∧ _))

/-- What Redis holds of every message that nobody has popped. -/
structure MessagesHeld
    (mPrefix : Bytes) (trace : List LayerEvent) (layer : Layer) : Prop where
  distinct : KeysDistinct mPrefix layer
  pushed : ∀ {index : Nat} {send : Send},
    layer.calls[index]? = some (.send send) → send.stage.pushed = true →
    .pushed index send.channel send.dataKey send.buffer ∈ trace
  held : ∀ {index : Nat} {send : Send},
    layer.calls[index]? = some (.send send) →
    ¬ PoppedSince mPrefix trace index send → send.Held mPrefix layer.db

/-- What was popped stays popped. -/
theorem PoppedSince.append
    {mPrefix : Bytes}
    {trace : List LayerEvent}
    {index : Nat}
    {send : Send}
    (popped : PoppedSince mPrefix trace index send)
    (events : List LayerEvent) :
    PoppedSince mPrefix (trace ++ events) index send := by
  obtain ⟨before, after, receiver, held, rfl, member⟩ := popped
  exact ⟨before, after ++ events, receiver, held, by simp,
    List.mem_append_left events member⟩

@[simp] theorem PoppedSince.advance_iff
    (mPrefix : Bytes) (trace : List LayerEvent) (index now : Nat) (send : Send) :
    PoppedSince mPrefix trace index (send.advance now) ↔
      PoppedSince mPrefix trace index send := by
  simp [PoppedSince]

/-- A `Send` that has pushed its key has said so. -/
theorem Send.pushed_advance
    {mPrefix : Bytes}
    {trace : List LayerEvent}
    {db : Database}
    {index : Nat}
    {command : Command}
    (send : Send)
    (before : send.stage.pushed = true →
      .pushed index send.channel send.dataKey send.buffer ∈ trace)
    (issues : send.command mPrefix = some command)
    (succeeds : (db.execute command).2.isError = false)
    (after : (send.advance db.now).stage.pushed = true) :
    .pushed index send.channel send.dataKey send.buffer ∈
      trace ++ sendEvents index send (db.execute command).2 := by
  obtain ⟨channel, buffer, dataKey, stage⟩ := send
  cases stage with
  | set => cases after
  | expireData => cases after
  | push since =>
      cases issues
      obtain ⟨value, reply⟩ := Database.reply_of_rpush succeeds
      rw [reply]
      exact List.mem_append_right trace (List.mem_singleton_self _)
  | expireChannel since => exact List.mem_append_left _ (before rfl)
  | done since => cases issues

/-- A `ReceiveMany` that pops a key says so. -/
theorem Receive.popped_of_array
    {command : Command}
    {key item : Bytes}
    (receive : Receive)
    (index : Nat)
    (db : Database)
    (mPrefix : Bytes)
    (issues : receive.command = some command)
    (pops : (db.execute command).2 = .array [key, item]) :
    .popped index key item (db.stringAt (cStr item)) ∈
      receiveEvents index db receive
        (receive.advance mPrefix (some (db.execute command).2))
        (db.execute command).2 := by
  obtain ⟨channels, keys, stage⟩ := receive
  cases stage with
  | pop =>
      rw [pops]
      exact List.mem_append_left _ (List.mem_singleton_self _)
  | get channel dataKey =>
      cases issues
      rw [Database.execute] at pops
      split at pops <;> cases pops
  | done channel payload => cases issues
  | crashed => cases issues

/-- Each step keeps what Redis holds of the messages. -/
theorem MessagesHeld.step
    {mPrefix : Bytes}
    {trace events : List LayerEvent}
    {layer next : Layer}
    {label : LayerLabel}
    (before : MessagesHeld mPrefix trace layer)
    (kept : ListsKept mPrefix layer label)
    (steps : LayerStep mPrefix layer label next events) :
    MessagesHeld mPrefix (trace ++ events) next where
  distinct := before.distinct.step
    (fun _ _ _ starts => by rw [starts] at kept; exact kept.1) steps
  pushed := by
    intro index send located isPushed
    cases steps with
    | startSend generated =>
        rcases getElem?_append_singleton located with old | ⟨-, equal⟩
        · exact List.mem_append_left _ (before.pushed old isPushed)
        · cases equal
          cases isPushed
    | startReceive shuffled =>
        rcases getElem?_append_singleton located with old | ⟨-, equal⟩
        · exact List.mem_append_left _ (before.pushed old isPushed)
        · cases equal
    | @send current issuer command found issues =>
        rcases getElem?_set_cases located with ⟨rfl, equal⟩ | ⟨-, old⟩
        · cases equal
          rw [Send.advance_channel, Send.advance_dataKey, Send.advance_buffer]
          exact issuer.pushed_advance (before.pushed found) issues
            (layer.succeeds_of_send kept.1 found issues) isPushed
        · exact List.mem_append_left _ (before.pushed old isPushed)
    | receive found issues =>
        rcases getElem?_set_cases located with ⟨-, equal⟩ | ⟨-, old⟩
        · cases equal
        · exact List.mem_append_left _ (before.pushed old isPushed)
    | elapse => exact List.mem_append_left _ (before.pushed located isPushed)
  held := by
    intro index send located notPopped
    cases steps with
    | startSend generated =>
        rcases getElem?_append_singleton located with old | ⟨-, equal⟩
        · exact before.held old (fun popped => notPopped (popped.append []))
        · cases equal
          trivial
    | startReceive shuffled =>
        rcases getElem?_append_singleton located with old | ⟨-, equal⟩
        · exact before.held old (fun popped => notPopped (popped.append []))
        · cases equal
    | @send current issuer command found issues =>
        rcases getElem?_set_cases located with ⟨rfl, equal⟩ | ⟨different, old⟩
        · cases equal
          rw [PoppedSince.advance_iff] at notPopped
          exact (before.held found fun popped =>
            notPopped (popped.append _)).advance
              (before.distinct.list found found) issues
              (layer.succeeds_of_send kept.1 found issues)
        · exact (before.held old fun popped =>
            notPopped (popped.append _)).of_other issues
              (fun same => different
                (before.distinct.data old found same).symm)
              (before.distinct.list found old)
              (before.distinct.list old found)
    | @receive current receive command found issues =>
        rcases getElem?_set_cases located with ⟨-, equal⟩ | ⟨-, old⟩
        · cases equal
        · refine (before.held old fun popped =>
            notPopped (popped.append _)).of_receive issues ?_
          intro isPushed pops
          apply notPopped
          obtain ⟨earlier, later, rfl⟩ :=
            List.append_of_mem (before.pushed old isPushed)
          have popped :=
            receive.popped_of_array current layer.db mPrefix issues pops
          exact ⟨earlier, later ++ _, current, _, List.append_assoc _ _ _,
            List.mem_append_right later popped⟩
    | elapse =>
        exact (before.held located fun popped =>
          notPopped (popped.append [])).elapse
            (List.all_eq_true.mp kept.2 send
              (Layer.mem_sends.mpr (List.mem_of_getElem? located)))

/-- In a run without such an expiry, a message whose `Send` has completed is
there to be received until somebody pops it or its life ends. -/
theorem live_messages_kept
    {mPrefix : Bytes}
    {db : Database}
    {labels : List LayerLabel}
    {trace : List LayerEvent}
    {layer : Layer}
    {index since : Nat}
    {send : Send}
    (run : EventMachine.Run (channelLayer mPrefix) (ListsKept mPrefix)
      { db := db } labels trace layer)
    (located : layer.calls[index]? = some (.send send))
    (completed : send.stage = .done since)
    (living : layer.db.now < lifeEnd since)
    (waiting : ¬ PoppedSince mPrefix trace index send) :
    layer.db.stringAt (cStr send.dataKey) = some send.buffer ∧
      send.dataKey ∈ layer.db.itemsAt (send.channelKey mPrefix) := by
  have initially : MessagesHeld mPrefix [] { db := db } := {
    distinct := ⟨by simp, by simp⟩
    pushed := by simp
    held := by simp }
  have reached := run.preserves_trace (MessagesHeld mPrefix) initially
    fun trace layer label next events before kept steps =>
      before.step kept (layerStep_of_channelLayer steps)
  have held := reached.held located waiting
  rw [Send.Held, completed] at held
  obtain ⟨data, list⟩ := held
  obtain ⟨items, deadline, found, member, -⟩ := list living
  constructor
  · rw [Database.stringAt, data.2 living]
  · rwa [Database.itemsAt, found]

/-- Nothing that was not said to be popped was popped. -/
theorem not_poppedSince
    {mPrefix : Bytes}
    {trace : List LayerEvent}
    {index : Nat}
    {send : Send}
    (none : ∀ receiver key item held, .popped receiver key item held ∉ trace) :
    ¬ PoppedSince mPrefix trace index send := by
  rintro ⟨before, after, receiver, held, rfl, member⟩
  exact none _ _ _ _ (List.mem_append_right before
    (List.mem_cons_of_mem _ member))

/-- A message that is sent a second after the list was extended by another. -/
def keptRun : List LayerLabel :=
  [.startSend (ascii "c") [1] (ascii "AAAAAAAAAA"),
    .runCommand 0, .runCommand 0, .runCommand 0, .runCommand 0,
    .elapse 1000,
    .startSend (ascii "c") [2, 0] (ascii "BBBBBBBBBB"),
    .runCommand 1, .runCommand 1, .runCommand 1, .elapse 1000, .runCommand 1,
    .elapse 50000]

/-- The second message of this run. -/
def secondSend (buffer : Bytes) (since : Nat) : Send where
  channel := ascii "c"
  buffer := buffer
  dataKey := ascii "asgi:BBBBBBBBBB"
  stage := .done since

theorem live_messages_kept_sample :
    ∃ trace layer,
      EventMachine.Run (channelLayer defaultPrefix) (ListsKept defaultPrefix) {}
        keptRun trace layer ∧
      layer.db.stringAt (ascii "asgi:BBBBBBBBBB") = some [2, 0] ∧
      ascii "asgi:BBBBBBBBBB" ∈ layer.db.itemsAt (ascii "asgi:c") := by
  have checked : EventMachine.checks (channelLayer defaultPrefix)
      (ListsKept defaultPrefix) {} keptRun
      (fun layer trace =>
        layer.calls[1]? = some (.send (secondSend [2, 0] 1000)) ∧
        layer.db.now < lifeEnd 1000 ∧
        trace = [.pushed 0 (ascii "c") (ascii "asgi:AAAAAAAAAA") [1],
          .pushed 1 (ascii "c") (ascii "asgi:BBBBBBBBBB") [2, 0]]) = true := by
    decide +kernel
  obtain ⟨trace, layer, run, located, living, shown⟩ :=
    EventMachine.Run.of_checks checked
  exact ⟨trace, layer, run,
    live_messages_kept run located rfl living
      (not_poppedSince (by simp [shown]))⟩

/-- The list of the first message expires between the second message's `RPUSH`
and its `EXPIRE`. -/
def lostRun : List LayerLabel :=
  [.startSend (ascii "c") [1] (ascii "AAAAAAAAAA"),
    .runCommand 0, .runCommand 0, .runCommand 0, .runCommand 0,
    .elapse 65000,
    .startSend (ascii "c") [2] (ascii "BBBBBBBBBB"),
    .runCommand 1, .runCommand 1, .runCommand 1, .elapse 10000, .runCommand 1]

/-- Ten seconds after it was stored, a message that nobody popped is in no
list, although its `Send` has completed and every command succeeded. -/
theorem inherited_expiry_loses :
    ∃ trace layer,
      EventMachine.Run (channelLayer defaultPrefix) (Orderly defaultPrefix) {}
        lostRun trace layer ∧
      layer.calls[1]? = some (.send (secondSend [2] 65000)) ∧
      layer.db.now < lifeEnd 65000 ∧
      ¬ PoppedSince defaultPrefix trace 1 (secondSend [2] 65000) ∧
      layer.db.itemsAt (ascii "asgi:c") = [] := by
  have checked : EventMachine.checks (channelLayer defaultPrefix)
      (Orderly defaultPrefix) {} lostRun
      (fun layer trace =>
        layer.calls[1]? = some (.send (secondSend [2] 65000)) ∧
        layer.db.now < lifeEnd 65000 ∧
        trace = [.pushed 0 (ascii "c") (ascii "asgi:AAAAAAAAAA") [1],
          .pushed 1 (ascii "c") (ascii "asgi:BBBBBBBBBB") [2]] ∧
        layer.db.itemsAt (ascii "asgi:c") = []) = true := by
    decide +kernel
  obtain ⟨trace, layer, run, located, living, shown, lost⟩ :=
    EventMachine.Run.of_checks checked
  exact ⟨trace, layer, run, located, living,
    not_poppedSince (by simp [shown]), lost⟩

end RedisChannelLayer
end IisAsgiHandler
