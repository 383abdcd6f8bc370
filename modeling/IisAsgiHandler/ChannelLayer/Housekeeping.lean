import IisAsgiHandler.ChannelLayer.Steps

/-!
# What the channel layer leaves behind

`Send` gives a limited life to the key that it stores, and one to the list of
its channel.  Where a `Send` is cut off in between, a key stays for ever.  All
other keys are gone after a time: whatever is found belongs to a `Send` that had
not finished when the longest life began that a key is ever given.
-/

namespace IisAsgiHandler
namespace RedisChannelLayer

open EventMachine (Run always)
open Redis (Database Command Entry)

/-- The longest life that a key is given, in milliseconds. -/
def longestLife : Nat := 1000 * (mExpiry + 10)

/-- The next command of a `Send` gives a life to a key. -/
def Send.Owes (mPrefix : Bytes) (send : Send) (key : Bytes) : Prop :=
  ∃ seconds, send.command mPrefix = some (.expire key seconds)

/-- An entry that is gone by some time. -/
def EndsBy (horizon : Nat) (entry : Entry) : Prop :=
  ∃ deadline, entry.deadline = some deadline ∧ deadline ≤ horizon

theorem EndsBy.mono
    {horizon later : Nat}
    {entry : Entry}
    (ordered : horizon ≤ later)
    (ends : EndsBy horizon entry) :
    EndsBy later entry := by
  obtain ⟨deadline, equal, bound⟩ := ends
  exact ⟨deadline, equal, bound.trans ordered⟩

/-- After that time it is not found. -/
theorem EndsBy.not_found
    {horizon : Nat}
    {db : Database}
    {key : Bytes}
    {entry : Entry}
    (ends : EndsBy horizon entry)
    (passed : horizon ≤ db.now) :
    db.find key ≠ some entry := by
  intro found
  have alive := Database.alive_of_find found
  obtain ⟨deadline, equal, bound⟩ := ends
  rw [Entry.alive, equal, decide_eq_true_eq] at alive
  omega

/-! ## The commands of a `Send` -/

namespace Send

variable {mPrefix key : Bytes} {send : Send}

/-- A key that a `Send` creates is the next to be given a life. -/
theorem owes_of_creates
    {command : Command}
    (now : Nat)
    (issues : send.command mPrefix = some command)
    (creates : (∃ value, command = .set key value) ∨
      ∃ item, command = .rpush key item) :
    (send.advance now).Owes mPrefix key := by
  unfold Owes advance
  unfold Send.command at issues
  cases stage : send.stage with
  | set =>
      rw [stage] at issues
      rcases creates with ⟨value, rfl⟩ | ⟨item, rfl⟩
      · cases issues
        exact ⟨mExpiry, rfl⟩
      · cases issues
  | push since =>
      rw [stage] at issues
      rcases creates with ⟨value, rfl⟩ | ⟨item, rfl⟩
      · cases issues
      · cases issues
        exact ⟨mExpiry + 10, rfl⟩
  | expireData =>
      rw [stage] at issues
      rcases creates with ⟨value, rfl⟩ | ⟨item, rfl⟩ <;> cases issues
  | expireChannel since =>
      rw [stage] at issues
      rcases creates with ⟨value, rfl⟩ | ⟨item, rfl⟩ <;> cases issues
  | done since =>
      rw [stage] at issues
      cases issues

/-- The lives that a `Send` gives. -/
theorem seconds_le
    {seconds : Nat}
    (issues : send.command mPrefix = some (.expire key seconds)) :
    seconds ≤ mExpiry + 10 := by
  unfold Send.command at issues
  split at issues
  all_goals cases issues
  · exact Nat.le_add_right mExpiry 10
  · exact Nat.le_refl _

/-- The keys that a `Send` changes are its own key and its list. -/
theorem mem_changes
    {command : Command}
    (issues : send.command mPrefix = some command)
    (changed : key ∈ command.changes) :
    key = cStr send.dataKey ∨ key = send.channelKey mPrefix := by
  unfold Send.command at issues
  split at issues
  all_goals cases issues
  · exact .inl (List.mem_singleton.mp changed)
  · exact .inl (List.mem_singleton.mp changed)
  · exact .inr (List.mem_singleton.mp changed)
  · exact .inr (List.mem_singleton.mp changed)

end Send

/-- A `ReceiveMany` gives no key a life, and creates none. -/
theorem Receive.deadline_command
    {receive : Receive}
    {command : Command}
    {db : Database}
    {key : Bytes}
    {entry : Entry}
    (issues : receive.command = some command)
    (found : (db.execute command).1.find key = some entry) :
    ∃ earlier, db.find key = some earlier ∧
      earlier.deadline = entry.deadline := by
  have kind : (∃ keys, command = .blpop keys) ∨ ∃ key, command = .get key := by
    unfold Receive.command at issues
    split at issues
    all_goals cases issues
    · exact .inl ⟨_, rfl⟩
    · exact .inr ⟨_, rfl⟩
  rcases Database.deadline_execute found with
    ⟨earlier, before, same, -⟩ | ⟨-, creates⟩ | ⟨seconds, expires, -⟩
  · exact ⟨earlier, before, same⟩
  · rcases kind with ⟨keys, rfl⟩ | ⟨other, rfl⟩ <;>
      rcases creates with ⟨value, equal⟩ | ⟨item, equal⟩ <;> cases equal
  · rcases kind with ⟨keys, rfl⟩ | ⟨other, rfl⟩ <;> cases expires

/-! ## Keys without a limit -/

/-- Every key has a limited life, or a `Send` is about to give it one. -/
def Limited (mPrefix : Bytes) (layer : Layer) : Prop :=
  ∀ key entry, layer.db.find key = some entry →
    EndsBy (layer.db.now + longestLife) entry ∨
    ∃ (index : Nat) (send : Send),
      layer.calls[index]? = some (.send send) ∧ send.Owes mPrefix key

/-- A step keeps that up. -/
theorem Limited.step
    {mPrefix : Bytes}
    {layer next : Layer}
    {label : LayerLabel}
    {events : List LayerEvent}
    (limited : Limited mPrefix layer)
    (steps : LayerStep mPrefix layer label next events) :
    Limited mPrefix next := by
  intro key entry found
  cases steps with
  | startSend generated =>
      rcases limited key entry found with ends | ⟨index, send, located, owes⟩
      · exact .inl ends
      · exact .inr ⟨index, send,
          List.getElem?_append_left (List.getElem?_eq_some_iff.mp located).1 ▸
            located, owes⟩
  | startReceive shuffled =>
      rcases limited key entry found with ends | ⟨index, send, located, owes⟩
      · exact .inl ends
      · exact .inr ⟨index, send,
          List.getElem?_append_left (List.getElem?_eq_some_iff.mp located).1 ▸
            located, owes⟩
  | @send index send command isSend issues =>
      have bound := (List.getElem?_eq_some_iff.mp isSend).1
      rw [Database.now_execute]
      rcases Database.deadline_execute found with
        ⟨earlier, before, same, unlimited⟩ | ⟨-, creates⟩ |
          ⟨seconds, expires, equal⟩
      · rcases limited key earlier before with ends | ⟨other, debtor, located, owes⟩
        · obtain ⟨deadline, isDeadline, early⟩ := ends
          exact .inl ⟨deadline, same ▸ isDeadline, early⟩
        · have different : index ≠ other := by
            rintro rfl
            cases isSend.symm.trans located
            obtain ⟨seconds, expires⟩ := owes
            exact unlimited seconds (Option.some.inj (issues.symm.trans expires))
          exact .inr ⟨other, debtor,
            (List.getElem?_set_ne different).trans located, owes⟩
      · exact .inr ⟨index, _, List.getElem?_set_self bound,
          send.owes_of_creates layer.db.now issues creates⟩
      · rw [expires] at issues
        have short := send.seconds_le issues
        refine .inl ⟨_, equal, ?_⟩
        unfold longestLife
        omega
  | @receive index receive command isReceive issues =>
      obtain ⟨earlier, before, same⟩ := receive.deadline_command issues found
      rw [Database.now_execute]
      rcases limited key earlier before with ends | ⟨other, debtor, located, owes⟩
      · obtain ⟨deadline, isDeadline, early⟩ := ends
        exact .inl ⟨deadline, same ▸ isDeadline, early⟩
      · have different : index ≠ other := by
          rintro rfl
          cases isReceive.symm.trans located
        exact .inr ⟨other, debtor,
          (List.getElem?_set_ne different).trans located, owes⟩
  | @elapse milliseconds =>
      rw [Database.find_elapse, Option.filter_eq_some_iff] at found
      rcases limited key entry found.1 with ends | owed
      · exact .inl (ends.mono (Nat.add_le_add_right
          (Nat.le_add_right layer.db.now milliseconds) longestLife))
      · exact .inr owed

/-- In every run, every key has a limited life or is about to get one. -/
theorem limited_of_run
    {mPrefix : Bytes}
    {labels : List LayerLabel}
    {trace : List LayerEvent}
    {layer : Layer}
    (run : Run (channelLayer mPrefix) always {} labels trace layer) :
    Limited mPrefix layer := by
  apply run.preserves (Limited mPrefix)
  · intro key entry found
    cases found
  · intro state label next events limited _ steps
    exact limited.step (layerStep_of_channelLayer steps)

/-! ## What is left after a time -/

/-- The data key or the list of a `Send` that had not finished in an earlier
state. -/
def OfUnfinished (mPrefix : Bytes) (earlier layer : Layer) (key : Bytes) :
    Prop :=
  ∃ (index : Nat) (send : Send),
    layer.calls[index]? = some (.send send) ∧
    (key = cStr send.dataKey ∨ key = send.channelKey mPrefix) ∧
    ∀ before since, earlier.calls[index]? = some (.send before) →
      before.stage ≠ .done since

/-- A `Send` that owes a key a life has not finished. -/
theorem ofUnfinished_of_owes
    {mPrefix key : Bytes}
    {layer : Layer}
    {index : Nat}
    {send : Send}
    (located : layer.calls[index]? = some (.send send))
    (owes : send.Owes mPrefix key) :
    OfUnfinished mPrefix layer layer key := by
  obtain ⟨seconds, issues⟩ := owes
  refine ⟨index, send, located,
    send.mem_changes issues (List.mem_singleton_self key), ?_⟩
  rintro before since same finished
  cases located.symm.trans same
  rw [Send.command, finished] at issues
  cases issues

/-- It stays one. -/
theorem OfUnfinished.step
    {mPrefix key : Bytes}
    {earlier layer next : Layer}
    {label : LayerLabel}
    {events : List LayerEvent}
    (unfinished : OfUnfinished mPrefix earlier layer key)
    (steps : LayerStep mPrefix layer label next events) :
    OfUnfinished mPrefix earlier next key := by
  obtain ⟨index, send, located, itsKey, early⟩ := unfinished
  obtain ⟨later, afterwards, dataKey, channel, -⟩ := steps.send_after located
  refine ⟨index, later, afterwards, ?_, early⟩
  rw [dataKey, Send.channelKey, channel]
  exact itsKey

/-- Since an earlier state finished `Send`s have stayed finished, and what is
found ends by a horizon or belongs to another `Send`. -/
structure Aging
    (mPrefix : Bytes) (earlier : Layer) (horizon : Nat) (layer : Layer) :
    Prop where
  finished : ∀ {index : Nat} {send : Send} {since : Nat},
    earlier.calls[index]? = some (.send send) → send.stage = .done since →
    layer.calls[index]? = some (.send send)
  found : ∀ {key : Bytes} {entry : Entry}, layer.db.find key = some entry →
    EndsBy horizon entry ∨ OfUnfinished mPrefix earlier layer key

/-- A `Send` that has finished issues no commands. -/
theorem LayerStep.send_done
    {mPrefix : Bytes}
    {layer next : Layer}
    {label : LayerLabel}
    {events : List LayerEvent}
    {index since : Nat}
    {send : Send}
    (steps : LayerStep mPrefix layer label next events)
    (located : layer.calls[index]? = some (.send send))
    (done : send.stage = .done since) :
    next.calls[index]? = some (.send send) := by
  have bound := (List.getElem?_eq_some_iff.mp located).1
  cases steps with
  | startSend generated => exact (List.getElem?_append_left bound).trans located
  | startReceive shuffled => exact (List.getElem?_append_left bound).trans located
  | @send current other command found issues =>
      have different : current ≠ index := by
        rintro rfl
        cases found.symm.trans located
        rw [Send.command, done] at issues
        cases issues
      exact (List.getElem?_set_ne different).trans located
  | @receive current receive command found issues =>
      have different : current ≠ index := by
        rintro rfl
        cases found.symm.trans located
      exact (List.getElem?_set_ne different).trans located
  | elapse => exact located

theorem Aging.step
    {mPrefix : Bytes}
    {earlier layer next : Layer}
    {horizon : Nat}
    {label : LayerLabel}
    {events : List LayerEvent}
    (aging : Aging mPrefix earlier horizon layer)
    (steps : LayerStep mPrefix layer label next events) :
    Aging mPrefix earlier horizon next where
  finished := by
    intro index send since located done
    exact steps.send_done (aging.finished located done) done
  found := by
    intro key entry found
    have kept : ∀ before, layer.db.find key = some before →
        before.deadline = entry.deadline →
        EndsBy horizon entry ∨ OfUnfinished mPrefix earlier next key := by
      intro before isBefore same
      rcases aging.found isBefore with ⟨deadline, equal, bound⟩ | unfinished
      · exact .inl ⟨deadline, same ▸ equal, bound⟩
      · exact .inr (unfinished.step steps)
    cases steps with
    | startSend generated => exact kept entry found rfl
    | startReceive shuffled => exact kept entry found rfl
    | @send index send command isSend issues =>
        by_cases changed : key ∈ command.changes
        · -- The `Send` goes on, so it had not finished.
          refine .inr ⟨index, _, List.getElem?_set_self
            (List.getElem?_eq_some_iff.mp isSend).1, ?_, ?_⟩
          · rw [Send.advance_dataKey, Send.advance_channelKey]
            exact send.mem_changes issues changed
          · intro before since located done
            cases isSend.symm.trans (aging.finished located done)
            rw [Send.command, done] at issues
            cases issues
        · rw [Database.find_execute_ne changed] at found
          exact kept entry found rfl
    | receive isReceive issues =>
        obtain ⟨before, isBefore, same⟩ :=
          Receive.deadline_command issues found
        exact kept before isBefore same
    | elapse =>
        rw [Database.find_elapse, Option.filter_eq_some_iff] at found
        exact kept entry found.1 rfl

/-- Whatever Redis holds belongs to a `Send` that had not finished when the
longest life of a key began. -/
theorem leaves_no_keys
    {mPrefix key : Bytes}
    {labels laterLabels : List LayerLabel}
    {trace laterTrace : List LayerEvent}
    {layer last : Layer}
    {entry : Entry}
    (run : Run (channelLayer mPrefix) always {} labels trace layer)
    (later : Run (channelLayer mPrefix) always layer laterLabels laterTrace last)
    (waited : layer.db.now + longestLife ≤ last.db.now)
    (found : last.db.find key = some entry) :
    OfUnfinished mPrefix layer last key := by
  have start : Aging mPrefix layer (layer.db.now + longestLife) layer := by
    refine ⟨fun located _ => located, ?_⟩
    intro key entry found
    rcases limited_of_run run key entry found with
      ends | ⟨index, send, located, owes⟩
    · exact .inl ends
    · exact .inr (ofUnfinished_of_owes located owes)
  have aging : Aging mPrefix layer (layer.db.now + longestLife) last := by
    apply later.preserves _ start
    intro state label next events before _ steps
    exact before.step (layerStep_of_channelLayer steps)
  rcases aging.found found with ends | unfinished
  · exact absurd found (ends.not_found waited)
  · exact unfinished

/-- One `Send` runs to its end, another is cut off after its `SET`. -/
def cutOffRun : List LayerLabel :=
  [.startSend (ascii "c") [1, 0, 2] (ascii "AAAAAAAAAA"),
    .runCommand 0, .runCommand 0, .runCommand 0, .runCommand 0,
    .startSend (ascii "c") [] (ascii "BBBBBBBBBB"), .runCommand 1]

/-- The key of the second one outlives the longest life. -/
theorem leaves_no_keys_sample :
    ∃ trace layer laterTrace last,
      Run (channelLayer defaultPrefix) always {} cutOffRun trace layer ∧
      Run (channelLayer defaultPrefix) always layer [.elapse longestLife]
        laterTrace last ∧
      last.db.stringAt (ascii "asgi:BBBBBBBBBB") = some [] ∧
      ∀ key entry, last.db.find key = some entry →
        OfUnfinished defaultPrefix layer last key := by
  have checked : EventMachine.checks (channelLayer defaultPrefix) always {}
      cutOffRun (fun layer _ =>
        EventMachine.checks (channelLayer defaultPrefix) always layer
          [.elapse longestLife] (fun last _ =>
            layer.db.now + longestLife ≤ last.db.now ∧
            last.db.stringAt (ascii "asgi:BBBBBBBBBB") = some []) = true) =
      true := by
    decide +kernel
  obtain ⟨trace, layer, run, shown⟩ := Run.of_checks checked
  obtain ⟨laterTrace, last, later, waited, held⟩ := Run.of_checks shown
  exact ⟨trace, layer, laterTrace, last, run, later, held,
    fun key entry found => leaves_no_keys run later waited found⟩

end RedisChannelLayer
end IisAsgiHandler
