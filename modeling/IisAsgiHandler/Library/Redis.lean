import Mathlib.Data.List.Basic

/-!
# A Redis database

Keys hold strings or lists, each with an optional deadline on the clock of the
server, in milliseconds.  A key whose deadline has come is no longer found.  The
commands are those of a message queue: `SET`, `EXPIRE`, `RPUSH`, `BLPOP` and
`GET`.
-/

namespace Redis

/-- Keys and strings are binary. -/
abbrev Binary := List UInt8

inductive Stored where
  | string (value : Binary)
  | list (items : List Binary)
  deriving DecidableEq

/-- What a key holds, and when it expires. -/
structure Entry where
  stored : Stored
  deadline : Option Nat
  deriving DecidableEq

/-- The deadline of an entry has not come. -/
def Entry.alive (now : Nat) (entry : Entry) : Bool :=
  match entry.deadline with
  | none => true
  | some deadline => decide (now < deadline)

structure Database where
  now : Nat := 0
  entries : Binary → Option Entry := fun _ => none

inductive Command where
  | set (key value : Binary)
  | expire (key : Binary) (seconds : Nat)
  | rpush (key item : Binary)
  | blpop (keys : List Binary)
  | get (key : Binary)
  deriving DecidableEq

/-- Replies of the server; the elements of an array are strings. -/
inductive Reply where
  | string (str : Binary)
  | array (elements : List Binary)
  | integer (value : Int)
  | nil
  | status (str : Binary)
  | error (str : Binary)
  deriving DecidableEq

def Reply.isError : Reply → Bool
  | .error _ => true
  | _ => false

/-- The reply to a command for another kind of value. -/
def wrongType : Reply :=
  .error
    "WRONGTYPE Operation against a key holding the wrong kind of value".toUTF8.data.toList

/-- The keys that a command can change. -/
def Command.changes : Command → List Binary
  | .set key _ => [key]
  | .expire key _ => [key]
  | .rpush key _ => [key]
  | .blpop keys => keys
  | .get _ => []

namespace Database

/-- What a key holds now. -/
def find (db : Database) (key : Binary) : Option Entry :=
  (db.entries key).filter (Entry.alive db.now)

/-- The string that a key holds now. -/
def stringAt (db : Database) (key : Binary) : Option Binary :=
  match db.find key with
  | some ⟨.string value, _⟩ => some value
  | _ => none

/-- The items of the list that a key holds now; no key, no items. -/
def itemsAt (db : Database) (key : Binary) : List Binary :=
  match db.find key with
  | some ⟨.list items, _⟩ => items
  | _ => []

/-- Let a key hold an entry, or nothing. -/
def put (db : Database) (key : Binary) (entry : Option Entry) : Database :=
  { db with entries := fun other => if other = key then entry else db.entries other }

/-- Let time pass. -/
def elapse (db : Database) (milliseconds : Nat) : Database :=
  { db with now := db.now + milliseconds }

/-- The entry of a list; an empty list is deleted. -/
def listEntry (items : List Binary) (deadline : Option Nat) : Option Entry :=
  if items = [] then none else some ⟨.list items, deadline⟩

/-- `BLPOP`: the first item of the first list, or nil when no key holds one by
the end of the wait. -/
def popFirst (db : Database) : List Binary → Database × Reply
  | [] => (db, .nil)
  | key :: keys =>
      match db.find key with
      | some ⟨.list (item :: items), deadline⟩ =>
          (db.put key (listEntry items deadline), .array [key, item])
      | some ⟨.string _, _⟩ => (db, wrongType)
      | _ => db.popFirst keys

/-- Execute a command.  `SET` drops the deadline of its key, `RPUSH` keeps that
of an existing list, and `EXPIRE` has no effect on a key that holds nothing. -/
def execute (db : Database) : Command → Database × Reply
  | .set key value =>
      (db.put key (some ⟨.string value, none⟩), .status "OK".toUTF8.data.toList)
  | .expire key seconds =>
      match db.find key with
      | none => (db, .integer 0)
      | some entry =>
          (db.put key (some { entry with
            deadline := some (db.now + 1000 * seconds) }), .integer 1)
  | .rpush key item =>
      match db.find key with
      | none => (db.put key (some ⟨.list [item], none⟩), .integer 1)
      | some ⟨.list items, deadline⟩ =>
          (db.put key (some ⟨.list (items ++ [item]), deadline⟩),
            .integer (items.length + 1))
      | some ⟨.string _, _⟩ => (db, wrongType)
  | .blpop keys => db.popFirst keys
  | .get key =>
      match db.find key with
      | none => (db, .nil)
      | some ⟨.string value, _⟩ => (db, .string value)
      | some ⟨.list _, _⟩ => (db, wrongType)

variable {db : Database} {key other : Binary}

@[simp] theorem now_put (db : Database) (key : Binary) (entry : Option Entry) :
    (db.put key entry).now = db.now := rfl

theorem find_put_self (db : Database) (key : Binary) (entry : Option Entry) :
    (db.put key entry).find key = entry.filter (Entry.alive db.now) := by
  simp [find, put]

theorem find_put_ne (entry : Option Entry) (different : other ≠ key) :
    (db.put key entry).find other = db.find other := by
  simp [find, put, different]

/-- What is found is alive. -/
theorem alive_of_find {entry : Entry} (found : db.find key = some entry) :
    entry.alive db.now = true := by
  rw [find, Option.filter_eq_some_iff] at found
  exact found.2

theorem alive_mono
    {entry : Entry}
    {now later : Nat}
    (ordered : now ≤ later)
    (alive : entry.alive later = true) :
    entry.alive now = true := by
  unfold Entry.alive at *
  split at alive
  · rfl
  · rw [decide_eq_true_eq] at alive ⊢
    omega

/-- After some time a key holds what it held, if that is still alive. -/
theorem find_elapse (db : Database) (milliseconds : Nat) (key : Binary) :
    (db.elapse milliseconds).find key =
      (db.find key).filter (Entry.alive (db.now + milliseconds)) := by
  rw [find, find, elapse]
  cases db.entries key with
  | none => rfl
  | some entry =>
      by_cases later : entry.alive (db.now + milliseconds) = true
      · have before := alive_mono (Nat.le_add_right db.now milliseconds) later
        simp [Option.filter, later, before]
      · by_cases before : entry.alive db.now = true
        · simp [Option.filter, later, before]
        · simp [Option.filter, later, before]

@[simp] theorem now_popFirst (db : Database) (keys : List Binary) :
    (db.popFirst keys).1.now = db.now := by
  induction keys with
  | nil => rfl
  | cons key keys inductionHypothesis =>
      rw [popFirst]
      split
      · rfl
      · rfl
      · exact inductionHypothesis

/-- Commands take no time. -/
@[simp] theorem now_execute (db : Database) (command : Command) :
    (db.execute command).1.now = db.now := by
  cases command with
  | set key value => rfl
  | expire key seconds => rw [execute]; split <;> rfl
  | rpush key item => rw [execute]; split <;> rfl
  | blpop keys => exact now_popFirst db keys
  | get key => rw [execute]; split <;> rfl

/-- What `BLPOP` does: it takes the first item of a list at one of its keys, or
it leaves the database as it is. -/
theorem popFirst_cases (db : Database) (keys : List Binary) :
    (∃ key ∈ keys, ∃ item items deadline,
      db.find key = some ⟨.list (item :: items), deadline⟩ ∧
      db.popFirst keys =
        (db.put key (listEntry items deadline), .array [key, item])) ∨
    db.popFirst keys = (db, .nil) ∨ db.popFirst keys = (db, wrongType) := by
  induction keys with
  | nil => exact .inr (.inl rfl)
  | cons key keys inductionHypothesis =>
      rw [popFirst]
      split
      next item items deadline found =>
        exact .inl ⟨key, List.mem_cons_self, item, items, deadline, found, rfl⟩
      next => exact .inr (.inr rfl)
      next =>
        rcases inductionHypothesis with ⟨later, member, popped⟩ | unchanged
        · exact .inl ⟨later, List.mem_cons_of_mem key member, popped⟩
        · exact .inr unchanged

/-- `BLPOP` where one of its keys alone holds something. -/
theorem popFirst_of_lone
    {keys : List Binary}
    {item : Binary}
    {items : List Binary}
    {deadline : Option Nat}
    (member : key ∈ keys)
    (found : db.find key = some ⟨.list (item :: items), deadline⟩)
    (others : ∀ other ≠ key, db.find other = none) :
    db.popFirst keys =
      (db.put key (listEntry items deadline), .array [key, item]) := by
  induction keys with
  | nil => cases member
  | cons first keys inductionHypothesis =>
      rw [popFirst]
      by_cases same : first = key
      · rw [same, found]
      · rw [others first same]
        exact inductionHypothesis
          ((List.mem_cons.mp member).resolve_left (Ne.symm same))

/-- A command leaves the other keys as they are. -/
theorem find_execute_ne
    {command : Command}
    (untouched : other ∉ command.changes) :
    (db.execute command).1.find other = db.find other := by
  cases command with
  | set key value =>
      exact find_put_ne _ (List.ne_of_not_mem_cons untouched)
  | expire key seconds =>
      rw [execute]
      split
      · rfl
      · exact find_put_ne _ (List.ne_of_not_mem_cons untouched)
  | rpush key item =>
      rw [execute]
      split
      · exact find_put_ne _ (List.ne_of_not_mem_cons untouched)
      · exact find_put_ne _ (List.ne_of_not_mem_cons untouched)
      · rfl
  | blpop keys =>
      rw [execute]
      rcases popFirst_cases db keys with
        ⟨key, member, item, items, deadline, -, popped⟩ | same | same
      · rw [popped]
        apply find_put_ne
        intro equal
        rw [equal] at untouched
        exact untouched member
      · rw [same]
      · rw [same]
  | get key =>
      rw [execute]
      split <;> rfl

/-- `BLPOP` leaves strings alone. -/
theorem find_popFirst_string
    {value : Binary}
    {deadline : Option Nat}
    (keys : List Binary)
    (found : db.find key = some ⟨.string value, deadline⟩) :
    (db.popFirst keys).1.find key = some ⟨.string value, deadline⟩ := by
  rcases popFirst_cases db keys with
    ⟨popped, -, item, items, ends, holdsList, equal⟩ | equal | equal
  · have different : key ≠ popped := by
      rintro rfl
      rw [holdsList] at found
      cases found
    rw [equal, find_put_ne _ different, found]
  · rw [equal, found]
  · rw [equal, found]

/-- `SET` stores its value without a deadline. -/
theorem find_set (db : Database) (key value : Binary) :
    (db.execute (.set key value)).1.find key = some ⟨.string value, none⟩ := by
  rw [execute, find_put_self]
  rfl

/-- `EXPIRE` gives what a key holds some seconds to live. -/
theorem find_expire
    {entry : Entry}
    {seconds : Nat}
    (positive : 0 < seconds)
    (found : db.find key = some entry) :
    (db.execute (.expire key seconds)).1.find key =
      some { entry with deadline := some (db.now + 1000 * seconds) } := by
  have alive : db.now < db.now + 1000 * seconds := by omega
  simp [execute, found, find_put_self, Entry.alive, Option.filter, alive]

/-- `RPUSH` appends to the list of its key and keeps its deadline. -/
theorem find_rpush
    {items : List Binary}
    {deadline : Option Nat}
    (item : Binary)
    (found : db.find key = some ⟨.list items, deadline⟩) :
    (db.execute (.rpush key item)).1.find key =
      some ⟨.list (items ++ [item]), deadline⟩ := by
  have alive := alive_of_find found
  simp only [Entry.alive] at alive
  simp [execute, found, find_put_self, Entry.alive, Option.filter, alive]

/-- `RPUSH` starts a list without a deadline. -/
theorem find_rpush_none
    (item : Binary)
    (missing : db.find key = none) :
    (db.execute (.rpush key item)).1.find key = some ⟨.list [item], none⟩ := by
  simp [execute, missing, find_put_self, Entry.alive, Option.filter]

/-- An `RPUSH` that succeeds leaves its item in a list. -/
theorem mem_of_rpush
    {item : Binary}
    (succeeds : (db.execute (.rpush key item)).2.isError = false) :
    ∃ items deadline,
      (db.execute (.rpush key item)).1.find key =
        some ⟨.list items, deadline⟩ ∧ item ∈ items := by
  cases found : db.find key with
  | none =>
      exact ⟨[item], none, find_rpush_none item found, List.mem_singleton_self _⟩
  | some entry =>
      obtain ⟨stored, deadline⟩ := entry
      cases stored with
      | string value =>
          have fails : (db.execute (.rpush key item)).2 = wrongType := by
            rw [execute, found]
          rw [fails] at succeeds
          cases succeeds
      | list items =>
          exact ⟨items ++ [item], deadline, find_rpush item found,
            List.mem_append_right items (List.mem_singleton_self item)⟩

/-- An `RPUSH` that succeeds replies with a number. -/
theorem reply_of_rpush
    {item : Binary}
    (succeeds : (db.execute (.rpush key item)).2.isError = false) :
    ∃ value, (db.execute (.rpush key item)).2 = .integer value := by
  rw [execute] at succeeds ⊢
  split at succeeds
  · exact ⟨_, rfl⟩
  · exact ⟨_, rfl⟩
  · cases succeeds

/-- The rest of a list keeps its deadline. -/
theorem find_put_listEntry
    {item : Binary}
    {items : List Binary}
    {deadline : Option Nat}
    (found : db.find key = some ⟨.list (item :: items), deadline⟩) :
    (db.put key (listEntry items deadline)).find key =
      listEntry items deadline := by
  have alive := alive_of_find found
  simp only [Entry.alive] at alive
  rw [find_put_self, listEntry]
  split
  · rfl
  · simp [Option.filter, Entry.alive, alive]

/-- Where the deadline of an entry comes from that a command leaves: it is the
one the key had, there is none since the command has created the key, or the
command has set it. -/
theorem deadline_execute
    {command : Command}
    {entry : Entry}
    (found : (db.execute command).1.find key = some entry) :
    (∃ earlier, db.find key = some earlier ∧
      earlier.deadline = entry.deadline ∧
      ∀ seconds, command ≠ .expire key seconds) ∨
    (entry.deadline = none ∧
      ((∃ value, command = .set key value) ∨
        ∃ item, command = .rpush key item)) ∨
    ∃ seconds, command = .expire key seconds ∧
      entry.deadline = some (db.now + 1000 * seconds) := by
  by_cases touched : key ∈ command.changes
  case neg =>
    rw [find_execute_ne touched] at found
    refine .inl ⟨entry, found, rfl, ?_⟩
    rintro seconds rfl
    exact touched (List.mem_singleton_self key)
  cases command with
  | set other value =>
      cases List.mem_singleton.mp touched
      rw [find_set] at found
      cases found
      exact .inr (.inl ⟨rfl, .inl ⟨value, rfl⟩⟩)
  | expire other seconds =>
      cases List.mem_singleton.mp touched
      rw [execute] at found
      cases before : db.find key with
      | none =>
          rw [before] at found
          cases before.symm.trans found
      | some earlier =>
          rw [before, find_put_self, Option.filter_eq_some_iff] at found
          cases found.1
          exact .inr (.inr ⟨seconds, rfl, rfl⟩)
  | rpush other item =>
      cases List.mem_singleton.mp touched
      cases before : db.find key with
      | none =>
          rw [find_rpush_none item before] at found
          cases found
          exact .inr (.inl ⟨rfl, .inr ⟨item, rfl⟩⟩)
      | some earlier =>
          refine .inl ⟨earlier, rfl, ?_, fun seconds equal => by cases equal⟩
          obtain ⟨stored, deadline⟩ := earlier
          cases stored with
          | list items =>
              rw [find_rpush item before] at found
              cases found
              rfl
          | string value =>
              rw [execute, before] at found
              cases before.symm.trans found
              rfl
  | blpop keys =>
      refine .inl ?_
      rw [execute] at found
      rcases popFirst_cases db keys with
        ⟨popped, -, item, items, deadline, holds, equal⟩ | equal | equal
      · rw [equal] at found
        by_cases same : key = popped
        · cases same
          rw [find_put_listEntry holds, listEntry] at found
          refine ⟨_, holds, ?_, fun seconds equal => by cases equal⟩
          split at found
          · cases found
          · cases found
            rfl
        · rw [find_put_ne _ same] at found
          exact ⟨entry, found, rfl, fun seconds equal => by cases equal⟩
      · rw [equal] at found
        exact ⟨entry, found, rfl, fun seconds equal => by cases equal⟩
      · rw [equal] at found
        exact ⟨entry, found, rfl, fun seconds equal => by cases equal⟩
  | get other => cases touched

/-! ## Strings and items -/

theorem itemsAt_congr {later : Database} (same : later.find key = db.find key) :
    later.itemsAt key = db.itemsAt key := by
  rw [itemsAt, same, itemsAt]

theorem stringAt_congr {later : Database} (same : later.find key = db.find key) :
    later.stringAt key = db.stringAt key := by
  rw [stringAt, same, stringAt]

theorem stringAt_set (db : Database) (key value : Binary) :
    (db.execute (.set key value)).1.stringAt key = some value := by
  rw [stringAt, find_set]

theorem itemsAt_set (db : Database) (key value : Binary) :
    (db.execute (.set key value)).1.itemsAt key = [] := by
  rw [itemsAt, find_set]

/-- `GET` replies with the string of its key. -/
theorem execute_get
    {value : Binary}
    (holds : db.stringAt key = some value) :
    db.execute (.get key) = (db, .string value) := by
  rw [stringAt] at holds
  split at holds
  next other deadline found =>
    cases holds
    rw [execute, found]
  next => cases holds

/-- `EXPIRE` changes no values. -/
theorem values_expire
    {seconds : Nat}
    (positive : 0 < seconds)
    (db : Database)
    (key other : Binary) :
    (db.execute (.expire key seconds)).1.itemsAt other = db.itemsAt other ∧
      (db.execute (.expire key seconds)).1.stringAt other =
        db.stringAt other := by
  by_cases same : other = key
  · subst same
    cases found : db.find other with
    | none =>
        have unchanged : (db.execute (.expire other seconds)).1 = db := by
          rw [execute, found]
        rw [unchanged]
        exact ⟨rfl, rfl⟩
    | some entry =>
        rw [itemsAt, itemsAt, stringAt, stringAt, find_expire positive found,
          found]
        obtain ⟨stored, deadline⟩ := entry
        cases stored <;> exact ⟨rfl, rfl⟩
  · have kept : (db.execute (.expire key seconds)).1.find other =
        db.find other :=
      find_execute_ne (List.mem_singleton.not.mpr same)
    exact ⟨itemsAt_congr kept, stringAt_congr kept⟩

/-- `RPUSH` appends its item and changes no strings. -/
theorem values_rpush
    {item : Binary}
    (succeeds : (db.execute (.rpush key item)).2.isError = false) :
    (db.execute (.rpush key item)).1.itemsAt key = db.itemsAt key ++ [item] ∧
      (∀ other, other ≠ key →
        (db.execute (.rpush key item)).1.itemsAt other = db.itemsAt other) ∧
      ∀ other, (db.execute (.rpush key item)).1.stringAt other =
        db.stringAt other := by
  have kept : ∀ other, other ≠ key →
      (db.execute (.rpush key item)).1.find other = db.find other :=
    fun other different =>
      find_execute_ne (List.mem_singleton.not.mpr different)
  have own : (db.execute (.rpush key item)).1.itemsAt key =
        db.itemsAt key ++ [item] ∧
      (db.execute (.rpush key item)).1.stringAt key = db.stringAt key := by
    cases found : db.find key with
    | none =>
        rw [itemsAt, itemsAt, stringAt, stringAt, find_rpush_none item found,
          found]
        exact ⟨rfl, rfl⟩
    | some entry =>
        obtain ⟨stored, deadline⟩ := entry
        cases stored with
        | string value =>
            have fails : (db.execute (.rpush key item)).2 = wrongType := by
              rw [execute, found]
            rw [fails] at succeeds
            cases succeeds
        | list items =>
            rw [itemsAt, itemsAt, stringAt, stringAt, find_rpush item found,
              found]
            exact ⟨rfl, rfl⟩
  refine ⟨own.1, fun other different => itemsAt_congr (kept other different), ?_⟩
  intro other
  by_cases same : other = key
  · rw [same]
    exact own.2
  · exact stringAt_congr (kept other same)

/-- A list whose first item was taken. -/
theorem values_put_listEntry
    {item : Binary}
    {items : List Binary}
    {deadline : Option Nat}
    (found : db.find key = some ⟨.list (item :: items), deadline⟩) :
    db.itemsAt key =
        item :: (db.put key (listEntry items deadline)).itemsAt key ∧
      (∀ other, other ≠ key →
        (db.put key (listEntry items deadline)).itemsAt other =
          db.itemsAt other) ∧
      ∀ other, (db.put key (listEntry items deadline)).stringAt other =
        db.stringAt other := by
  have rest := find_put_listEntry found
  refine ⟨?_, fun other different => itemsAt_congr (find_put_ne _ different), ?_⟩
  · rw [itemsAt, itemsAt, rest, found, listEntry]
    by_cases empty : items = []
    · rw [if_pos empty, empty]
    · rw [if_neg empty]
  · intro other
    by_cases same : other = key
    · subst same
      rw [stringAt, stringAt, rest, found, listEntry]
      by_cases empty : items = []
      · rw [if_pos empty]
      · rw [if_neg empty]
    · exact stringAt_congr (find_put_ne _ same)

end Database

end Redis
