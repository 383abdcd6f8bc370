import IisAsgiHandler.Library.EventMachine
import IisAsgiHandler.Library.Ownership

/-!
# Scoped resources

A `ScopedResource` releases its value when it is destroyed.  `Set` does not
release a value that it overwrites, and a move sets the new owner to what
`Wrap` makes of the value that the old one gave up, which for a `BSTR` is
another copy.
-/

namespace IisAsgiHandler
namespace ScopedResource

open Ownership (Entry enter column)

/-- A handle, or the address of an allocated string. -/
abbrev Resource := Nat

/-- `ScopedResourceTraits`, by what `Wrap` does. -/
inductive Traits where
  /-- The identity. -/
  | handle
  /-- `::SysAllocString`. -/
  | bstr
  deriving DecidableEq

/-- The objects, in the order of their construction, with their `m_value`; an
object that was destroyed has none.  What was acquired is noted. -/
structure Store where
  objects : List (Option (Option Resource)) := []
  acquired : List Resource := []
  deriving DecidableEq

inductive Operation where
  | construct (value : Option Resource)
  | moveConstruct (other : Nat)
  | moveAssign (object other : Nat)
  | set (object : Nat) (value : Option Resource)
  | transfer (object : Nat)
  | release (object : Nat)
  | destroy (object : Nat)
  deriving DecidableEq

/-- The raw value that the user gives away. -/
def Operation.given : Operation → Option Resource
  | .construct value => value
  | .set _ value => value
  | _ => none

namespace Traits

/-- `Wrap`; an invalid value stays invalid. -/
def wrap (traits : Traits) (fresh : Resource) (value : Option Resource) :
    Option Resource :=
  match traits with
  | .handle => value
  | .bstr => value.map fun _ => fresh

/-- What `Wrap` does to a value, which the user or another object gave away.  A
copied string stays with the user; of a value that was moved nobody knows any
more. -/
def entries
    (traits : Traits) (fresh : Resource) (value : Option Resource)
    (moved : Bool) : List (Entry Resource) :=
  match traits with
  | .handle => if moved then [] else enter .acquired value.toList
  | .bstr =>
      (if moved then enter .lost value.toList else []) ++
        enter .acquired (traits.wrap fresh value).toList

end Traits

namespace Store

/-- The `m_value` of an object that exists. -/
def value (store : Store) (object : Nat) : Option (Option Resource) :=
  store.objects[object]?.join

def put (store : Store) (object : Nat) (value : Option Resource) : Store :=
  { store with objects := store.objects.set object (some value) }

/-- A new object, with an invalid value. -/
def emplace (store : Store) : Store :=
  { store with objects := store.objects ++ [some none] }

/-- An address that was not allocated before. -/
def fresh (store : Store) : Resource := store.acquired.length

/-- `Set`, on an object with an old value. -/
def set
    (traits : Traits) (store : Store) (object : Nat) (old value : Option Resource)
    (moved : Bool) : Store × List (Entry Resource) :=
  let entries := traits.entries store.fresh value moved
  ({ store.put object (traits.wrap store.fresh value) with
      acquired := store.acquired ++ column .acquired entries },
    entries ++ enter .lost old.toList)

end Store

/-- Any number of objects of one kind. -/
def scopedResources (traits : Traits) :
    EventMachine Store Operation (Entry Resource) := fun store operation =>
  match operation with
  | .construct value =>
      some (store.emplace.set traits store.objects.length none value false)
  | .moveConstruct other =>
      (store.value other).map fun given =>
        (store.put other none).emplace.set traits store.objects.length none given
          true
  | .moveAssign object other =>
      (store.value object).bind fun old =>
        (store.value other).map fun given =>
          if object = other then (store, [])
          else (store.put other none).set traits object old given true
  | .set object value =>
      (store.value object).map fun old => store.set traits object old value false
  | .transfer object =>
      (store.value object).map fun value =>
        (store.put object none, enter .handedOut value.toList)
  | .release object =>
      (store.value object).map fun value =>
        (store.put object none, enter .released value.toList)
  | .destroy object =>
      (store.value object).map fun value =>
        ({ store with objects := store.objects.set object none },
          enter .released value.toList)

/-- A raw resource is given away only once. -/
def GivenOnce (traits : Traits) (store : Store) (operation : Operation) : Prop :=
  traits = .handle → ∀ resource ∈ operation.given, resource ∉ store.acquired

instance (traits : Traits) (store : Store) (operation : Operation) :
    Decidable (GivenOnce traits store operation) :=
  inferInstanceAs (Decidable (_ = _ → ∀ _ ∈ _, _ ∉ _))

/-- Nothing valid is overwritten, and no string is moved. -/
def Keeps (traits : Traits) (store : Store) : Operation → Prop
  | .moveConstruct other => traits = .bstr → store.value other = some none
  | .moveAssign object other => object = other ∨
      store.value object = some none ∧
        (traits = .bstr → store.value other = some none)
  | .set object _ => store.value object = some none
  | _ => True

instance (traits : Traits) (store : Store) (operation : Operation) :
    Decidable (Keeps traits store operation) :=
  match operation with
  | .moveConstruct _ => inferInstanceAs (Decidable (_ = _ → _ = _))
  | .moveAssign _ _ =>
      inferInstanceAs (Decidable (_ = _ ∨ _ = _ ∧ (_ = _ → _ = _)))
  | .set _ _ => inferInstanceAs (Decidable (_ = _))
  | .construct _ | .transfer _ | .release _ | .destroy _ =>
      inferInstanceAs (Decidable True)

/-! ## What is held -/

namespace Store

/-- How many objects hold a resource. -/
def held (store : Store) (resource : Resource) : Nat :=
  store.objects.count (some (some resource))

variable {store : Store}
variable {object : Nat}
variable {old : Option Resource}

theorem getElem?_of_value (isObject : store.value object = some old) :
    store.objects[object]? = some (some old) :=
  Option.join_eq_some_iff.mp isObject

/-- Changing the value of an object, or destroying it, gives up the old value. -/
theorem count_objects_set
    (isObject : store.value object = some old)
    (new : Option (Option Resource))
    (resource : Resource) :
    (store.objects.set object new).count (some (some resource)) +
        old.toList.count resource =
      store.held resource + new.join.toList.count resource := by
  have found := getElem?_of_value isObject
  obtain ⟨inside, isOld⟩ := List.getElem?_eq_some_iff.mp found
  have worth : ∀ value : Option (Option Resource),
      (if value == some (some resource) then 1 else 0) =
        value.join.toList.count resource := by
    intro value
    match value with
    | none => rfl
    | some none => rfl
    | some (some other) => simp [List.count_singleton]
  have counted : (store.objects.set object new).count (some (some resource)) =
      _ - _ + _ := List.count_set inside
  have enough : old.toList.count resource ≤ store.held resource := by
    cases old with
    | none => exact Nat.zero_le _
    | some other =>
        by_cases same : other = resource
        · rw [same] at found ⊢
          rw [Option.toList_some, List.count_singleton_self]
          exact List.count_pos_iff.mpr (List.mem_of_getElem? found)
        · simp [same]
  rw [worth, worth, isOld] at counted
  change _ = store.held resource - old.toList.count resource + _ at counted
  omega

theorem held_put
    (isObject : store.value object = some old)
    (new : Option Resource)
    (resource : Resource) :
    (store.put object new).held resource + old.toList.count resource =
      store.held resource + new.toList.count resource :=
  count_objects_set isObject (some new) resource

@[simp] theorem held_emplace (store : Store) (resource : Resource) :
    store.emplace.held resource = store.held resource := by
  simp [held, emplace]

@[simp] theorem acquired_put (store : Store) (new : Option Resource) :
    (store.put object new).acquired = store.acquired := rfl

@[simp] theorem acquired_emplace (store : Store) :
    store.emplace.acquired = store.acquired := rfl

/-- `Set` makes what is wrapped from what was there and what was moved. -/
theorem conserves_set
    (traits : Traits)
    (isObject : store.value object = some old)
    (value : Option Resource)
    (moved : Bool) :
    Ownership.Conserves
      (fun resource => store.held resource +
        if moved then value.toList.count resource else 0)
      (store.set traits object old value moved).2
      (store.set traits object old value moved).1.held := by
  intro resource
  have changed := held_put isObject (traits.wrap store.fresh value) resource
  have next : (store.set traits object old value moved).1.held resource =
      (store.put object (traits.wrap store.fresh value)).held resource := rfl
  rw [next]
  have events : (store.set traits object old value moved).2 =
      traits.entries store.fresh value moved ++ enter .lost old.toList := rfl
  rw [events]
  cases traits with
  | handle =>
      cases moved with
      | true =>
          simp [Traits.entries, Traits.wrap, Ownership.column_enter_ne]
            at changed ⊢
          omega
      | false =>
          simp [Traits.entries, Traits.wrap, Ownership.column_enter_ne]
            at changed ⊢
          omega
  | bstr =>
      cases moved with
      | true =>
          simp [Traits.entries, Ownership.column_enter_ne] at changed ⊢
          omega
      | false =>
          simp [Traits.entries, Ownership.column_enter_ne] at changed ⊢
          omega

theorem value_emplace (store : Store) :
    store.emplace.value store.objects.length = some none := by
  simp [value, emplace]

theorem value_put_ne
    {other : Nat}
    (different : other ≠ object)
    (new : Option Resource) :
    (store.put other new).value object = store.value object := by
  simp [value, put, different]

theorem length_put (store : Store) (object : Nat) (new : Option Resource) :
    (store.put object new).objects.length = store.objects.length :=
  List.length_set

end Store

/-! ## Steps -/

/-- What a step can do: nothing, give up a value, or `Set` an object to a value
that the user gave away or another object gave up. -/
inductive Stepped (traits : Traits) (store : Store) (operation : Operation) :
    Store → List (Entry Resource) → Prop
  | nothing (keeps : Keeps traits store operation) :
      Stepped traits store operation store []
  | gives {next : Store} {kind : Ownership.Kind} {value : Option Resource}
      (keeps : Keeps traits store operation)
      (goes : kind = .handedOut ∨ kind = .released)
      (acquired : next.acquired = store.acquired)
      (gaveUp : ∀ resource, next.held resource + value.toList.count resource =
        store.held resource) :
      Stepped traits store operation next (enter kind value.toList)
  | sets {base : Store} {object : Nat} {old value : Option Resource}
      {moved : Bool}
      (keeps : Keeps traits store operation ↔
        old = none ∧ (traits = .bstr → moved = true → value = none))
      (given : moved = false → operation.given = value)
      (acquired : base.acquired = store.acquired)
      (isObject : base.value object = some old)
      (gaveUp : ∀ resource,
        (base.held resource + if moved then value.toList.count resource else 0) =
          store.held resource) :
      Stepped traits store operation (base.set traits object old value moved).1
        (base.set traits object old value moved).2

theorem Store.gaveUp_put
    {store : Store}
    {object : Nat}
    {value : Option Resource}
    (isObject : store.value object = some value)
    (resource : Resource) :
    (store.put object none).held resource + value.toList.count resource =
      store.held resource :=
  held_put isObject none resource

theorem stepped_of_scopedResources
    {traits : Traits}
    {store next : Store}
    {operation : Operation}
    {events : List (Entry Resource)}
    (steps : scopedResources traits store operation = some (next, events)) :
    Stepped traits store operation next events := by
  cases operation with
  | construct value =>
      cases steps
      refine .sets ?_ (fun _ => rfl) rfl store.value_emplace ?_
      · simp [Keeps]
      · simp
  | moveConstruct other =>
      obtain ⟨given, isObject, equal⟩ := Option.map_eq_some_iff.mp steps
      cases equal
      refine .sets ?_ (fun moved => by cases moved) rfl ?_ ?_
      · simp [Keeps, isObject]
      · rw [← store.length_put other none]
        exact Store.value_emplace _
      · intro resource
        rw [Store.held_emplace, if_pos rfl]
        exact Store.gaveUp_put isObject resource
  | moveAssign object other =>
      obtain ⟨old, isObject, rest⟩ := Option.bind_eq_some_iff.mp steps
      obtain ⟨given, isOther, equal⟩ := Option.map_eq_some_iff.mp rest
      by_cases same : object = other
      · rw [if_pos same] at equal
        cases equal
        exact .nothing (.inl same)
      · rw [if_neg same] at equal
        cases equal
        refine .sets ?_ (fun moved => by cases moved) rfl
          ((Store.value_put_ne (Ne.symm same) none).trans isObject) ?_
        · simp [Keeps, same, isObject, isOther]
        · intro resource
          rw [if_pos rfl]
          exact Store.gaveUp_put isOther resource
  | set object value =>
      obtain ⟨old, isObject, equal⟩ := Option.map_eq_some_iff.mp steps
      cases equal
      refine .sets ?_ (fun _ => rfl) rfl isObject ?_
      · simp [Keeps, isObject]
      · simp
  | transfer object =>
      obtain ⟨value, isObject, equal⟩ := Option.map_eq_some_iff.mp steps
      cases equal
      exact .gives trivial (.inl rfl) rfl (Store.gaveUp_put isObject)
  | release object =>
      obtain ⟨value, isObject, equal⟩ := Option.map_eq_some_iff.mp steps
      cases equal
      exact .gives trivial (.inr rfl) rfl (Store.gaveUp_put isObject)
  | destroy object =>
      obtain ⟨value, isObject, equal⟩ := Option.map_eq_some_iff.mp steps
      cases equal
      exact .gives trivial (.inr rfl) rfl
        (Store.count_objects_set isObject none)

/-- What `Wrap` leaves behind: a string that was moved. -/
theorem Traits.lost_entries
    (traits : Traits) (fresh : Resource) (value : Option Resource)
    (moved : Bool) :
    column .lost (traits.entries fresh value moved) = [] ↔
      (traits = .bstr → moved = true → value = none) := by
  cases traits with
  | handle =>
      cases moved <;> simp [entries, Ownership.column_enter_ne]
  | bstr =>
      cases moved <;> cases value <;>
        simp [entries, Ownership.column_enter_ne]

theorem Traits.acquired_entries
    (traits : Traits) (fresh : Resource) (value : Option Resource)
    (moved : Bool) :
    column .acquired (traits.entries fresh value moved) =
      match traits with
      | .handle => if moved then [] else value.toList
      | .bstr => (traits.wrap fresh value).toList := by
  cases traits with
  | handle => cases moved <;> simp [entries]
  | bstr => cases moved <;> simp [entries, Ownership.column_enter_ne]

variable {traits : Traits}
variable {store next : Store}
variable {operation : Operation}
variable {trace events : List (Entry Resource)}

/-- A step loses nothing exactly when it overwrites nothing valid and moves no
string. -/
theorem Stepped.lost_iff
    (stepped : Stepped traits store operation next events) :
    column .lost events = [] ↔ Keeps traits store operation := by
  cases stepped with
  | nothing keeps => exact iff_of_true rfl keeps
  | gives keeps goes =>
      refine iff_of_true ?_ keeps
      rcases goes with rfl | rfl
      · exact Ownership.column_enter_ne (by simp) _
      · exact Ownership.column_enter_ne (by simp) _
  | sets keeps =>
      rw [keeps, Store.set, Ownership.column_append, Ownership.column_enter,
        List.append_eq_nil_iff, Traits.lost_entries, Option.toList_eq_nil_iff]
      exact and_comm

/-- The accounts of all objects. -/
structure Owned
    (traits : Traits) (trace : List (Entry Resource)) (store : Store) : Prop where
  accounts : Ownership.Accounts trace store.held
  noted : store.acquired = column .acquired trace
  /-- Strings are allocated at one address after the other. -/
  allocated : traits = .bstr →
    store.acquired = List.range store.acquired.length

namespace Owned

theorem initial : Owned traits [] {} where
  accounts := ⟨List.nodup_nil, fun _ => rfl⟩
  noted := rfl
  allocated _ := rfl

/-- `Wrap` acquires nothing that was acquired before. -/
theorem nodup_entries
    (owned : Owned traits trace store)
    {value : Option Resource}
    {moved : Bool}
    (given : moved = false → operation.given = value)
    (once : GivenOnce traits store operation) :
    (store.acquired ++
      column .acquired (traits.entries store.fresh value moved)).Nodup := by
  have nodup : store.acquired.Nodup := owned.noted ▸ owned.accounts.once
  rw [Traits.acquired_entries]
  refine List.nodup_append.mpr ⟨nodup, ?_, ?_⟩
  · cases traits with
    | handle =>
        cases moved with
        | true => exact List.nodup_nil
        | false => cases value <;> simp
    | bstr => cases value <;> simp [Traits.wrap]
  · rintro resource known other isNew rfl
    cases traits with
    | handle =>
        cases moved with
        | true => cases isNew
        | false =>
            have isGiven : resource ∈ operation.given := by
              rw [given rfl]
              exact Option.mem_toList.mp isNew
            exact once rfl resource isGiven known
    | bstr =>
        cases value with
        | none => cases isNew
        | some value =>
            have isFresh : resource = store.fresh := List.mem_singleton.mp isNew
            rw [owned.allocated rfl, List.mem_range, isFresh] at known
            exact Nat.lt_irrefl _ known

theorem step
    (owned : Owned traits trace store)
    (once : GivenOnce traits store operation)
    (stepped : Stepped traits store operation next events) :
    Owned traits (trace ++ events) next := by
  cases stepped with
  | nothing keeps =>
      rw [List.append_nil]
      exact owned
  | @gives next kind value keeps goes acquired gaveUp =>
      have column_acquired : column .acquired (enter kind value.toList) = [] := by
        rcases goes with rfl | rfl
        · exact Ownership.column_enter_ne (by simp) _
        · exact Ownership.column_enter_ne (by simp) _
      refine ⟨owned.accounts.append ?_ ?_, ?_, ?_⟩
      · intro resource
        have before := gaveUp resource
        rcases goes with rfl | rfl
        · simp [Ownership.column_enter_ne]
          omega
        · simp [Ownership.column_enter_ne]
          omega
      · rw [column_acquired, List.append_nil]
        exact owned.accounts.once
      · rw [acquired, Ownership.column_append, column_acquired, List.append_nil]
        exact owned.noted
      · rw [acquired]
        exact owned.allocated
  | @sets base object old value moved keeps given acquired isObject gaveUp =>
      have fresh : base.fresh = store.fresh := by
        rw [Store.fresh, acquired, Store.fresh]
      have conserves := Store.conserves_set traits isObject value moved
      have new : (base.set traits object old value moved).2 =
          traits.entries store.fresh value moved ++ enter .lost old.toList := by
        rw [Store.set, fresh]
      have column_acquired :
          column .acquired (base.set traits object old value moved).2 =
            column .acquired (traits.entries store.fresh value moved) := by
        rw [new, Ownership.column_append,
          Ownership.column_enter_ne (by simp), List.append_nil]
      have acquiredNext : (base.set traits object old value moved).1.acquired =
          store.acquired ++
            column .acquired (traits.entries store.fresh value moved) := by
        rw [← acquired, ← fresh]
        rfl
      refine ⟨owned.accounts.append ?_ ?_, ?_, ?_⟩
      · intro resource
        rw [← gaveUp resource]
        exact conserves resource
      · rw [column_acquired, ← owned.noted]
        exact owned.nodup_entries given once
      · rw [acquiredNext, Ownership.column_append, column_acquired, owned.noted]
      · rintro rfl
        rw [acquiredNext, Traits.acquired_entries]
        cases value with
        | none =>
            simp only [Traits.wrap, Option.map_none, Option.toList_none,
              List.append_nil]
            exact owned.allocated rfl
        | some value =>
            simp only [Traits.wrap, Option.map_some, Option.toList_some,
              List.length_append, List.length_singleton, List.range_succ]
            rw [← owned.allocated rfl]
            rfl

theorem of_run
    {operations : List Operation}
    (run : EventMachine.Run (scopedResources traits) (GivenOnce traits) {}
      operations trace store) :
    Owned traits trace store :=
  run.preserves_trace (Owned traits) initial
    fun _ _ _ _ _ owned once steps =>
      owned.step once (stepped_of_scopedResources steps)

end Owned

/-- Nothing was lost in a run exactly when no step lost anything. -/
theorem lost_iff
    {operations : List Operation}
    (run : EventMachine.Run (scopedResources traits) (GivenOnce traits) {}
      operations trace store) :
    column .lost trace = [] ↔
      EventMachine.EachStep (scopedResources traits) (GivenOnce traits) {}
        (fun _ store operation => Keeps traits store operation) operations := by
  induction run with
  | refl =>
      refine iff_of_true rfl ?_
      intro before operation after _ _ equal
      simp at equal
  | step run _ steps inductionHypothesis =>
      rw [Ownership.column_append, List.append_eq_nil_iff, inductionHypothesis,
        (stepped_of_scopedResources steps).lost_iff, run.eachStep_snoc]

/-! ## Erasing an element of a vector -/

/-- `erase` moves each later element to the place before it, and destroys the
last place. -/
def eraseOperations (index : Nat) : Nat → List Operation
  | 0 => [.destroy index]
  | later + 1 => .moveAssign index (index + 1) :: eraseOperations (index + 1) later

/-- A vector of objects. -/
def vectorStore (values : List (Option Resource)) (acquired : List Resource) :
    Store where
  objects := values.map some
  acquired := acquired

/-- Erasing the last element releases its value; in front of others the value
is overwritten. -/
theorem run_eraseOperations
    (acquired : List Resource)
    (before later : List (Option Resource))
    (current : Option Resource) :
    EventMachine.Run (scopedResources .handle) EventMachine.always
      (vectorStore (before ++ current :: later) acquired)
      (eraseOperations before.length later.length)
      (if later = [] then enter .released current.toList
        else enter .lost current.toList)
      { objects := (before ++ later).map some ++ [none]
        acquired := acquired } := by
  induction later generalizing before current with
  | nil =>
      have isObject : (vectorStore (before ++ [current]) acquired).value
          before.length = some current := by
        simp [Store.value, vectorStore]
      have steps : scopedResources .handle
          (vectorStore (before ++ [current]) acquired)
          (.destroy before.length) =
          some ({ objects := (before ++ []).map some ++ [none]
                  acquired := acquired },
            enter .released current.toList) := by
        simp only [scopedResources, isObject, Option.map_some]
        simp [vectorStore]
      exact EventMachine.Run.refl.step trivial steps
  | cons next later inductionHypothesis =>
      have isObject : (vectorStore (before ++ current :: next :: later)
          acquired).value before.length = some current := by
        simp [Store.value, vectorStore]
      have isOther : (vectorStore (before ++ current :: next :: later)
          acquired).value (before.length + 1) = some next := by
        simp [Store.value, vectorStore]
      have steps : scopedResources .handle
          (vectorStore (before ++ current :: next :: later) acquired)
          (.moveAssign before.length (before.length + 1)) =
          some (vectorStore ((before ++ [next]) ++ none :: later) acquired,
            enter .lost current.toList) := by
        simp only [scopedResources, isObject, isOther, Option.bind_some,
          Option.map_some]
        simp [Store.set, Store.put, vectorStore, Traits.entries, Traits.wrap]
      have rest := inductionHypothesis (before ++ [next]) none
      have longer := rest.cons trivial steps
      simpa [enter, eraseOperations] using longer

/-- What erasing an element of a vector of handles closes. -/
theorem erase_closes_iff
    (acquired handles : List Resource)
    (index : Nat)
    (inside : index < handles.length) :
    ∃ trace next,
      EventMachine.Run (scopedResources .handle) EventMachine.always
        (vectorStore (handles.map some) acquired)
        (eraseOperations index (handles.length - (index + 1))) trace next ∧
      next.objects = ((handles.eraseIdx index).map some).map some ++ [none] ∧
      (column .released trace = [handles[index]] ↔
        index + 1 = handles.length) := by
  have split : handles =
      handles.take index ++ handles[index] :: handles.drop (index + 1) := by
    rw [← List.drop_eq_getElem_cons inside, List.take_append_drop]
  have run := run_eraseOperations acquired ((handles.take index).map some)
    ((handles.drop (index + 1)).map some) (some handles[index])
  rw [List.length_map, List.length_map, List.length_drop,
    List.length_take_of_le (Nat.le_of_lt inside), ← List.map_cons,
    ← List.map_append, ← split, ← List.map_append,
    ← List.eraseIdx_eq_take_drop_succ] at run
  refine ⟨_, _, run, rfl, ?_⟩
  by_cases last : (handles.drop (index + 1)).map some = []
  · have none := List.map_eq_nil_iff.mp last
    rw [if_pos last, Ownership.column_enter]
    refine iff_of_true rfl ?_
    have bound := List.drop_eq_nil_iff.mp none
    omega
  · rw [if_neg last, Ownership.column_enter_ne (by simp)]
    refine iff_of_false (by simp) ?_
    intro isLast
    have none : handles.drop (index + 1) = [] :=
      List.drop_eq_nil_iff.mpr (Nat.le_of_eq isLast.symm)
    rw [none] at last
    exact last rfl

/-- Once all objects are destroyed, every resource was released exactly once
unless it was handed out, exactly in the runs that overwrite nothing valid and
move no string; and erasing an element of a vector of handles closes its handle
exactly when it is the last. -/
theorem resource_ownership_iff
    {operations : List Operation}
    (run : EventMachine.Run (scopedResources traits) (GivenOnce traits) {}
      operations trace store)
    (destroyed : ∀ object ∈ store.objects, object = none) :
    (Ownership.Settled trace ↔
      EventMachine.EachStep (scopedResources traits) (GivenOnce traits) {}
        (fun _ store operation => Keeps traits store operation) operations) ∧
      ∀ (acquired handles : List Resource) (index : Nat)
        (inside : index < handles.length),
        ∃ trace next,
          EventMachine.Run (scopedResources .handle) EventMachine.always
            (vectorStore (handles.map some) acquired)
            (eraseOperations index (handles.length - (index + 1))) trace next ∧
          next.objects =
            ((handles.eraseIdx index).map some).map some ++ [none] ∧
          (column .released trace = [handles[index]] ↔
            index + 1 = handles.length) := by
  refine ⟨?_, erase_closes_iff⟩
  have nothing : ∀ resource, store.held resource = 0 := by
    intro resource
    refine List.count_eq_zero.mpr fun member => ?_
    cases destroyed _ member
  rw [(Owned.of_run run).accounts.settled_iff nothing, lost_iff run]

/-- A handle that moves into an empty object, and one that is handed out. -/
def ownershipSample : List Operation :=
  [.construct (some 4), .construct none, .moveAssign 1 0, .construct (some 5),
    .transfer 2, .destroy 0, .destroy 1, .destroy 2]

theorem resource_ownership_sample :
    ∃ trace store,
      EventMachine.Run (scopedResources .handle) (GivenOnce .handle) {}
        ownershipSample trace store ∧
      column .released trace = [4] ∧ Ownership.Settled trace := by
  have checked : EventMachine.checks (scopedResources .handle)
      (fun store operation => GivenOnce .handle store operation ∧
        Keeps .handle store operation) {} ownershipSample
      (fun store trace => column .released trace = [4] ∧
        ∀ object ∈ store.objects, object = none) = true := by
    decide +kernel
  obtain ⟨trace, store, run, released, destroyed⟩ :=
    EventMachine.Run.of_checks checked
  have given : EventMachine.Run (scopedResources .handle) (GivenOnce .handle) {}
      ownershipSample trace store :=
    run.mono fun _ _ allowed => allowed.1
  exact ⟨trace, store, given, released,
    (resource_ownership_iff given destroyed).1.mpr
      (run.eachStep (fun _ _ allowed => allowed.1)
        fun _ _ _ allowed => allowed.2)⟩

/-- `Set` on an object that holds a handle, moving a string, and erasing the
first of two handles: each loses a resource. -/
theorem resources_are_lost :
    (∃ trace store,
      EventMachine.Run (scopedResources .handle) (GivenOnce .handle) {}
        [.construct (some 4), .set 0 (some 5), .destroy 0] trace store ∧
      store.objects = [none] ∧ trace = enter .acquired [4] ++
        enter .acquired [5] ++ enter .lost [4] ++ enter .released [5] ∧
      ¬ Ownership.Settled trace) ∧
    (∃ trace store,
      EventMachine.Run (scopedResources .bstr) (GivenOnce .bstr) {}
        [.construct (some 9), .moveConstruct 0, .destroy 0, .destroy 1] trace
        store ∧
      store.objects = [none, none] ∧ column .acquired trace = [0, 1] ∧
      column .released trace = [1]) ∧
    ∃ trace store,
      EventMachine.Run (scopedResources .handle) EventMachine.always
        (vectorStore [some 4, some 5] [4, 5]) (eraseOperations 0 1) trace
        store ∧
      store.objects = [some (some 5), none] ∧ column .released trace = [] := by
  have overwrites : EventMachine.checks (scopedResources .handle)
      (GivenOnce .handle) {}
      [.construct (some 4), .set 0 (some 5), .destroy 0]
      (fun store trace => store.objects = [none] ∧
        trace = enter .acquired [4] ++ enter .acquired [5] ++ enter .lost [4] ++
          enter .released [5]) = true := by
    decide +kernel
  have copies : EventMachine.checks (scopedResources .bstr) (GivenOnce .bstr) {}
      [.construct (some 9), .moveConstruct 0, .destroy 0, .destroy 1]
      (fun store trace => store.objects = [none, none] ∧
        column .acquired trace = [0, 1] ∧ column .released trace = [1]) =
      true := by
    decide +kernel
  have erases : EventMachine.checks (scopedResources .handle)
      EventMachine.always (vectorStore [some 4, some 5] [4, 5])
      (eraseOperations 0 1)
      (fun store trace => store.objects = [some (some 5), none] ∧
        column .released trace = []) = true := by
    decide +kernel
  obtain ⟨trace, store, run, destroyed, rfl⟩ :=
    EventMachine.Run.of_checks overwrites
  refine ⟨⟨_, store, run, destroyed, rfl, ?_⟩,
    EventMachine.Run.of_checks copies, EventMachine.Run.of_checks erases⟩
  intro settled
  have released := settled.released 4 (by decide) (by decide)
  exact absurd released (by decide)

end ScopedResource
end IisAsgiHandler
