import Mathlib.Data.List.Forall2
import Mathlib.Data.List.Nodup

/-!
# A family of queues

Items are pushed to the end of a queue and popped from its front.  What has been
popped from a queue is the first part of what was pushed to it, and where no
item is pushed twice, none is popped twice.  Where a queue can lose what it
holds, what has been popped is still a sublist of what was pushed.
-/

namespace Queues

inductive Operation (κ α : Type*) where
  | push (queue : κ) (item : α)
  | pop (queue : κ) (item : α)

variable {κ α : Type*}

/-- The operations of a run over queues that are empty at first, and what the
queues hold after them. -/
inductive Run : List (Operation κ α) → (κ → List α) → Prop
  | start : Run [] fun _ => []
  | push {operations : List (Operation κ α)} {queues next : κ → List α}
      {queue : κ} {item : α}
      (run : Run operations queues)
      (appended : next queue = queues queue ++ [item])
      (others : ∀ other, other ≠ queue → next other = queues other) :
      Run (operations ++ [.push queue item]) next
  | pop {operations : List (Operation κ α)} {queues next : κ → List α}
      {queue : κ} {item : α}
      (run : Run operations queues)
      (taken : queues queue = item :: next queue)
      (others : ∀ other, other ≠ queue → next other = queues other) :
      Run (operations ++ [.pop queue item]) next

/-- The items pushed, with their queues. -/
def pushes (operations : List (Operation κ α)) : List (κ × α) :=
  operations.filterMap fun operation =>
    match operation with
    | .push queue item => some (queue, item)
    | .pop _ _ => none

/-- The items popped, with their queues. -/
def pops (operations : List (Operation κ α)) : List (κ × α) :=
  operations.filterMap fun operation =>
    match operation with
    | .push _ _ => none
    | .pop queue item => some (queue, item)

@[simp] theorem pushes_nil : pushes ([] : List (Operation κ α)) = [] := rfl

theorem pushes_append (operations later : List (Operation κ α)) :
    pushes (operations ++ later) = pushes operations ++ pushes later :=
  List.filterMap_append

/-- The items of one queue. -/
def ofQueue [DecidableEq κ] (queue : κ) (items : List (κ × α)) : List α :=
  items.filterMap fun entry => if entry.1 = queue then some entry.2 else none

@[simp] theorem pushes_push
    (operations : List (Operation κ α)) (queue : κ) (item : α) :
    pushes (operations ++ [.push queue item]) =
      pushes operations ++ [(queue, item)] := by
  simp [pushes]

@[simp] theorem pushes_pop
    (operations : List (Operation κ α)) (queue : κ) (item : α) :
    pushes (operations ++ [.pop queue item]) = pushes operations := by
  simp [pushes]

@[simp] theorem pops_push
    (operations : List (Operation κ α)) (queue : κ) (item : α) :
    pops (operations ++ [.push queue item]) = pops operations := by
  simp [pops]

@[simp] theorem pops_pop
    (operations : List (Operation κ α)) (queue : κ) (item : α) :
    pops (operations ++ [.pop queue item]) =
      pops operations ++ [(queue, item)] := by
  simp [pops]

section OneQueue

variable [DecidableEq κ]

theorem ofQueue_snoc_self (items : List (κ × α)) (queue : κ) (item : α) :
    ofQueue queue (items ++ [(queue, item)]) = ofQueue queue items ++ [item] := by
  simp [ofQueue]

theorem ofQueue_snoc_ne
    {queue other : κ}
    (different : other ≠ queue)
    (items : List (κ × α))
    (item : α) :
    ofQueue queue (items ++ [(other, item)]) = ofQueue queue items := by
  simp [ofQueue, different]

theorem mem_ofQueue {items : List (κ × α)} {queue : κ} {item : α} :
    item ∈ ofQueue queue items ↔ (queue, item) ∈ items := by
  simp [ofQueue]

/-- An item occurs in its queue as often as the two occur together. -/
theorem count_ofQueue
    [DecidableEq α]
    (items : List (κ × α))
    (queue : κ)
    (item : α) :
    (ofQueue queue items).count item = items.count (queue, item) := by
  induction items with
  | nil => rfl
  | cons entry items inductionHypothesis =>
      obtain ⟨other, first⟩ := entry
      rw [ofQueue] at inductionHypothesis
      by_cases same : other = queue
      · subst same
        simp [ofQueue, List.count_cons, inductionHypothesis]
      · simp [ofQueue, inductionHypothesis, same]

namespace Run

variable {operations : List (Operation κ α)} {queues : κ → List α}

/-- What was pushed to a queue is what was popped from it, followed by what it
holds. -/
theorem ledger (run : Run operations queues) (queue : κ) :
    ofQueue queue (pushes operations) =
      ofQueue queue (pops operations) ++ queues queue := by
  induction run with
  | start => rfl
  | @push operations queues next current item run appended others
      inductionHypothesis =>
      rw [pushes_push, pops_push]
      by_cases same : current = queue
      · subst same
        rw [ofQueue_snoc_self, inductionHypothesis, appended, List.append_assoc]
      · rw [ofQueue_snoc_ne same, inductionHypothesis, others _ (Ne.symm same)]
  | @pop operations queues next current item run taken others
      inductionHypothesis =>
      rw [pushes_pop, pops_pop]
      by_cases same : current = queue
      · subst same
        rw [ofQueue_snoc_self, inductionHypothesis, taken, List.append_assoc,
          List.singleton_append]
      · rw [ofQueue_snoc_ne same, inductionHypothesis, others _ (Ne.symm same)]

/-- Items are popped in the order in which they were pushed. -/
theorem pops_first (run : Run operations queues) (queue : κ) :
    ofQueue queue (pops operations) <+: ofQueue queue (pushes operations) :=
  ⟨queues queue, (run.ledger queue).symm⟩

/-- What is popped was pushed. -/
theorem pushed_of_popped
    {entry : κ × α}
    (run : Run operations queues)
    (popped : entry ∈ pops operations) :
    entry ∈ pushes operations :=
  mem_ofQueue.mp ((run.pops_first entry.1).subset (mem_ofQueue.mpr popped))

/-- Where no item is pushed twice, no item is popped twice. -/
theorem nodup_pops
    [DecidableEq α]
    {β : Type*}
    (name : α → β)
    (run : Run operations queues)
    (distinct : ((pushes operations).map fun entry => name entry.2).Nodup) :
    ((pops operations).map fun entry => name entry.2).Nodup := by
  apply List.Nodup.map_on
  · intro entry popped other otherPopped same
    exact List.inj_on_of_nodup_map distinct (run.pushed_of_popped popped)
      (run.pushed_of_popped otherPopped) same
  · apply List.nodup_iff_count_le_one.mpr
    rintro ⟨queue, item⟩
    have pushedOnce := List.nodup_iff_count_le_one.mp
      (List.Nodup.of_map _ distinct) (queue, item)
    rw [← count_ofQueue] at pushedOnce ⊢
    exact Nat.le_trans ((run.pops_first queue).sublist.count_le item) pushedOnce

end Run

/-! ## Queues that lose items -/

/-- Runs in which a queue can lose all that it holds, and in which a popped item
may show something else than was pushed. -/
inductive LossyRun (shows : α → α → Prop) :
    List (Operation κ α) → (κ → List α) → Prop
  | start : LossyRun shows [] fun _ => []
  | push {operations : List (Operation κ α)} {queues next : κ → List α}
      {queue : κ} {item : α}
      (run : LossyRun shows operations queues)
      (appended : next queue = queues queue ++ [item])
      (others : ∀ other, other ≠ queue → next other = queues other) :
      LossyRun shows (operations ++ [.push queue item]) next
  | pop {operations : List (Operation κ α)} {queues next : κ → List α}
      {queue : κ} {item shown : α}
      (run : LossyRun shows operations queues)
      (taken : queues queue = item :: next queue)
      (others : ∀ other, other ≠ queue → next other = queues other)
      (shownAs : shows item shown) :
      LossyRun shows (operations ++ [.pop queue shown]) next
  | lose {operations : List (Operation κ α)} {queues next : κ → List α}
      (run : LossyRun shows operations queues)
      (kept : ∀ queue, next queue = queues queue ∨ next queue = []) :
      LossyRun shows operations next

namespace LossyRun

variable {shows : α → α → Prop}
variable {operations : List (Operation κ α)} {queues : κ → List α}

/-- What was popped from a queue shows items that, followed by those it holds,
are some of those pushed to it, in order. -/
theorem ledger (run : LossyRun shows operations queues) (queue : κ) :
    ∃ taken, List.Forall₂ (fun shown item => shows item shown)
        (ofQueue queue (pops operations)) taken ∧
      (taken ++ queues queue).Sublist (ofQueue queue (pushes operations)) := by
  induction run with
  | start => exact ⟨[], .nil, List.Sublist.refl []⟩
  | @push operations queues next current item run appended others
      inductionHypothesis =>
      obtain ⟨taken, shown, sublist⟩ := inductionHypothesis
      rw [pushes_push, pops_push]
      refine ⟨taken, shown, ?_⟩
      by_cases same : current = queue
      · subst same
        rw [ofQueue_snoc_self, appended, ← List.append_assoc]
        exact sublist.append (List.Sublist.refl [item])
      · rw [ofQueue_snoc_ne same, others _ (Ne.symm same)]
        exact sublist
  | @pop operations queues next current item shown run taken others shownAs
      inductionHypothesis =>
      obtain ⟨before, showing, sublist⟩ := inductionHypothesis
      rw [pushes_pop, pops_pop]
      by_cases same : current = queue
      · subst same
        rw [ofQueue_snoc_self]
        refine ⟨before ++ [item],
          List.rel_append showing (.cons shownAs .nil), ?_⟩
        rw [List.append_assoc, List.singleton_append, ← taken]
        exact sublist
      · rw [ofQueue_snoc_ne same, others _ (Ne.symm same)]
        exact ⟨before, showing, sublist⟩
  | @lose operations queues next run kept inductionHypothesis =>
      obtain ⟨taken, shown, sublist⟩ := inductionHypothesis
      refine ⟨taken, shown, List.Sublist.trans ?_ sublist⟩
      rcases kept queue with same | empty
      · rw [same]
      · rw [empty]
        exact List.Sublist.append_left (List.nil_sublist _) taken

/-- What is popped from a queue shows some of what was pushed to it, in order. -/
theorem pops_among (run : LossyRun shows operations queues) (queue : κ) :
    List.SublistForall₂ (fun shown item => shows item shown)
      (ofQueue queue (pops operations)) (ofQueue queue (pushes operations)) := by
  obtain ⟨taken, shown, sublist⟩ := run.ledger queue
  exact List.sublistForall₂_iff.mpr
    ⟨taken, shown, (List.sublist_append_left taken _).trans sublist⟩

end LossyRun

/-- The items of a queue under other names. -/
theorem ofQueue_map
    {β : Type*}
    (name : α → β)
    (items : List (κ × α))
    (queue : κ) :
    ofQueue queue (items.map fun entry => (entry.1, name entry.2)) =
      (ofQueue queue items).map name := by
  unfold ofQueue
  rw [List.filterMap_map, List.map_filterMap]
  apply List.filterMap_congr
  intro entry _
  by_cases same : entry.1 = queue <;> simp [same]

/-- Where each queue gives some of the names that it was given, and none was
given twice, none is taken twice. -/
theorem nodup_of_sublists
    {β : Type*}
    [DecidableEq β]
    {taken given : List (κ × β)}
    (sublists : ∀ queue, (ofQueue queue taken).Sublist (ofQueue queue given))
    (distinct : (given.map Prod.snd).Nodup) :
    (taken.map Prod.snd).Nodup := by
  have isGiven : ∀ entry ∈ taken, entry ∈ given := by
    intro entry member
    exact mem_ofQueue.mp ((sublists entry.1).subset (mem_ofQueue.mpr member))
  apply List.Nodup.map_on
  · intro entry member other otherMember same
    exact List.inj_on_of_nodup_map distinct (isGiven entry member)
      (isGiven other otherMember) same
  · apply List.nodup_iff_count_le_one.mpr
    rintro ⟨queue, name⟩
    have once := List.nodup_iff_count_le_one.mp (List.Nodup.of_map _ distinct)
      (queue, name)
    rw [← count_ofQueue] at once ⊢
    exact Nat.le_trans ((sublists queue).count_le name) once

/-- Items that are shown by name have those names. -/
theorem map_eq_of_forall₂
    {β : Type*}
    {shows : α → α → Prop}
    {name : α → β}
    {shown items : List α}
    (named : ∀ item shown, shows item shown → name shown = name item)
    (showing : List.Forall₂ (fun shown item => shows item shown) shown items) :
    shown.map name = items.map name := by
  induction showing with
  | nil => rfl
  | cons shownAs _ inductionHypothesis =>
      rw [List.map_cons, List.map_cons, inductionHypothesis, named _ _ shownAs]

/-- Where items show their names and no name is pushed twice, none is popped
twice. -/
theorem LossyRun.nodup_pops
    {β : Type*}
    [DecidableEq β]
    {shows : α → α → Prop}
    {operations : List (Operation κ α)}
    {queues : κ → List α}
    (name : α → β)
    (named : ∀ item shown, shows item shown → name shown = name item)
    (run : LossyRun shows operations queues)
    (distinct : ((pushes operations).map fun entry => name entry.2).Nodup) :
    ((pops operations).map fun entry => name entry.2).Nodup := by
  have result := @nodup_of_sublists κ _ β _
    ((pops operations).map fun entry => (entry.1, name entry.2))
    ((pushes operations).map fun entry => (entry.1, name entry.2))
  rw [List.map_map, List.map_map] at result
  apply result _ distinct
  intro queue
  rw [ofQueue_map, ofQueue_map]
  obtain ⟨taken, shown, sublist⟩ := List.sublistForall₂_iff.mp
    (run.pops_among queue)
  rw [map_eq_of_forall₂ named shown]
  exact sublist.map name

end OneQueue

end Queues
