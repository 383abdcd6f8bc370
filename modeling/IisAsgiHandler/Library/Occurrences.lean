import Mathlib.Data.List.Nodup
import Mathlib.Data.List.Perm.Subperm

/-!
# Occurrences in a list

Some entries of a list show a value.  These lemmas relate how often a value is
shown to the entries that show it.
-/

namespace Occurrences

variable {α β γ : Type*}
variable {shows : α → Option β}
variable {items : List α}

/-- Where nothing is shown twice, one entry shows each value. -/
theorem eq_of_nodup
    {first second : α}
    {shown : β}
    (distinct : (items.filterMap shows).Nodup)
    (member : first ∈ items)
    (otherMember : second ∈ items)
    (isShown : shows first = some shown)
    (isShownToo : shows second = some shown) :
    first = second := by
  induction items with
  | nil => cases member
  | cons item items inductionHypothesis =>
      rcases List.mem_cons.mp member with rfl | later
      · rw [List.filterMap_cons_some isShown, List.nodup_cons] at distinct
        rcases List.mem_cons.mp otherMember with same | otherLater
        · exact same.symm
        · exact absurd (List.mem_filterMap.mpr ⟨second, otherLater, isShownToo⟩)
            distinct.1
      · rcases List.mem_cons.mp otherMember with rfl | otherLater
        · rw [List.filterMap_cons_some isShownToo, List.nodup_cons] at distinct
          exact absurd (List.mem_filterMap.mpr ⟨first, later, isShown⟩) distinct.1
        · refine inductionHypothesis ?_ later otherLater
          exact distinct.sublist ((List.sublist_cons_self item items).filterMap shows)

/-- A value that is shown at two places is shown twice. -/
theorem two_le_count_of_lt
    [DecidableEq β]
    {first second : Nat}
    {item other : α}
    {shown : β}
    (before : first < second)
    (located : items[first]? = some item)
    (otherLocated : items[second]? = some other)
    (isShown : shows item = some shown)
    (isShownToo : shows other = some shown) :
    2 ≤ (items.filterMap shows).count shown := by
  have early : item ∈ items.take second :=
    List.mem_of_getElem? ((List.getElem?_take_of_lt before).trans located)
  have late : other ∈ items.drop second := by
    have first : (items.drop second)[0]? = some other := by
      rwa [List.getElem?_drop, Nat.add_zero]
    exact List.mem_of_getElem? first
  have both : [item, other].Sublist items := by
    have split := (List.singleton_sublist.mpr early).append
      (List.singleton_sublist.mpr late)
    rwa [List.take_append_drop] at split
  have counted := (both.filterMap shows).count_le shown
  simpa [isShown, isShownToo] using counted

/-- Where a value is shown once, there is one place that shows it. -/
theorem index_unique
    [DecidableEq β]
    {first second : Nat}
    {item other : α}
    {shown : β}
    (once : (items.filterMap shows).count shown ≤ 1)
    (located : items[first]? = some item)
    (otherLocated : items[second]? = some other)
    (isShown : shows item = some shown)
    (isShownToo : shows other = some shown) :
    first = second := by
  rcases Nat.lt_trichotomy first second with less | equal | more
  · have twice := two_le_count_of_lt less located otherLocated isShown isShownToo
    omega
  · exact equal
  · have twice := two_le_count_of_lt more otherLocated located isShownToo isShown
    omega

/-- A value is shown at most as often as entries of some kind occur, if only
such entries show it. -/
theorem count_le_length
    [DecidableEq β]
    {kind : α → Option γ}
    {shown : β}
    (onlyKind : ∀ item ∈ items, shows item = some shown → (kind item).isSome) :
    (items.filterMap shows).count shown ≤ (items.filterMap kind).length := by
  induction items with
  | nil => exact Nat.le_refl 0
  | cons item items inductionHypothesis =>
      have rest := inductionHypothesis fun later member =>
        onlyKind later (List.mem_cons_of_mem item member)
      cases isShown : shows item with
      | none =>
          rw [List.filterMap_cons_none isShown]
          exact Nat.le_trans rest
            ((List.sublist_cons_self item items).filterMap kind).length_le
      | some value =>
          rw [List.filterMap_cons_some isShown, List.count_cons]
          by_cases same : value = shown
          · subst same
            obtain ⟨sort, isKind⟩ := Option.isSome_iff_exists.mp
              (onlyKind item List.mem_cons_self isShown)
            rw [List.filterMap_cons_some isKind, List.length_cons]
            simpa using rest
          · simp only [beq_iff_eq, same, if_false, Nat.add_zero]
            exact Nat.le_trans rest
              ((List.sublist_cons_self item items).filterMap kind).length_le

/-- An entry that shows the same in place of another changes nothing. -/
theorem filterMap_set
    {index : Nat}
    {item replaced : α}
    (located : items[index]? = some replaced)
    (same : shows item = shows replaced) :
    (items.set index item).filterMap shows = items.filterMap shows := by
  induction items generalizing index with
  | nil => rfl
  | cons first items inductionHypothesis =>
      cases index with
      | zero =>
          obtain rfl : first = replaced := by simpa using located
          rw [List.set_cons_zero, List.filterMap_cons, List.filterMap_cons, same]
      | succ index =>
          rw [List.getElem?_cons_succ] at located
          rw [List.set_cons_succ, List.filterMap_cons, List.filterMap_cons,
            inductionHypothesis located]

end Occurrences
