import Mathlib.Data.List.Basic
import Mathlib.Data.List.Perm.Basic

/-!
# Calls that may complete later

A thread that calls an operation is a frame.  While it is inside the call it
offers an argument; the call may be over at once, or it is accepted, and then
it stays pending, from before the call returns until it is completed.

The offers are the arguments of the calls that are not over.  A frame that
calls again hands its place among the offers on, and accepting a call moves an
offer without changing the offers.
-/

/-- A frame of a thread: who entered it, and the argument of its call while it
is inside the call. -/
structure CallFrame (τ κ : Type*) where
  caller : τ
  offered : Option κ
  deriving DecidableEq

/-- The frames of all threads and the arguments of the pending calls. -/
structure PendingCalls (τ κ : Type*) where
  frames : List (CallFrame τ κ) := []
  operations : List κ := []
  deriving DecidableEq

namespace PendingCalls

variable {τ κ : Type*}
variable {calls : PendingCalls τ κ}
variable {caller : τ}
variable {offer : κ}
variable {index : Nat}

/-- A thread enters, with its first call. -/
def enter (calls : PendingCalls τ κ) (caller : τ) (offer : κ) :
    PendingCalls τ κ :=
  { calls with frames := calls.frames ++ [⟨caller, some offer⟩] }

/-- A frame makes its next call. -/
def callAgain (calls : PendingCalls τ κ) (index : Nat) (caller : τ) (offer : κ) :
    PendingCalls τ κ :=
  { calls with frames := calls.frames.set index ⟨caller, some offer⟩ }

/-- The call of a frame is accepted, to be completed later. -/
def accept (calls : PendingCalls τ κ) (index : Nat) (caller : τ) (offer : κ) :
    PendingCalls τ κ :=
  { frames := calls.frames.set index ⟨caller, none⟩
    operations := calls.operations ++ [offer] }

/-- A frame returns to its caller. -/
def leave (calls : PendingCalls τ κ) (index : Nat) : PendingCalls τ κ :=
  { calls with frames := calls.frames.eraseIdx index }

/-- A pending call is completed. -/
def complete (calls : PendingCalls τ κ) (index : Nat) : PendingCalls τ κ :=
  { calls with operations := calls.operations.eraseIdx index }

/-- The arguments of the calls that are not over. -/
def offers (calls : PendingCalls τ κ) : List κ :=
  calls.frames.filterMap CallFrame.offered ++ calls.operations

/-- An element of a list splits it. -/
theorem split_at
    {α : Type*}
    {list : List α}
    {element : α}
    (found : list[index]? = some element) :
    ∃ before after, list = before ++ element :: after ∧
      (∀ other, list.set index other = before ++ other :: after) ∧
      list.eraseIdx index = before ++ after := by
  obtain ⟨inside, rfl⟩ := List.getElem?_eq_some_iff.mp found
  refine ⟨list.take index, list.drop (index + 1), ?_, ?_, ?_⟩
  · rw [List.getElem_cons_drop, List.take_append_drop]
  · intro other
    rw [List.set_eq_take_append_cons_drop, if_pos inside]
  · rw [List.eraseIdx_eq_take_drop_succ]

/-- The call of an entering frame is offered. -/
theorem offers_enter (calls : PendingCalls τ κ) (caller : τ) (offer : κ) :
    (calls.enter caller offer).offers.Perm (offer :: calls.offers) := by
  simp only [offers, enter, List.filterMap_append, List.filterMap_cons,
    List.filterMap_nil, List.append_assoc, List.singleton_append]
  exact List.perm_middle

/-- A call of a frame is among the offers; the next call takes its place. -/
theorem offers_callAgain
    (found : calls.frames[index]? = some ⟨caller, some offer⟩) :
    ∃ others, calls.offers.Perm (offer :: others) ∧
      ∀ next, (calls.callAgain index caller next).offers.Perm
        (next :: others) := by
  obtain ⟨before, after, split, set, _⟩ := split_at found
  refine ⟨before.filterMap CallFrame.offered ++
    (after.filterMap CallFrame.offered ++ calls.operations), ?_, ?_⟩
  · rw [offers, split]
    simp only [List.filterMap_append, List.filterMap_cons, List.append_assoc,
      List.cons_append]
    exact List.perm_middle
  · intro next
    rw [offers, callAgain, set]
    simp only [List.filterMap_append, List.filterMap_cons, List.append_assoc,
      List.cons_append]
    exact List.perm_middle

/-- Accepting a call keeps the offers. -/
theorem offers_accept
    (found : calls.frames[index]? = some ⟨caller, some offer⟩) :
    (calls.accept index caller offer).offers.Perm calls.offers := by
  obtain ⟨before, after, split, set, _⟩ := split_at found
  rw [offers, offers, accept, set, split]
  simp only [List.filterMap_append, List.filterMap_cons, List.append_assoc,
    List.cons_append]
  apply List.Perm.append_left
  rw [← List.append_assoc]
  exact List.perm_append_singleton _ _

/-- A frame whose call has been accepted returns without changing the offers. -/
theorem offers_leave_accepted
    (found : calls.frames[index]? = some ⟨caller, none⟩) :
    (calls.leave index).offers = calls.offers := by
  obtain ⟨before, after, split, _, erase⟩ := split_at found
  rw [offers, offers, leave, erase, split]
  simp

/-- A frame whose call is over takes its offer with it. -/
theorem offers_leave_calling
    (found : calls.frames[index]? = some ⟨caller, some offer⟩) :
    calls.offers.Perm (offer :: (calls.leave index).offers) := by
  obtain ⟨before, after, split, _, erase⟩ := split_at found
  rw [offers, offers, leave, erase, split]
  simp only [List.filterMap_append, List.filterMap_cons, List.append_assoc,
    List.cons_append]
  exact List.perm_middle

/-- A completed call was among the offers. -/
theorem offers_complete
    (found : calls.operations[index]? = some offer) :
    calls.offers.Perm (offer :: (calls.complete index).offers) := by
  obtain ⟨before, after, split, _, erase⟩ := split_at found
  rw [offers, offers, complete, erase, split, ← List.append_assoc]
  exact List.perm_middle.trans (by rw [List.append_assoc])

/-! ## The frames of one caller -/

section FramesOf

variable [DecidableEq τ]

/-- The calls of the frames that one caller has entered. -/
def framesOf (calls : PendingCalls τ κ) (caller : τ) : List (Option κ) :=
  (calls.frames.filter fun frame => frame.caller = caller).map CallFrame.offered

/-- An entering frame is its caller's last. -/
theorem framesOf_enter
    (calls : PendingCalls τ κ)
    (entering caller : τ)
    (offer : κ) :
    (calls.enter entering offer).framesOf caller =
      calls.framesOf caller ++ if entering = caller then [some offer] else [] := by
  by_cases same : entering = caller <;>
    simp [framesOf, enter, List.filter_append, same]

/-- What happens to a frame happens in its place among those of its caller, and
to no other caller. -/
theorem framesOf_split
    {entered : τ}
    {offered : Option κ}
    (found : calls.frames[index]? = some ⟨entered, offered⟩)
    (caller : τ) :
    ∃ before after,
      calls.framesOf caller =
        before ++ ((if entered = caller then [offered] else []) ++ after) ∧
      (∀ next operations,
        framesOf ⟨calls.frames.set index ⟨entered, next⟩, operations⟩ caller =
          before ++ ((if entered = caller then [next] else []) ++ after)) ∧
      (calls.leave index).framesOf caller = before ++ after := by
  obtain ⟨before, after, split, set, erase⟩ := split_at found
  refine ⟨(before.filter fun frame => frame.caller = caller).map
      CallFrame.offered,
    (after.filter fun frame => frame.caller = caller).map CallFrame.offered,
    ?_, ?_, ?_⟩
  · rw [framesOf, split]
    by_cases same : entered = caller <;> simp [same]
  · intro next operations
    rw [framesOf, set]
    by_cases same : entered = caller <;> simp [same]
  · simp [framesOf, leave, erase]

end FramesOf

end PendingCalls
