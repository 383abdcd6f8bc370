import Mathlib.Data.List.Nodup
import Mathlib.Data.List.Count

/-!
# Owned resources

A ledger says which resources came into the ownership of some holders, which of
them were released or handed out again, and which were lost: no holder knows
them any more.  The accounts balance when every acquired resource is held or is
in one of the other columns.  Once nothing is held, everything was released
exactly once, unless it was handed out, if and only if nothing was lost.
-/

namespace Ownership

inductive Kind where
  | acquired
  | released
  | handedOut
  | lost
  deriving DecidableEq

/-- One line of a ledger. -/
structure Entry (ρ : Type*) where
  kind : Kind
  resource : ρ
  deriving DecidableEq

variable {ρ : Type*}

/-- The resources in one column of a ledger. -/
def column (kind : Kind) (ledger : List (Entry ρ)) : List ρ :=
  (ledger.filter fun entry => entry.kind = kind).map Entry.resource

/-- Lines of one kind. -/
def enter (kind : Kind) (resources : List ρ) : List (Entry ρ) :=
  resources.map (Entry.mk kind)

@[simp] theorem column_nil (kind : Kind) :
    column kind ([] : List (Entry ρ)) = [] := rfl

@[simp] theorem column_append
    (kind : Kind) (ledger more : List (Entry ρ)) :
    column kind (ledger ++ more) = column kind ledger ++ column kind more := by
  rw [column, List.filter_append, List.map_append, column, column]

@[simp] theorem column_enter (kind : Kind) (resources : List ρ) :
    column kind (enter kind resources) = resources := by
  simp [column, enter, List.filter_map, Function.comp_def]

theorem column_enter_ne
    {kind other : Kind} (different : other ≠ kind) (resources : List ρ) :
    column kind (enter other resources) = [] := by
  simp [column, enter, List.filter_map, Function.comp_def, different]

variable [DecidableEq ρ]

/-- Nothing is acquired twice, and what was acquired is held, or was released,
handed out or lost, once. -/
structure Accounts (ledger : List (Entry ρ)) (held : ρ → Nat) : Prop where
  once : (column .acquired ledger).Nodup
  balance : ∀ resource,
    (column .acquired ledger).count resource =
      (column .released ledger).count resource +
        (column .handedOut ledger).count resource +
        (column .lost ledger).count resource + held resource

/-- What is held, with what is acquired, becomes what is held then and what
goes. -/
def Conserves
    (before : ρ → Nat) (events : List (Entry ρ)) (after : ρ → Nat) : Prop :=
  ∀ resource,
    before resource + (column .acquired events).count resource =
      (column .released events).count resource +
        (column .handedOut events).count resource +
        (column .lost events).count resource + after resource

/-- Everything that was not handed out was released exactly once, and nothing
was released twice. -/
structure Settled (ledger : List (Entry ρ)) : Prop where
  released : ∀ resource ∈ column .acquired ledger,
    resource ∉ column .handedOut ledger →
    (column .released ledger).count resource = 1
  once : ∀ resource, (column .released ledger).count resource ≤ 1

namespace Accounts

variable {ledger events : List (Entry ρ)}
variable {held after : ρ → Nat}

/-- Lines that conserve what is held. -/
theorem append
    (accounts : Accounts ledger held)
    (conserves : Conserves held events after)
    (fresh : (column .acquired ledger ++ column .acquired events).Nodup) :
    Accounts (ledger ++ events) after := by
  refine ⟨by rwa [column_append], ?_⟩
  intro resource
  have balance := accounts.balance resource
  have conserved := conserves resource
  simp only [column_append, List.count_append]
  omega

/-- When nothing is held, the ledger is settled unless something was lost. -/
theorem settled_iff
    (accounts : Accounts ledger held)
    (nothing : ∀ resource, held resource = 0) :
    Settled ledger ↔ column .lost ledger = [] := by
  have once := List.nodup_iff_count_le_one.mp accounts.once
  constructor
  · intro settled
    rw [List.eq_nil_iff_forall_not_mem]
    intro resource isLost
    have lost := List.count_pos_iff.mpr isLost
    have balance := accounts.balance resource
    have atMost := once resource
    have acquired : resource ∈ column .acquired ledger :=
      List.count_pos_iff.mp (by omega)
    have notHandedOut : resource ∉ column .handedOut ledger :=
      List.count_eq_zero.mp (by omega)
    have released := settled.released resource acquired notHandedOut
    omega
  · intro none
    have balances : ∀ resource,
        (column .acquired ledger).count resource =
          (column .released ledger).count resource +
            (column .handedOut ledger).count resource := by
      intro resource
      have balance := accounts.balance resource
      rwa [none, nothing, List.count_nil, Nat.add_zero] at balance
    constructor
    · intro resource acquired notHandedOut
      have balance := balances resource
      rw [List.count_eq_one_of_mem accounts.once acquired,
        List.count_eq_zero.mpr notHandedOut] at balance
      exact balance.symm
    · intro resource
      have balance := balances resource
      have atMost := once resource
      omega

end Accounts
end Ownership
