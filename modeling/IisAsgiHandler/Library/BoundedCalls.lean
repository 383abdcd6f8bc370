import Mathlib.Logic.Function.Iterate
import Mathlib.Tactic.Choose
import IisAsgiHandler.Library.EventMachine

/-!
# Calls that return

A thread of a machine is busy from the step that enters a call to the step in
which the call returns.  Other threads take steps in between.  A call yields
when its thread takes a bounded number of steps, is never stuck, and leaves the
call only by returning.

The bound comes from an abstract state that is related to the machine's: each
step of the thread uses up some of what is left there, or brings a credit of
its own.
-/

namespace EventMachine

variable {σ ι ε τ : Type*}

/-- Number of the counted steps that labels take from a state. -/
def count (machine : EventMachine σ ι ε) (counted : σ → ι → Bool) :
    σ → List ι → Nat
  | _, [] => 0
  | state, label :: labels =>
      (counted state label).toNat +
        match machine state label with
        | none => 0
        | some (next, _) => count machine counted next labels

/-- A call that a thread of a machine is in. -/
structure Call (σ ι ε : Type*) where
  /-- The call has not returned. -/
  busy : σ → Bool
  /-- The step is one that the thread of the call can take. -/
  own : σ → ι → Bool
  /-- The step is a turn of the thread's main loop. -/
  turn : σ → ι → Bool
  /-- The event tells that the call has returned. -/
  returned : ε → Bool

/-- The steps taken during a call, by its thread or by others. -/
def Call.during
    (call : Call σ ι ε)
    (good : σ → ι → Prop)
    (state : σ)
    (label : ι) : Prop :=
  call.busy state = true ∧ good state label

instance
    (call : Call σ ι ε)
    (good : σ → ι → Prop)
    [∀ state label, Decidable (good state label)]
    (state : σ)
    (label : ι) : Decidable (call.during good state label) :=
  inferInstanceAs (Decidable (call.busy state = true ∧ good state label))

/-- A call that has come to a state takes no more turns and steps than given,
can take every step that its thread may be about to take, and has returned if
it is over. -/
structure Call.Yields
    (call : Call σ ι ε)
    (machine : EventMachine σ ι ε)
    (turns steps : Nat)
    (start : σ)
    (labels : List ι)
    (trace : List ε)
    (state : σ) : Prop where
  turns_le : count machine call.turn start labels ≤ turns
  steps_le : count machine call.own start labels ≤ steps
  goesOn : call.busy state = true → ∃ label, call.own state label = true
  accepts : ∀ label, call.own state label = true →
    (machine state label).isSome = true
  returns : call.busy state = false → ∃ event ∈ trace, call.returned event = true

variable {machine : EventMachine σ ι ε}
variable {allowed : σ → ι → Prop}
variable {start state : σ}
variable {labels : List ι}
variable {trace : List ε}

/-- A call that yields within less yields within more. -/
theorem Call.Yields.mono
    {call : Call σ ι ε}
    {turns moreTurns steps moreSteps : Nat}
    (yields : call.Yields machine turns steps start labels trace state)
    (turnsLe : turns ≤ moreTurns)
    (stepsLe : steps ≤ moreSteps) :
    call.Yields machine moreTurns moreSteps start labels trace state :=
  { yields with
    turns_le := Nat.le_trans yields.turns_le turnsLe
    steps_le := Nat.le_trans yields.steps_le stepsLe }

/-- The steps of a run and of the labels after it add up. -/
theorem Run.count_append
    (counted : σ → ι → Bool)
    (run : Run machine allowed start labels trace state)
    (later : List ι) :
    count machine counted start (labels ++ later) =
      count machine counted start labels + count machine counted state later := by
  induction run generalizing later with
  | refl => simp [count]
  | step _ _ steps inductionHypothesis =>
      rw [List.append_assoc, inductionHypothesis, inductionHypothesis]
      simp only [List.singleton_append, count, steps]
      omega

/-- One more step is counted or not. -/
theorem Run.count_snoc
    {label : ι}
    {next : σ}
    {events : List ε}
    (counted : σ → ι → Bool)
    (run : Run machine allowed start labels trace state)
    (steps : machine state label = some (next, events)) :
    count machine counted start (labels ++ [label]) =
      count machine counted start labels + (counted state label).toNat := by
  rw [run.count_append]
  simp [count, steps]

/-- Nothing is counted where no step counts. -/
theorem count_never (start : σ) (labels : List ι) :
    count machine (fun _ _ => false) start labels = 0 := by
  induction labels generalizing start with
  | nil => rfl
  | cons label labels inductionHypothesis =>
      simp only [count, Bool.toNat_false, Nat.zero_add]
      split
      · rfl
      · exact inductionHypothesis _

/-- Labels that are counted wherever they occur. -/
theorem Run.count_eq_countP
    (counted : ι → Bool)
    (run : Run machine allowed start labels trace state) :
    count machine (fun _ => counted) start labels = labels.countP counted := by
  induction run with
  | refl => rfl
  | step run _ steps inductionHypothesis =>
      rw [run.count_snoc _ steps, inductionHypothesis, List.countP_append,
        List.countP_singleton]
      split <;> simp_all

/-- Steps that use up a potential are no more than it allows, with what other
steps add to it. -/
theorem Run.count_le_of_potential
    {counted credited : σ → ι → Bool}
    {credit : Nat}
    (invariant : σ → Prop)
    (potential : σ → Nat)
    (stepwise : ∀ state label next events, invariant state →
      allowed state label → machine state label = some (next, events) →
      invariant next ∧
        (counted state label).toNat + potential next ≤
          potential state + credit * (credited state label).toNat)
    (initially : invariant start)
    (run : Run machine allowed start labels trace state) :
    count machine counted start labels + potential state ≤
      potential start + credit * count machine credited start labels := by
  have paid : invariant state ∧
      count machine counted start labels + potential state ≤
        potential start + credit * count machine credited start labels := by
    induction run with
    | refl => exact ⟨initially, by simp [count]⟩
    | step run permitted steps inductionHypothesis =>
        obtain ⟨holds, spent⟩ := inductionHypothesis
        obtain ⟨kept, pays⟩ := stepwise _ _ _ _ holds permitted steps
        refine ⟨kept, ?_⟩
        rw [run.count_snoc counted steps, run.count_snoc credited steps,
          Nat.mul_add]
        omega
  exact paid.2

/-- What one step of a machine takes from a call: the turns and steps that are
left, but for a credit.  If the call is over the step shows its return. -/
structure Call.Pays
    (call : Call σ ι ε)
    (credited : σ → ι → Bool)
    (turnsLeft stepsLeft : τ → Nat)
    (state : σ)
    (label : ι)
    (next : σ)
    (events : List ε)
    (image imageNext : τ) : Prop where
  turn : (call.turn state label).toNat + turnsLeft imageNext ≤ turnsLeft image
  step : (call.own state label).toNat + stepsLeft imageNext ≤
    stepsLeft image + (credited state label).toNat
  returns : call.busy next = false → ∃ event ∈ events, call.returned event = true

/-- A call whose steps are paid for yields. -/
theorem Run.yields
    {call : Call σ ι ε}
    {good : σ → ι → Prop}
    {image : τ}
    (related : σ → τ → Prop)
    (credited : σ → ι → Bool)
    (turnsLeft stepsLeft : τ → Nat)
    (stepwise : ∀ state image label next events, related state image →
      call.during good state label → machine state label = some (next, events) →
      ∃ imageNext, related next imageNext ∧
        call.Pays credited turnsLeft stepsLeft state label next events image
          imageNext)
    (goesOn : ∀ state image, related state image → call.busy state = true →
      ∃ label, call.own state label = true)
    (accepts : ∀ state image label, related state image →
      call.own state label = true → (machine state label).isSome = true)
    (initially : related start image)
    (entered : call.busy start = true)
    (run : Run machine (call.during good) start labels trace state) :
    call.Yields machine (turnsLeft image)
      (stepsLeft image + count machine credited start labels) start labels trace
      state := by
  have paid : ∃ final, related state final ∧
      count machine call.turn start labels + turnsLeft final ≤
        turnsLeft image ∧
      count machine call.own start labels + stepsLeft final ≤
        stepsLeft image + count machine credited start labels ∧
      (call.busy state = false →
        ∃ event ∈ trace, call.returned event = true) := by
    induction run with
    | refl =>
        refine ⟨image, initially, by simp [count], by simp [count], ?_⟩
        intro ended
        rw [entered] at ended
        contradiction
    | step run permitted steps inductionHypothesis =>
        obtain ⟨final, isRelated, turns, ownSteps, _⟩ := inductionHypothesis
        obtain ⟨next, isNext, pays⟩ :=
          stepwise _ _ _ _ _ isRelated permitted steps
        have turn := pays.turn
        have step := pays.step
        refine ⟨next, isNext, ?_, ?_, ?_⟩
        · rw [run.count_snoc call.turn steps]
          omega
        · rw [run.count_snoc call.own steps, run.count_snoc credited steps]
          omega
        · intro ended
          obtain ⟨event, member, returned⟩ := pays.returns ended
          exact ⟨event, List.mem_append_right _ member, returned⟩
  obtain ⟨final, isRelated, turns, ownSteps, returns⟩ := paid
  exact {
    turns_le := Nat.le_of_add_right_le turns
    steps_le := Nat.le_of_add_right_le ownSteps
    goesOn := goesOn _ _ isRelated
    accepts := fun label => accepts _ _ label isRelated
    returns := returns }

/-- A machine that keeps an invariant by one and the same step takes it
forever. -/
theorem exists_forever
    {invariant : σ → Prop}
    {label : ι}
    (repeats : ∀ state, invariant state →
      ∃ next events, machine state label = some (next, events) ∧ invariant next)
    (initially : invariant start) :
    ∃ states : Nat → σ, states 0 = start ∧ ∀ time, invariant (states time) ∧
      ∃ events, machine (states time) label =
        some (states (time + 1), events) := by
  have : Nonempty σ := ⟨start⟩
  choose! next events steps kept using repeats
  have holds : ∀ time, invariant (next^[time] start) := by
    intro time
    induction time with
    | zero => exact initially
    | succ time inductionHypothesis =>
        rw [Function.iterate_succ_apply']
        exact kept _ inductionHypothesis
  refine ⟨fun time => next^[time] start, rfl, fun time => ⟨holds time,
    events (next^[time] start), ?_⟩⟩
  beta_reduce
  rw [Function.iterate_succ_apply']
  exact steps _ (holds time)

/-- A machine that can come closer to a goal, wherever it is, can reach it. -/
theorem exists_run_of_descent
    (goal : σ → Prop)
    (distance : Nat → σ → Prop)
    (descends : ∀ bound state, distance bound state → goal state ∨
      ∃ label next events less, less < bound ∧ allowed state label ∧
        machine state label = some (next, events) ∧ distance less next)
    {bound : Nat}
    (initially : distance bound start) :
    ∃ labels trace final, Run machine allowed start labels trace final ∧
      goal final := by
  induction bound using Nat.strongRecOn generalizing start with
  | ind bound inductionHypothesis =>
      rcases descends bound start initially with reached |
        ⟨label, next, events, less, isLess, permitted, steps, closer⟩
      · exact ⟨[], [], start, Run.refl, reached⟩
      · obtain ⟨labels, trace, final, run, reached⟩ :=
          inductionHypothesis less isLess closer
        exact ⟨_, _, final, Run.cons permitted steps run, reached⟩

end EventMachine
