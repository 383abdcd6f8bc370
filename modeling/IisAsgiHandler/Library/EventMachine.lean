import Mathlib.Data.List.Basic

/-!
# Machines with observable events

A machine reads labels, each naming what its surroundings do next, and shows
events.  A label that does not apply in a state has no successor.  Runs carry
the labels they read and the events they show, so a law about a whole history
is a statement about the trace of a run.

Three rules are proved once here: an invariant kept by every step holds at the
end of every run, a law that every event satisfies against the events before
it holds throughout a trace, and a law of abstract states that simulate the
machine step by step holds at the end of every run.
-/

/-- A machine with states `σ`, labels `ι` and events `ε`. -/
abbrev EventMachine (σ ι ε : Type*) := σ → ι → Option (σ × List ε)

namespace EventMachine

variable {σ ι ε τ : Type*}

/-- Runs of a machine all of whose steps are allowed, with the labels read and
the events shown on the way. -/
inductive Run
    (machine : EventMachine σ ι ε)
    (allowed : σ → ι → Prop)
    (start : σ) : List ι → List ε → σ → Prop
  | refl : Run machine allowed start [] [] start
  | step {labels : List ι} {trace : List ε} {state next : σ}
      {label : ι} {events : List ε} :
      Run machine allowed start labels trace state →
      allowed state label →
      machine state label = some (next, events) →
      Run machine allowed start (labels ++ [label]) (trace ++ events) next

/-- Every step is allowed. -/
def always : σ → ι → Prop := fun _ _ => True

instance (state : σ) (label : ι) : Decidable (always state label) :=
  inferInstanceAs (Decidable True)

/-- Read a list of labels, checking that each step is allowed. -/
def exec
    (machine : EventMachine σ ι ε)
    (allowed : σ → ι → Prop)
    [∀ state label, Decidable (allowed state label)] :
    σ → List ι → Option (σ × List ε)
  | state, [] => some (state, [])
  | state, label :: labels =>
      if allowed state label then
        match machine state label with
        | none => none
        | some (next, events) =>
            match exec machine allowed next labels with
            | none => none
            | some (final, later) => some (final, events ++ later)
      else none

/-- Whether labels can be read, to a state and a trace that pass a check. -/
def checks
    (machine : EventMachine σ ι ε)
    (allowed : σ → ι → Prop)
    [∀ state label, Decidable (allowed state label)]
    (start : σ)
    (labels : List ι)
    (check : σ → List ε → Prop)
    [∀ state trace, Decidable (check state trace)] : Bool :=
  (exec machine allowed start labels).any fun result =>
    decide (check result.1 result.2)

namespace Run

variable {machine : EventMachine σ ι ε}
variable {allowed : σ → ι → Prop}
variable {start state : σ}
variable {labels : List ι}
variable {trace : List ε}

/-- A step before a run gives a longer run. -/
theorem cons
    {label : ι}
    {next : σ}
    {events : List ε}
    (permitted : allowed start label)
    (steps : machine start label = some (next, events))
    (run : Run machine allowed next labels trace state) :
    Run machine allowed start (label :: labels) (events ++ trace) state := by
  induction run with
  | refl => simpa using Run.step Run.refl permitted steps
  | step earlier permittedLast stepsLast inductionHypothesis =>
      have longer := Run.step inductionHypothesis permittedLast stepsLast
      simpa [List.append_assoc] using longer

/-- An executed list of labels is a run. -/
theorem of_exec
    [∀ state label, Decidable (allowed state label)]
    (executed : exec machine allowed start labels = some (state, trace)) :
    Run machine allowed start labels trace state := by
  induction labels generalizing start trace with
  | nil =>
      simp only [exec, Option.some.injEq, Prod.mk.injEq] at executed
      obtain ⟨rfl, rfl⟩ := executed
      exact Run.refl
  | cons label labels inductionHypothesis =>
      rw [exec] at executed
      split at executed
      · rename_i permitted
        split at executed
        · contradiction
        · rename_i next events steps
          split at executed
          · contradiction
          · rename_i final later rest
            simp only [Option.some.injEq, Prod.mk.injEq] at executed
            obtain ⟨rfl, rfl⟩ := executed
            exact cons permitted steps (inductionHypothesis rest)
      · contradiction

/-- Labels whose execution passes a check have a run that does. -/
theorem of_checks
    [∀ state label, Decidable (allowed state label)]
    {check : σ → List ε → Prop}
    [∀ state trace, Decidable (check state trace)]
    (checked : checks machine allowed start labels check = true) :
    ∃ trace state, Run machine allowed start labels trace state ∧
      check state trace := by
  unfold checks at checked
  cases executed : exec machine allowed start labels with
  | none => simp [executed] at checked
  | some result =>
      rw [executed] at checked
      exact ⟨result.2, result.1, of_exec executed, of_decide_eq_true checked⟩

/-- Allowing more steps keeps every run. -/
theorem mono
    {permissive : σ → ι → Prop}
    (weaker : ∀ state label, allowed state label → permissive state label)
    (run : Run machine allowed start labels trace state) :
    Run machine permissive start labels trace state := by
  induction run with
  | refl => exact Run.refl
  | step _ permitted steps inductionHypothesis =>
      exact Run.step inductionHypothesis (weaker _ _ permitted) steps

/-- An invariant of the start that every allowed step keeps holds at the end
of every run. -/
theorem preserves
    (invariant : σ → Prop)
    (initially : invariant start)
    (kept : ∀ state label next events, invariant state → allowed state label →
      machine state label = some (next, events) → invariant next)
    (run : Run machine allowed start labels trace state) :
    invariant state := by
  induction run with
  | refl => exact initially
  | step _ permitted steps inductionHypothesis =>
      exact kept _ _ _ _ inductionHypothesis permitted steps

/-- An invariant relating the trace to the state, established by the empty
trace and kept by every allowed step, holds of every run. -/
theorem preserves_trace
    (invariant : List ε → σ → Prop)
    (initially : invariant [] start)
    (kept : ∀ trace state label next events, invariant trace state →
      allowed state label → machine state label = some (next, events) →
      invariant (trace ++ events) next)
    (run : Run machine allowed start labels trace state) :
    invariant trace state := by
  induction run with
  | refl => exact initially
  | step _ permitted steps inductionHypothesis =>
      exact kept _ _ _ _ _ inductionHypothesis permitted steps

end Run

/-! ## Laws of runs -/

section Throughout

variable {machine : EventMachine σ ι ε}
variable {allowed : σ → ι → Prop}
variable {start state other : σ}
variable {labels : List ι}
variable {trace otherTrace : List ε}

/-- Labels lead to one state, by one trace. -/
theorem Run.unique
    (run : Run machine allowed start labels trace state)
    (otherRun : Run machine allowed start labels otherTrace other) :
    trace = otherTrace ∧ state = other := by
  induction run generalizing otherTrace other with
  | refl =>
      generalize equal : ([] : List ι) = none at otherRun
      cases otherRun with
      | refl => exact ⟨rfl, rfl⟩
      | step _ _ _ => simp at equal
  | @step labels trace state next label events _ _ steps inductionHypothesis =>
      generalize equal : labels ++ [label] = longer at otherRun
      cases otherRun with
      | refl => simp at equal
      | step earlier _ otherSteps =>
          obtain ⟨rfl, last⟩ := List.append_inj' equal rfl
          cases last
          obtain ⟨rfl, rfl⟩ := inductionHypothesis earlier
          rw [steps] at otherSteps
          cases otherSteps
          exact ⟨rfl, rfl⟩

/-- A law holds of every part of a run that its labels begin with. -/
def Throughout
    (machine : EventMachine σ ι ε)
    (allowed : σ → ι → Prop)
    (start : σ)
    (law : List ι → List ε → σ → Prop)
    (labels : List ι) : Prop :=
  ∀ before after trace state, labels = before ++ after →
    Run machine allowed start before trace state → law before trace state

/-- Every label meets a condition on the labels and the state before it. -/
def EachStep
    (machine : EventMachine σ ι ε)
    (allowed : σ → ι → Prop)
    (start : σ)
    (condition : List ι → σ → ι → Prop)
    (labels : List ι) : Prop :=
  ∀ before label after trace state, labels = before ++ label :: after →
    Run machine allowed start before trace state → condition before state label

/-- A list that is split before the end of a longer one. -/
theorem append_singleton_eq_append
    {list before after : List ι}
    {last : ι}
    (equal : list ++ [last] = before ++ after) :
    after = [] ∧ before = list ++ [last] ∨
      ∃ rest, after = rest ++ [last] ∧ list = before ++ rest := by
  rcases List.eq_nil_or_concat after with rfl | ⟨rest, other, rfl⟩
  · rw [List.append_nil] at equal
    exact .inl ⟨rfl, equal.symm⟩
  · rw [List.concat_eq_append, ← List.append_assoc] at equal
    obtain ⟨split, sameLast⟩ := List.append_inj' equal rfl
    cases sameLast
    exact .inr ⟨rest, List.concat_eq_append, split⟩

theorem Run.throughout_snoc
    {law : List ι → List ε → σ → Prop}
    {label : ι}
    (run : Run machine allowed start (labels ++ [label]) trace state) :
    Throughout machine allowed start law (labels ++ [label]) ↔
      Throughout machine allowed start law labels ∧
        law (labels ++ [label]) trace state := by
  constructor
  · intro holds
    refine ⟨?_, holds _ [] _ _ (List.append_nil _).symm run⟩
    intro before after otherTrace other split otherRun
    exact holds before (after ++ [label]) otherTrace other
      (by rw [split, List.append_assoc]) otherRun
  · rintro ⟨earlier, last⟩ before after otherTrace other split otherRun
    rcases append_singleton_eq_append split with
      ⟨rfl, rfl⟩ | ⟨rest, rfl, shorter⟩
    · obtain ⟨rfl, rfl⟩ := run.unique otherRun
      exact last
    · exact earlier before rest otherTrace other shorter otherRun

theorem Run.eachStep_snoc
    {condition : List ι → σ → ι → Prop}
    {label : ι}
    (run : Run machine allowed start labels trace state) :
    EachStep machine allowed start condition (labels ++ [label]) ↔
      EachStep machine allowed start condition labels ∧
        condition labels state label := by
  constructor
  · intro meets
    refine ⟨?_, meets labels label [] trace state rfl run⟩
    intro before other after otherTrace otherState split otherRun
    exact meets before other (after ++ [label]) otherTrace otherState
      (by rw [split, List.append_assoc, List.cons_append]) otherRun
  · rintro ⟨earlier, last⟩ before other after otherTrace otherState split
      otherRun
    have split' : labels ++ [label] = (before ++ [other]) ++ after := by
      rw [split, List.append_assoc, List.singleton_append]
    rcases append_singleton_eq_append split' with
      ⟨_, same⟩ | ⟨rest, rfl, shorter⟩
    · obtain ⟨rfl, sameLabel⟩ := List.append_inj' same rfl
      cases sameLabel
      obtain ⟨rfl, rfl⟩ := run.unique otherRun
      exact last
    · refine earlier before other rest otherTrace otherState ?_ otherRun
      rw [shorter, List.append_assoc, List.singleton_append]

/-- A condition that is asked of every step is met by each. -/
theorem Run.eachStep
    {stricter : σ → ι → Prop}
    {condition : List ι → σ → ι → Prop}
    (weaker : ∀ state label, stricter state label → allowed state label)
    (meets : ∀ before state label, stricter state label →
      condition before state label)
    (run : Run machine stricter start labels trace state) :
    EachStep machine allowed start condition labels := by
  induction run with
  | refl =>
      intro before label after _ _ equal
      simp at equal
  | step run permitted _ inductionHypothesis =>
      have earlier := run.mono weaker
      exact earlier.eachStep_snoc.mpr
        ⟨inductionHypothesis, meets _ _ _ permitted⟩

/-- A law that each step keeps under a condition, and breaks otherwise, holds
throughout a run exactly when every step meets the condition. -/
theorem Run.throughout_iff
    {law : List ι → List ε → σ → Prop}
    {condition : List ι → σ → ι → Prop}
    (initially : law [] [] start)
    (stepwise : ∀ labels trace state label next events,
      Run machine allowed start labels trace state → law labels trace state →
      allowed state label → machine state label = some (next, events) →
      (law (labels ++ [label]) (trace ++ events) next ↔
        condition labels state label))
    (run : Run machine allowed start labels trace state) :
    Throughout machine allowed start law labels ↔
      EachStep machine allowed start condition labels := by
  induction run with
  | refl =>
      constructor
      · intro _ before label after _ _ equal
        simp at equal
      · intro _ before after trace state equal run
        obtain ⟨rfl, rfl⟩ := List.append_eq_nil_iff.mp equal.symm
        obtain ⟨rfl, rfl⟩ := Run.refl.unique run
        exact initially
  | @step labels trace state next label events run permitted steps
      inductionHypothesis =>
      rw [(run.step permitted steps).throughout_snoc, run.eachStep_snoc,
        ← inductionHypothesis]
      refine and_congr_right ?_
      intro throughout
      have holds := throughout _ [] _ _ (List.append_nil _).symm run
      exact stepwise _ _ _ _ _ _ run holds permitted steps

end Throughout

/-! ## Laws of traces -/

/-- Every event of a trace satisfies a law against the events before it. -/
def Justified (law : List ε → ε → Prop) (trace : List ε) : Prop :=
  ∀ before event after, trace = before ++ event :: after → law before event

namespace Justified

variable {law : List ε → ε → Prop}

@[simp] theorem nil : Justified law [] := by
  intro before event after equal
  simp at equal

/-- Events that satisfy a law against any past are justified. -/
theorem of_forall
    {trace : List ε}
    (holds : ∀ event ∈ trace, ∀ before, law before event) :
    Justified law trace := by
  rintro before event after rfl
  exact holds event (by simp) before

/-- A weaker law justifies a trace as well. -/
theorem mono
    {weaker : List ε → ε → Prop}
    {trace : List ε}
    (justified : Justified law trace)
    (implies : ∀ before event, law before event → weaker before event) :
    Justified weaker trace :=
  fun before event after equal =>
    implies before event (justified before event after equal)

/-- A trace is justified exactly when its first part is, and its second part
is against the longer past. -/
theorem append_iff
    (trace events : List ε) :
    Justified law (trace ++ events) ↔
      Justified law trace ∧
        Justified (fun before => law (trace ++ before)) events := by
  constructor
  · intro justified
    refine ⟨?_, ?_⟩
    · rintro before event after rfl
      exact justified before event (after ++ events) (by simp)
    · rintro before event after rfl
      exact justified (trace ++ before) event after (by simp)
  · rintro ⟨first, second⟩ before event after equal
    rcases List.append_eq_append_iff.mp equal with
      ⟨middle, rfl, inSecond⟩ | ⟨middle, rfl, inFirst⟩
    · exact second middle event after inSecond
    · cases middle with
      | nil =>
          simpa using second [] event after (by simpa using inFirst.symm)
      | cons head rest =>
          simp only [List.cons_append, List.cons.injEq] at inFirst
          obtain ⟨rfl, rfl⟩ := inFirst
          exact first before event rest rfl

@[simp] theorem singleton (event : ε) :
    Justified law [event] ↔ law [] event := by
  constructor
  · intro justified
    exact justified [] event [] rfl
  · intro holds before current after equal
    cases before with
    | nil =>
        simp only [List.nil_append, List.cons.injEq] at equal
        rw [← equal.1]
        exact holds
    | cons head rest => simp at equal

/-- One more event is justified by the trace before it. -/
theorem snoc_iff
    (trace : List ε)
    (event : ε) :
    Justified law (trace ++ [event]) ↔ Justified law trace ∧ law trace event := by
  rw [append_iff, singleton, List.append_nil]

theorem cons_iff
    (event : ε)
    (events : List ε) :
    Justified law (event :: events) ↔
      law [] event ∧ Justified (fun before => law (event :: before)) events := by
  rw [← List.singleton_append, append_iff, singleton]
  rfl

end Justified

/-! ## Stopping -/

/-- No event that goes on comes after an event that should have stopped. -/
def StopsAfter (stops goesOn : ε → Bool) (trace : List ε) : Prop :=
  Justified
    (fun before event => goesOn event = true →
      ∀ earlier ∈ before, stops earlier = false)
    trace

/-- When a machine shows, in one step, an event that should stop it and later
one that goes on, nothing can follow. -/
theorem not_stopsAfter
    {stops goesOn : ε → Bool}
    {stop last : ε}
    (shouldStop : stops stop = true)
    (continues : goesOn last = true)
    (before middle : List ε) :
    ¬ StopsAfter stops goesOn (before ++ stop :: (middle ++ [last])) := by
  intro stopped
  have none := stopped (before ++ stop :: middle) last [] (by simp) continues
    stop (by simp)
  rw [shouldStop] at none
  contradiction

/-- A machine that goes on in every faulty step, and stops in no other, has
stopped where it should exactly in the runs without faulty labels. -/
theorem Run.stopsAfter_iff
    {machine : EventMachine σ ι ε}
    {allowed : σ → ι → Prop}
    {start state : σ}
    {labels : List ι}
    {trace : List ε}
    (stops goesOn : ε → Bool)
    (faulty : ι → Bool)
    (silent : ∀ labels trace state label next events,
      Run machine allowed start labels trace state →
      machine state label = some (next, events) → faulty label = false →
      ∀ event ∈ events, stops event = false)
    (proceeds : ∀ labels trace state label next events,
      Run machine allowed start labels trace state →
      machine state label = some (next, events) → faulty label = true →
      ∃ stop middle last, events = stop :: (middle ++ [last]) ∧
        stops stop = true ∧ goesOn last = true)
    (run : Run machine allowed start labels trace state) :
    StopsAfter stops goesOn trace ↔ ∀ label ∈ labels, faulty label = false := by
  constructor
  · intro stopped
    induction run with
    | refl => simp
    | step run _ steps inductionHypothesis =>
        rename_i label events
        intro other member
        rcases List.mem_append.mp member with earlier | last
        · exact inductionHypothesis ((Justified.append_iff _ _).mp stopped).1
            other earlier
        · rw [List.mem_singleton.mp last]
          by_contra isFaulty
          obtain ⟨stop, middle, final, rfl, shouldStop, continues⟩ := proceeds
            _ _ _ _ _ _ run steps (eq_true_of_ne_false isFaulty)
          exact not_stopsAfter shouldStop continues _ _ stopped
  · intro faultless
    have quiet : ∀ event ∈ trace, stops event = false := by
      induction run with
      | refl => simp
      | step run _ steps inductionHypothesis =>
          intro event member
          rcases List.mem_append.mp member with earlier | last
          · exact inductionHypothesis
              (fun label before => faultless label
                (List.mem_append_left _ before)) event earlier
          · exact silent _ _ _ _ _ _ run steps
              (faultless _ (List.mem_append_right _ List.mem_cons_self)) event
              last
    rintro before event after rfl _ earlier member
    exact quiet earlier (by simp [member])

/-! ## Halting -/

/-- After an event that halts it, a machine shows its last event and nothing
else; until then it is about to show it. -/
def HaltsAfter
    (halts : ε → Bool)
    (last : ε)
    (halting : Prop)
    (trace : List ε) : Prop :=
  ∀ before stop after, trace = before ++ stop :: after → halts stop = true →
    after = [last] ∨ after = [] ∧ halting

/-- How far a machine has come in halting. -/
inductive HaltStage
  | running
  | halting
  | halted

/-- The traces of each stage. -/
inductive Halting (halts : ε → Bool) (last : ε) : HaltStage → List ε → Prop
  | running {trace : List ε} (silent : ∀ event ∈ trace, halts event = false) :
      Halting halts last .running trace
  | halting {trace : List ε} {stop : ε}
      (silent : ∀ event ∈ trace, halts event = false)
      (stops : halts stop = true) :
      Halting halts last .halting (trace ++ [stop])
  | halted {trace : List ε} {stop : ε}
      (silent : ∀ event ∈ trace, halts event = false)
      (stops : halts stop = true) :
      Halting halts last .halted (trace ++ [stop, last])

/-- What one step shows in a machine that halts. -/
inductive HaltStep (halts : ε → Bool) (last : ε) :
    HaltStage → List ε → HaltStage → Prop
  | run {events : List ε} (silent : ∀ event ∈ events, halts event = false) :
      HaltStep halts last .running events .running
  | stop {stop : ε} (stops : halts stop = true) :
      HaltStep halts last .running [stop] .halting
  | wait : HaltStep halts last .halting [] .halting
  | finish : HaltStep halts last .halting [last] .halted
  | rest : HaltStep halts last .halted [] .halted

namespace Halting

variable {halts : ε → Bool}
variable {last : ε}
variable {stage next : HaltStage}
variable {trace events : List ε}

theorem step
    (holds : Halting halts last stage trace)
    (steps : HaltStep halts last stage events next) :
    Halting halts last next (trace ++ events) := by
  cases steps with
  | run silent =>
      cases holds with
      | running earlier =>
          exact .running (List.forall_mem_append.mpr ⟨earlier, silent⟩)
  | stop stops =>
      cases holds with
      | running earlier => exact .halting earlier stops
  | wait =>
      rw [List.append_nil]
      exact holds
  | finish =>
      cases holds with
      | halting silent stops =>
          rw [List.append_assoc]
          exact .halted silent stops
  | rest =>
      rw [List.append_nil]
      exact holds

/-- The event that halts a machine is the only one before the last. -/
theorem haltsAfter
    {halting : Prop}
    (proceeds : halts last = false)
    (holds : Halting halts last stage trace)
    (isHalting : stage = .halting → halting) :
    HaltsAfter halts last halting trace := by
  intro before other after equal stopsOther
  have unique : ∀ {silent rest : List ε} {stop : ε},
      (∀ event ∈ silent, halts event = false) →
      (∀ event ∈ rest, halts event = false) →
      silent ++ stop :: rest = before ++ other :: after → after = rest := by
    intro silent rest stop first second split
    rcases List.append_eq_append_iff.mp split with
      ⟨middle, rfl, inSecond⟩ | ⟨middle, rfl, inFirst⟩
    · cases middle with
      | nil => exact (List.cons.inj inSecond).2.symm
      | cons head tail =>
          have member : other ∈ rest := by
            rw [(List.cons.inj inSecond).2]
            simp
          rw [second other member] at stopsOther
          contradiction
    · cases middle with
      | nil => exact (List.cons.inj inFirst).2
      | cons head tail =>
          have member : other ∈ before ++ head :: tail := by
            rw [(List.cons.inj inFirst).1]
            simp
          rw [first other member] at stopsOther
          contradiction
  cases holds with
  | running silent =>
      subst equal
      rw [silent other (by simp)] at stopsOther
      contradiction
  | halting silent stops =>
      exact .inr ⟨unique silent (by simp) equal, isHalting rfl⟩
  | halted silent stops =>
      exact .inl (unique silent (by simp [proceeds]) equal)

end Halting

/-! ## Simulation -/

/-- A simulation carries a law along every run.  Whenever a step of the
machine is matched by an abstract state that keeps the law for the longer
history, every run ends in a state that is related to an abstract state with
the law. -/
theorem Run.simulates
    {machine : EventMachine σ ι ε}
    {allowed : σ → ι → Prop}
    {start state : σ}
    {labels : List ι}
    {trace : List ε}
    (related : σ → τ → Prop)
    (law : List ι → List ε → τ → Prop)
    (abstractStart : τ)
    (initiallyRelated : related start abstractStart)
    (initially : law [] [] abstractStart)
    (simulated : ∀ labels trace state label next events image,
      related state image → law labels trace image → allowed state label →
      machine state label = some (next, events) →
      ∃ imageNext, related next imageNext ∧
        law (labels ++ [label]) (trace ++ events) imageNext)
    (run : Run machine allowed start labels trace state) :
    ∃ image, related state image ∧ law labels trace image := by
  induction run with
  | refl => exact ⟨abstractStart, initiallyRelated, initially⟩
  | step _ permitted steps inductionHypothesis =>
      obtain ⟨image, isRelated, holds⟩ := inductionHypothesis
      exact simulated _ _ _ _ _ _ image isRelated holds permitted steps

end EventMachine
