import IisAsgiHandler.Library.EventMachine

/-!
# Machines made of components

A host uses a component: some of its events are requests, which the component
accepts, and the component hands items back to it.  One component refines
another when each of its steps is a step of the other one, with the same items
and the same events, or no step at all.  A host over the first component then
shows nothing that it could not show over the second.
-/

namespace EventMachine

variable {σ τ ι κ ε δ ω : Type*}

/-! ## Runs of two machines -/

section TwoMachines

variable {machine : EventMachine σ ι ε}
variable {allowed : σ → ι → Prop}
variable {start state : σ}
variable {labels : List ι}
variable {trace : List ε}
variable {abstract : EventMachine τ κ δ}

/-- A run can be continued by another. -/
theorem Run.append
    {laterLabels : List ι}
    {laterTrace : List ε}
    {final : σ}
    (first : Run machine allowed start labels trace state)
    (second : Run machine allowed state laterLabels laterTrace final) :
    Run machine allowed start (labels ++ laterLabels) (trace ++ laterTrace)
      final := by
  induction second with
  | refl => simpa using first
  | step _ permittedStep steps inductionHypothesis =>
      have longer := Run.step inductionHypothesis permittedStep steps
      simpa [List.append_assoc] using longer

/-- One step is a run. -/
theorem Run.single
    {label : ι}
    {next : σ}
    {events : List ε}
    (permittedStep : allowed start label)
    (steps : machine start label = some (next, events)) :
    Run machine allowed start [label] events next :=
  Run.step Run.refl permittedStep steps

/-- A simulation with stuttering carries runs to runs.  Every step is matched
by a run of the abstract machine that shows the same; what is known of the
abstract states that can be reached may be used for it. -/
theorem Run.refines
    (permitted : τ → κ → Prop)
    (related : σ → τ → Prop)
    (shows : ε → Option ω)
    (imageShows : δ → Option ω)
    (imageStart : τ)
    (initially : related start imageStart)
    (matched : ∀ state label next events imageLabels imageTrace image,
      Run abstract permitted imageStart imageLabels imageTrace image →
      related state image → allowed state label →
      machine state label = some (next, events) →
      ∃ laterLabels laterTrace imageNext,
        Run abstract permitted image laterLabels laterTrace imageNext ∧
          related next imageNext ∧
          laterTrace.filterMap imageShows = events.filterMap shows)
    (run : Run machine allowed start labels trace state) :
    ∃ imageLabels imageTrace image,
      Run abstract permitted imageStart imageLabels imageTrace image ∧
        related state image ∧
        imageTrace.filterMap imageShows = trace.filterMap shows := by
  induction run with
  | refl => exact ⟨[], [], imageStart, Run.refl, initially, rfl⟩
  | step _ permittedStep steps inductionHypothesis =>
      obtain ⟨imageLabels, imageTrace, image, imageRun, isRelated, same⟩ :=
        inductionHypothesis
      obtain ⟨laterLabels, laterTrace, imageNext, later, isRelatedNext, sameNext⟩ :=
        matched _ _ _ _ _ _ _ imageRun isRelated permittedStep steps
      refine ⟨_, _, imageNext, imageRun.append later, isRelatedNext, ?_⟩
      rw [List.filterMap_append, List.filterMap_append, same, sameNext]

end TwoMachines

/-! ## Hosts and components -/

/-- A component accepts requests `α`, and a step of it hands out items `β`. -/
structure Component (τ κ δ α β : Type*) where
  accept : τ → α → τ
  step : τ → κ → Option (τ × List β × List δ)

/-- A host makes requests `α` by some of its events, and takes items `β`. -/
structure Host (σ ι ε α β : Type*) where
  step : EventMachine σ ι ε
  request : ε → Option α
  receive : σ → β → σ

/-- What a host over a component shows. -/
inductive HostedEvent (ε δ β : Type*)
  | host (event : ε)
  | component (event : δ)
  /-- The component hands an item to the host. -/
  | delivered (item : β)
  deriving DecidableEq

namespace Host

variable {α β : Type*}
variable (host : Host σ ι ε α β)
variable (component : Component τ κ δ α β)

/-- The component once the host has shown an event. -/
def pass (state : τ) (event : ε) : τ :=
  match host.request event with
  | some request => component.accept state request
  | none => state

/-- A host over a component. -/
def atop : EventMachine (σ × τ) (ι ⊕ κ) (HostedEvent ε δ β)
  | (state, inner), .inl label =>
      match host.step state label with
      | none => none
      | some (next, events) =>
          some ((next, events.foldl (host.pass component) inner),
            events.map .host)
  | (state, inner), .inr label =>
      match component.step inner label with
      | none => none
      | some (next, items, shown) =>
          some ((items.foldl host.receive state, next),
            shown.map .component ++ items.map .delivered)

/-- The conditions on a step of a host and on one of its component. -/
def guarded (good : σ → ι → Prop) (allowed : τ → κ → Prop) :
    σ × τ → ι ⊕ κ → Prop
  | (state, _), .inl label => good state label
  | (_, inner), .inr label => allowed inner label

/-- The events of the host itself. -/
def hostEvents (trace : List (HostedEvent ε δ β)) : List ε :=
  trace.filterMap fun
    | .host event => some event
    | _ => none

/-- The events of its component. -/
def componentEvents (trace : List (HostedEvent ε δ β)) : List δ :=
  trace.filterMap fun
    | .component event => some event
    | _ => none

variable {host component}

/-- Events that request nothing leave the component alone. -/
theorem foldl_pass_of_silent
    {events : List ε}
    (inner : τ)
    (silent : ∀ event ∈ events, host.request event = none) :
    events.foldl (host.pass component) inner = inner := by
  induction events generalizing inner with
  | nil => rfl
  | cons event events inductionHypothesis =>
      have unchanged : host.pass component inner event = inner := by
        simp [pass, silent event List.mem_cons_self]
      rw [List.foldl_cons, unchanged]
      exact inductionHypothesis inner fun later member =>
        silent later (List.mem_cons_of_mem event member)

/-- The cases of one step. -/
inductive Stepped
    (host : Host σ ι ε α β)
    (component : Component τ κ δ α β)
    (state : σ)
    (inner : τ) :
    ι ⊕ κ → σ × τ → List (HostedEvent ε δ β) → Prop
  | host {label : ι} {next : σ} {events : List ε}
      (steps : host.step state label = some (next, events)) :
      Stepped host component state inner (.inl label)
        (next, events.foldl (host.pass component) inner) (events.map .host)
  | component {label : κ} {next : τ} {items : List β} {shown : List δ}
      (steps : component.step inner label = some (next, items, shown)) :
      Stepped host component state inner (.inr label)
        (items.foldl host.receive state, next)
        (shown.map .component ++ items.map .delivered)

/-- Every step is one of these cases. -/
theorem stepped_of_atop
    {state : σ}
    {inner : τ}
    {label : ι ⊕ κ}
    {next : σ × τ}
    {events : List (HostedEvent ε δ β)}
    (steps : host.atop component (state, inner) label = some (next, events)) :
    Stepped host component state inner label next events := by
  cases label with
  | inl label =>
      simp only [atop] at steps
      split at steps
      next => cases steps
      next next' events' found =>
        cases steps
        exact .host found
  | inr label =>
      simp only [atop] at steps
      split at steps
      next => cases steps
      next next' items shown found =>
        cases steps
        exact .component found

theorem atop_host
    {state next : σ}
    {label : ι}
    {events : List ε}
    (inner : τ)
    (steps : host.step state label = some (next, events)) :
    host.atop component (state, inner) (.inl label) =
      some ((next, events.foldl (host.pass component) inner),
        events.map .host) := by
  simp [atop, steps]

theorem atop_component
    {inner next : τ}
    {label : κ}
    {items : List β}
    {shown : List δ}
    (state : σ)
    (steps : component.step inner label = some (next, items, shown)) :
    host.atop component (state, inner) (.inr label) =
      some ((items.foldl host.receive state, next),
        shown.map .component ++ items.map .delivered) := by
  simp [atop, steps]

end Host

/-! ## Refinement of components -/

namespace Component

variable {α β υ θ : Type*}

/-- The steps of one component are steps of another, or none.  Requests keep
the two related if they are of an admitted kind. -/
structure Refines
    (concrete : Component τ κ δ α β)
    (abstract : Component υ θ δ α β)
    (allowed : τ → κ → Prop)
    (permitted : υ → θ → Prop)
    (admits : α → Prop)
    (related : τ → υ → Prop) : Prop where
  accept : ∀ inner image request, related inner image → admits request →
    related (concrete.accept inner request) (abstract.accept image request)
  step : ∀ inner image label next items shown, related inner image →
    allowed inner label → concrete.step inner label = some (next, items, shown) →
    (items = [] ∧ shown = [] ∧ related next image) ∨
      ∃ imageLabel imageNext, permitted image imageLabel ∧
        abstract.step image imageLabel = some (imageNext, items, shown) ∧
        related next imageNext

namespace Refines

variable {concrete : Component τ κ δ α β}
variable {abstract : Component υ θ δ α β}
variable {allowed : τ → κ → Prop}
variable {permitted : υ → θ → Prop}
variable {admits : α → Prop}
variable {related : τ → υ → Prop}

/-- The requests in the events of a host keep the components related. -/
theorem pass
    {host : Host σ ι ε α β}
    {inner : τ}
    {image : υ}
    {events : List ε}
    (refines : Refines concrete abstract allowed permitted admits related)
    (isRelated : related inner image)
    (admitted : ∀ event ∈ events, ∀ request, host.request event = some request →
      admits request) :
    related (events.foldl (host.pass concrete) inner)
      (events.foldl (host.pass abstract) image) := by
  induction events generalizing inner image with
  | nil => exact isRelated
  | cons event events inductionHypothesis =>
      refine inductionHypothesis ?_ fun later member =>
        admitted later (List.mem_cons_of_mem event member)
      unfold Host.pass
      cases found : host.request event with
      | none => exact isRelated
      | some request =>
          exact refines.accept _ _ _ isRelated
            (admitted event List.mem_cons_self request found)

/-- A host over a component that refines another shows what it shows over the
other, if the requests that it makes there are admitted. -/
theorem atop
    {host : Host σ ι ε α β}
    {good : σ → ι → Prop}
    {start state : σ}
    {innerStart inner : τ}
    {imageStart : υ}
    {labels : List (ι ⊕ κ)}
    {trace : List (HostedEvent ε δ β)}
    (refines : Refines concrete abstract allowed permitted admits related)
    (initially : related innerStart imageStart)
    (admitted : ∀ labels trace state image label next events,
      Run (host.atop abstract) (Host.guarded good permitted) (start, imageStart)
        labels trace (state, image) →
      good state label → host.step state label = some (next, events) →
      ∀ event ∈ events, ∀ request, host.request event = some request →
        admits request)
    (run : Run (host.atop concrete) (Host.guarded good allowed)
      (start, innerStart) labels trace (state, inner)) :
    ∃ imageLabels image,
      Run (host.atop abstract) (Host.guarded good permitted) (start, imageStart)
        imageLabels trace (state, image) ∧ related inner image := by
  obtain ⟨imageLabels, imageTrace, ⟨_, image⟩, imageRun, ⟨rfl, isRelated⟩, same⟩ :=
    run.refines (Host.guarded good permitted)
      (fun hosted image => hosted.1 = image.1 ∧ related hosted.2 image.2)
      some some (start, imageStart) ⟨rfl, initially⟩ (by
        rintro ⟨state, inner⟩ label next events _ _ ⟨_, image⟩ imageRun
          ⟨rfl, isRelated⟩ isAllowed steps
        cases Host.stepped_of_atop steps with
        | host hostSteps =>
            exact ⟨_, _, _, Run.single (by exact isAllowed)
              (Host.atop_host image hostSteps),
              ⟨rfl, refines.pass isRelated
                (admitted _ _ _ _ _ _ _ imageRun isAllowed hostSteps)⟩, rfl⟩
        | component componentSteps =>
            rcases refines.step _ _ _ _ _ _ isRelated isAllowed componentSteps with
              ⟨rfl, rfl, isRelatedNext⟩ |
              ⟨imageLabel, imageNext, isPermitted, imageSteps, isRelatedNext⟩
            · exact ⟨[], [], _, Run.refl, ⟨rfl, isRelatedNext⟩, rfl⟩
            · exact ⟨_, _, _, Run.single (by exact isPermitted)
                (Host.atop_component state imageSteps),
                ⟨rfl, isRelatedNext⟩, rfl⟩)
  simp only [List.filterMap_some] at same
  subst same
  exact ⟨imageLabels, image, imageRun, isRelated⟩

end Refines

end Component

end EventMachine
