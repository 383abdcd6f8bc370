import IisAsgiHandler.ProcessPool.Basic
import IisAsgiHandler.ProcessPool.CommandLine

/-!
# The pools of all applications

When an application starts, the pools of its configuration are built.  One
vector holds the pools of all applications, and it is cleared when any of them
stops.
-/

namespace IisAsgiHandler
namespace GlobalModule

open ProcessPool (WString wide)

/-! ## `LoadConfiguration` -/

/-- A `<process/>`: its properties, some without a string value. -/
structure AppHostElement where
  properties : List (WString × Option WString)
  deriving DecidableEq

/-- The section `system.webServer/processPools` of an application.  The calls
that read it may fail. -/
structure AppHostSection where
  hasCollection : Bool := true
  hasCount : Bool := true
  items : List (Option AppHostElement)
  deriving DecidableEq

inductive LoadError where
  | runtimeError (what : String)
  /-- `std::invalid_argument` or `std::out_of_range`. -/
  | logicError
  deriving DecidableEq

/-- A pool with its number in the order in which pools were built. -/
structure Pool where
  number : Nat
  executable : WString
  arguments : WString
  numProcesses : Nat
  deriving DecidableEq

/-- The module; the count of pools built so far tells them apart. -/
structure Module where
  mPools : List Pool := []
  built : Nat := 0
  deriving DecidableEq

def isSpace (character : UInt16) : Bool :=
  character ∈ [0x20, 0x09, 0x0a, 0x0b, 0x0c, 0x0d]

def isDigit (character : UInt16) : Bool :=
  0x30 ≤ character && character ≤ 0x39

/-- `std::stoi`: blanks, a sign and digits; what follows is not looked at. -/
def stoi (text : WString) : Option Int32 :=
  let number := text.dropWhile isSpace
  let negative := number.head? == some 0x2d
  let unsigned :=
    if negative || number.head? == some 0x2b then number.tail else number
  let digits := unsigned.takeWhile isDigit
  let magnitude : Int :=
    digits.foldl (fun value digit => value * 10 + (digit - 0x30).toNat) 0
  let value := if negative then -magnitude else magnitude
  if digits = [] then none
  else if Int32.minValue.toInt ≤ value ∧ value ≤ Int32.maxValue.toInt then
    some (Int32.ofInt value)
  else none

example : stoi (wide " -12x") = some (-12) := by decide

/-- The value is read up to its terminator. -/
def getProperty (element : AppHostElement) (name : WString) :
    Except LoadError WString :=
  match element.properties.lookup name with
  | none => .error (.runtimeError "GetPropertyByName()")
  | some none => .error (.runtimeError "get_StringValue()")
  | some (some value) => .ok (value.takeWhile (· ≠ 0))

/-- One turn of the loop over the elements. -/
def buildPool (number : Nat) (item : Option AppHostElement) :
    Except LoadError Pool :=
  match item with
  | none => .error (.runtimeError "get_Item()")
  | some element => do
      let executable ← getProperty element (wide "executable")
      let arguments ← getProperty element (wide "arguments")
      match stoi (← getProperty element (wide "count")) with
      | none => .error .logicError
      | some count =>
          return {
            number := number, executable := executable, arguments := arguments,
            numProcesses := ProcessPool.numProcessesOf count }

/-- Pools built before an error stay. -/
def loadElements : Module → List (Option AppHostElement) →
    Module × Option LoadError
  | module, [] => (module, none)
  | module, item :: items =>
      match buildPool module.built item with
      | .error error => (module, some error)
      | .ok pool =>
          loadElements
            { mPools := module.mPools ++ [pool], built := module.built + 1 }
            items

/-- Without the section, which needs the schema to be installed, there is
nothing to load. -/
def loadConfiguration (module : Module) :
    Option AppHostSection → Module × Option LoadError
  | none => (module, none)
  | some processPools =>
      if !processPools.hasCollection then
        (module, some (.runtimeError "get_Collection()"))
      else if !processPools.hasCount then
        (module, some (.runtimeError "get_Count()"))
      else loadElements module processPools.items

/-! ## Notifications -/

/-- Only a `std::runtime_error` is caught. -/
def onGlobalApplicationStart
    (module : Module) (processPools : Option AppHostSection) : Option Module :=
  match loadConfiguration module processPools with
  | (_, some .logicError) => none
  | (next, _) => some next

/-- Pools are destroyed, and their processes with them. -/
def onGlobalApplicationStop (module : Module) : Module :=
  { module with mPools := [] }

inductive Notification where
  /-- An application starts; this is what its configuration holds by then. -/
  | applicationStart (app : WString) (processPools : Option AppHostSection)
  | applicationStop (app : WString)
  deriving DecidableEq

def notify (module : Module) : Notification → Option Module
  | .applicationStart _ processPools =>
      onGlobalApplicationStart module processPools
  | .applicationStop _ => some (onGlobalApplicationStop module)

/-! ## The applications that run -/

/-- An application that was started, with the pools of its configuration. -/
structure Application where
  app : WString
  pools : List Pool
  deriving DecidableEq

/-- The applications started and not yet stopped. -/
structure Hosted where
  running : List Application := []
  built : Nat := 0
  deriving DecidableEq

/-- One pool for each element, in order, if all of them load. -/
def poolsOf : Nat → List (Option AppHostElement) → Option (List Pool)
  | _, [] => some []
  | number, item :: items =>
      match buildPool number item, poolsOf (number + 1) items with
      | .ok pool, some pools => some (pool :: pools)
      | _, _ => none

/-- The pools of a configuration that can be loaded. -/
def configured (number : Nat) :
    Option AppHostSection → Option (List Pool)
  | none => none
  | some processPools =>
      if processPools.hasCollection && processPools.hasCount then
        poolsOf number processPools.items
      else none

namespace Hosted

def start (hosted : Hosted) (app : WString) (pools : List Pool) : Hosted where
  running := hosted.running ++ [⟨app, pools⟩]
  built := hosted.built + pools.length

def stop (hosted : Hosted) (app : WString) : Hosted :=
  { hosted with
    running := hosted.running.filter fun other => other.app ≠ app }

def step (hosted : Hosted) : Notification → Hosted
  | .applicationStart app processPools =>
      hosted.start app ((configured hosted.built processPools).getD [])
  | .applicationStop app => hosted.stop app

/-- An application starts when it does not run, with a configuration that can
be loaded, and stops when it runs. -/
def Admits (hosted : Hosted) : Notification → Prop
  | .applicationStart app processPools =>
      (∀ other ∈ hosted.running, other.app ≠ app) ∧
        (configured hosted.built processPools).isSome = true
  | .applicationStop app => ∃ other ∈ hosted.running, other.app = app

/-- Whenever an application stops, no other one that runs has pools. -/
def StopsAlone (hosted : Hosted) : Notification → Prop
  | .applicationStart _ _ => True
  | .applicationStop app =>
      ∀ other ∈ hosted.running, other.app ≠ app → other.pools = []

/-- Each notification satisfies a law in what runs before it. -/
def Throughout (law : Hosted → Notification → Prop) :
    Hosted → List Notification → Prop
  | _, [] => True
  | hosted, notification :: history =>
      law hosted notification ∧
        Throughout law (hosted.step notification) history

end Hosted

instance (hosted : Hosted) (notification : Notification) :
    Decidable (hosted.Admits notification) :=
  match notification with
  | .applicationStart app processPools =>
      inferInstanceAs (Decidable
        ((∀ other ∈ hosted.running, other.app ≠ app) ∧
          (configured hosted.built processPools).isSome = true))
  | .applicationStop app =>
      inferInstanceAs (Decidable (∃ other ∈ hosted.running, other.app = app))

instance (hosted : Hosted) (notification : Notification) :
    Decidable (hosted.StopsAlone notification) :=
  match notification with
  | .applicationStart _ _ => inferInstanceAs (Decidable True)
  | .applicationStop app =>
      inferInstanceAs (Decidable
        (∀ other ∈ hosted.running, other.app ≠ app → other.pools = []))

instance decidableThroughout
    (law : Hosted → Notification → Prop)
    [∀ hosted notification, Decidable (law hosted notification)] :
    (hosted : Hosted) → (history : List Notification) →
      Decidable (Hosted.Throughout law hosted history)
  | _, [] => inferInstanceAs (Decidable True)
  | hosted, notification :: history =>
      have := decidableThroughout law (hosted.step notification) history
      inferInstanceAs (Decidable
        (law hosted notification ∧
          Hosted.Throughout law (hosted.step notification) history))

/-- The module holds the pools of the running applications and no others, those
of each application in order. -/
def Agrees (module : Module) (hosted : Hosted) : Prop :=
  module.mPools.Perm (hosted.running.flatMap Application.pools) ∧
    ∀ application ∈ hosted.running,
      application.pools.Sublist module.mPools

/-- The pools follow the applications, after every notification. -/
def Follows : Module → Hosted → List Notification → Prop
  | _, _, [] => True
  | module, hosted, notification :: history =>
      ∃ next, notify module notification = some next ∧
        Agrees next (hosted.step notification) ∧
        Follows next (hosted.step notification) history

/-! ## Starting and stopping -/

/-- The module has the pools of the running applications, one application after
the other. -/
structure Holds (module : Module) (hosted : Hosted) : Prop where
  pools : module.mPools = hosted.running.flatMap Application.pools
  built : module.built = hosted.built

namespace Holds

variable {module : Module}
variable {hosted : Hosted}

theorem agrees (holds : Holds module hosted) : Agrees module hosted := by
  refine ⟨List.Perm.of_eq holds.pools, ?_⟩
  intro application member
  rw [holds.pools, List.flatMap]
  exact List.sublist_flatten_of_mem (List.mem_map_of_mem member)

end Holds

/-- Elements that all load add their pools. -/
theorem loadElements_of_poolsOf
    {module : Module}
    {items : List (Option AppHostElement)}
    {pools : List Pool}
    (load : poolsOf module.built items = some pools) :
    loadElements module items =
      ({ mPools := module.mPools ++ pools
         built := module.built + pools.length }, none) := by
  induction items generalizing module pools with
  | nil =>
      cases load
      simp [loadElements]
  | cons item items inductionHypothesis =>
      rw [poolsOf] at load
      split at load
      next pool rest first others =>
        cases load
        rw [loadElements, first]
        let longer : Module :=
          { mPools := module.mPools ++ [pool], built := module.built + 1 }
        have loaded : loadElements longer items = _ := inductionHypothesis others
        refine loaded.trans ?_
        simp [longer, Nat.add_assoc, Nat.add_comm 1]
      next => cases load

namespace Holds

variable {module : Module}
variable {hosted : Hosted}

/-- A start appends the pools of the application. -/
theorem start
    (holds : Holds module hosted)
    {app : WString}
    {processPools : Option AppHostSection}
    (loads : (configured hosted.built processPools).isSome = true) :
    ∃ next, notify module (.applicationStart app processPools) = some next ∧
      Holds next (hosted.step (.applicationStart app processPools)) := by
  obtain ⟨pools, found⟩ := Option.isSome_iff_exists.mp loads
  cases processPools with
  | none => cases found
  | some processPools =>
      rw [Hosted.step, found]
      rw [configured] at found
      split at found
      next readable =>
        rw [← holds.built] at found
        rw [Bool.and_eq_true] at readable
        let next : Module := {
          mPools := module.mPools ++ pools
          built := module.built + pools.length }
        refine ⟨next, ?_, ?_⟩
        · rw [notify, onGlobalApplicationStart, loadConfiguration,
            readable.1, readable.2]
          simp only [Bool.not_true, Bool.false_eq_true, if_false,
            loadElements_of_poolsOf found]
          rfl
        · constructor
          · simp [Hosted.start, next, holds.pools]
          · simp [Hosted.start, next, holds.built]
      next => cases found

/-- A stop is right when no other application has pools. -/
theorem stop
    (holds : Holds module hosted)
    {app : WString}
    (alone : ∀ other ∈ hosted.running, other.app ≠ app → other.pools = []) :
    Holds (onGlobalApplicationStop module) (hosted.stop app) := by
  refine ⟨?_, holds.built⟩
  symm
  rw [onGlobalApplicationStop, List.flatMap_eq_nil_iff]
  intro other member
  rw [Hosted.stop, List.mem_filter, decide_eq_true_eq] at member
  exact alone other member.1 member.2

end Holds

/-- After a stop, nothing is left of the pools that should be there. -/
theorem alone_of_agrees
    {module : Module}
    {hosted : Hosted}
    {app : WString}
    (agrees : Agrees (onGlobalApplicationStop module) (hosted.stop app)) :
    ∀ other ∈ hosted.running, other.app ≠ app → other.pools = [] := by
  intro other member different
  have stays : other ∈ (hosted.stop app).running := by
    rw [Hosted.stop, List.mem_filter, decide_eq_true_eq]
    exact ⟨member, different⟩
  exact List.sublist_nil.mp (agrees.2 other stays)

/-- From a state in which the pools are right. -/
theorem Holds.follows_iff
    {module : Module}
    {hosted : Hosted}
    {history : List Notification}
    (holds : Holds module hosted)
    (alternates : Hosted.Throughout Hosted.Admits hosted history) :
    Follows module hosted history ↔
      Hosted.Throughout Hosted.StopsAlone hosted history := by
  induction history generalizing module hosted with
  | nil => exact Iff.rfl
  | cons notification history inductionHypothesis =>
      obtain ⟨admitted, rest⟩ := alternates
      cases notification with
      | applicationStart app processPools =>
          obtain ⟨next, notified, nextHolds⟩ := holds.start admitted.2
          constructor
          · rintro ⟨other, sameNotified, _, follows⟩
            rw [notified] at sameNotified
            cases sameNotified
            exact ⟨trivial, (inductionHypothesis nextHolds rest).mp follows⟩
          · rintro ⟨_, alone⟩
            exact ⟨next, notified, nextHolds.agrees,
              (inductionHypothesis nextHolds rest).mpr alone⟩
      | applicationStop app =>
          constructor
          · rintro ⟨next, notified, agrees, follows⟩
            cases notified
            have alone := alone_of_agrees agrees
            have nextHolds := holds.stop alone
            exact ⟨alone, (inductionHypothesis nextHolds rest).mp follows⟩
          · rintro ⟨alone, stopsAlone⟩
            have nextHolds := holds.stop alone
            exact ⟨_, rfl, nextHolds.agrees,
              (inductionHypothesis nextHolds rest).mpr stopsAlone⟩

/-! ## Histories -/

theorem holds_initial : Holds {} {} := ⟨rfl, rfl⟩

/-- In a history of starts and stops, the pools follow the applications exactly
when no application stops while another one has pools. -/
theorem follows_iff_stopsAlone
    {history : List Notification}
    (alternates : Hosted.Throughout Hosted.Admits {} history) :
    Follows {} {} history ↔
      Hosted.Throughout Hosted.StopsAlone {} history :=
  holds_initial.follows_iff alternates

def samplePools (executable : String) : Option AppHostSection :=
  some { items := [some { properties :=
    [(wide "executable", some (wide executable)),
      (wide "arguments", some (wide "-c")),
      (wide "count", some (wide "2"))] }] }

/-- Two applications, one of which stops while the other runs. -/
def twoApplications : List Notification :=
  [.applicationStart (wide "1") (samplePools "a.exe"),
    .applicationStart (wide "2") (samplePools "b.exe"),
    .applicationStop (wide "1")]

/-- Of two applications, only one has pools; it stops and starts again while the
other one runs. -/
def poolsOfOne : List Notification :=
  [.applicationStart (wide "1") (samplePools "a.exe"),
    .applicationStart (wide "2") (some { items := [] }),
    .applicationStop (wide "1"),
    .applicationStart (wide "1") (samplePools "a.exe")]

theorem follows_iff_stopsAlone_sample : Follows {} {} poolsOfOne := by
  have admitted : Hosted.Throughout Hosted.Admits {} poolsOfOne := by
    decide +kernel
  have alone : Hosted.Throughout Hosted.StopsAlone {} poolsOfOne := by
    decide +kernel
  exact (follows_iff_stopsAlone admitted).mpr alone

/-- The other application runs on without its pool. -/
theorem stop_clears_other_pools :
    Hosted.Throughout Hosted.Admits {} twoApplications ∧
      ¬ Follows {} {} twoApplications := by
  have admitted : Hosted.Throughout Hosted.Admits {} twoApplications := by
    decide +kernel
  have notAlone : ¬ Hosted.Throughout Hosted.StopsAlone {} twoApplications := by
    decide +kernel
  refine ⟨admitted, ?_⟩
  rw [holds_initial.follows_iff admitted]
  exact notAlone

end GlobalModule
end IisAsgiHandler
