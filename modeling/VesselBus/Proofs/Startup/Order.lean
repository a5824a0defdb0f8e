import VesselBus.Node.Startup
import Mathlib.Data.List.Nodup

/-!
# The order of starts and stops

A fleet keeps a journal of the calls that it gets. Whatever the nodes answer, those that came up are started in the order
in which they were initialised; if one of them fails to start, the ones before it are stopped, the last one first, and no
other; and to stop them all is to stop each of them once, the last one first.
-/

namespace VesselBus

variable {ω : Type}

inductive LifecycleCall where
  | init (ref : NodeRef)
  | start (ref : NodeRef)
  | stop (ref : NodeRef)
  deriving DecidableEq, Repr

namespace Fleet

/-- The same fleet, with a journal of the calls that it gets. -/
def journaled (fleet : Fleet ω) : Fleet (ω × List LifecycleCall) where
  name ref w := fleet.name ref w.1
  init ref w := do
    let (outcome, world) ← fleet.init ref w.1
    return (outcome, world, w.2 ++ [.init ref])
  start ref w := do
    let (outcome, world) ← fleet.start ref w.1
    return (outcome, world, w.2 ++ [.start ref])
  stop ref w := do
    let world ← fleet.stop ref w.1
    return (world, w.2 ++ [.stop ref])

variable {fleet : Fleet ω} {world world' world'' : ω} {ref : NodeRef} {started rest nodes : List NodeRef}
  {outcome : Except StartupError Unit} {calls : List LifecycleCall}

/-! ## Stopping -/

/-- What is left when these nodes have been stopped one after the other. -/
def stops (fleet : Fleet ω) (refs : List NodeRef) (world : ω) : ω :=
  refs.foldl (fun world ref => (fleet.stop ref world).result) world

theorem result_quiet (fleet : Fleet ω) (refs : List NodeRef) (world : ω) :
    (fleet.quiet refs world).result = fleet.stops refs world := by
  induction refs generalizing world with
  | nil => rfl
  | cons ref rest ih => exact ih (fleet.stop ref world).result

theorem result_stopEach (fleet : Fleet ω) (refs : List NodeRef) (world : ω) :
    (fleet.stopEach refs world).result = fleet.stops refs world := by
  induction refs generalizing world with
  | nil => rfl
  | cons ref rest ih => exact ih (fleet.stop ref world).result

theorem stops_journaled (fleet : Fleet ω) (refs : List NodeRef) (world : ω) (journal : List LifecycleCall) :
    fleet.journaled.stops refs (world, journal) = (fleet.stops refs world, journal ++ refs.map .stop) := by
  induction refs generalizing world journal with
  | nil => simp [stops]
  | cons ref rest ih =>
    have step : (fleet.journaled.stop ref (world, journal)).result =
        ((fleet.stop ref world).result, journal ++ [.stop ref]) := rfl
    unfold stops at ih ⊢
    simp only [List.foldl_cons, step, ih, List.map_cons, List.append_assoc, List.singleton_append]

/-! ## Starting -/

theorem result_startEach_of_ok (fleet : Fleet ω) (started rest : List NodeRef)
    (accepted : (fleet.start ref world).result = (.ok (), world')) :
    (fleet.startEach started (ref :: rest) world).result = (fleet.startEach (ref :: started) rest world').result := by
  simp only [startEach, Traced.result_bind, accepted]

theorem result_startEach_of_error (fleet : Fleet ω) (started rest : List NodeRef) {cause : LifecycleError}
    (refused : (fleet.start ref world).result = (.error cause, world')) :
    (fleet.startEach started (ref :: rest) world).result =
      (.error (.start (fleet.name ref (fleet.quiet started world').result) cause),
        (fleet.quiet started world').result) := by
  simp only [startEach, Traced.result_bind, refused, Traced.result_pure]

/-- The nodes accept their starts, one after the other. -/
inductive Starts (fleet : Fleet ω) : List NodeRef → ω → ω → Prop where
  | nil (world : ω) : Starts fleet [] world world
  | cons {ref : NodeRef} {rest : List NodeRef} {world world' world'' : ω}
    (accepted : (fleet.start ref world).result = (.ok (), world')) (others : Starts fleet rest world' world'') :
    Starts fleet (ref :: rest) world world''

/-- How a start of these nodes comes out when others have been started before them, the last one first in the list. -/
inductive Launch (fleet : Fleet ω) (started : List NodeRef) :
    List NodeRef → ω → Except StartupError Unit → ω → List LifecycleCall → Prop where
  | up {nodes : List NodeRef} {world world' : ω} (all : fleet.Starts nodes world world') :
    Launch fleet started nodes world (.ok ()) world' (nodes.map .start)
  | undone {before after : List NodeRef} {ref : NodeRef} {world between behind world' : ω} {cause : LifecycleError}
    (accepted : fleet.Starts before world between) (refused : (fleet.start ref between).result = (.error cause, behind))
    (stopped : world' = fleet.stops (before.reverse ++ started) behind) :
    Launch fleet started (before ++ ref :: after) world (.error (.start (fleet.name ref world') cause)) world'
      (before.map .start ++ .start ref :: (before.reverse ++ started).map .stop)

theorem Launch.after (launch : fleet.Launch (ref :: started) rest world' outcome world'' calls)
    (accepted : (fleet.start ref world).result = (.ok (), world')) :
    fleet.Launch started (ref :: rest) world outcome world'' (.start ref :: calls) := by
  cases launch with
  | up all => exact .up (.cons accepted all)
  | @undone before after other _ between behind _ cause accepted' refused stopped =>
    have same : before.reverse ++ ref :: started = (ref :: before).reverse ++ started := by simp
    rw [same] at stopped ⊢
    exact .undone (.cons accepted accepted') refused stopped

theorem launch_startEach (fleet : Fleet ω) (started nodes : List NodeRef) (world : ω) :
    ∃ outcome world' calls, fleet.Launch started nodes world outcome world' calls ∧
      (fleet.startEach started nodes world).result = (outcome, world') ∧
      ∀ journal, (fleet.journaled.startEach started nodes (world, journal)).result =
        (outcome, world', journal ++ calls) := by
  induction nodes generalizing started world with
  | nil => exact ⟨_, _, _, .up (.nil world), rfl, fun journal => by simp [startEach]⟩
  | cons ref rest ih =>
    cases answer : (fleet.start ref world).result with
    | mk result behind =>
      have noted (journal : List LifecycleCall) : (fleet.journaled.start ref (world, journal)).result =
          (result, behind, journal ++ [.start ref]) := by
        simp [journaled, answer]
      cases result with
      | ok =>
        obtain ⟨outcome, world', calls, launch, result, journaled⟩ := ih (ref :: started) behind
        refine ⟨outcome, world', .start ref :: calls, launch.after answer, ?_, fun journal => ?_⟩
        · rw [result_startEach_of_ok fleet started rest answer, result]
        · rw [result_startEach_of_ok fleet.journaled started rest (noted journal), journaled]
          simp
      | error cause =>
        have launch : fleet.Launch started ([] ++ ref :: rest) world _ _ _ := .undone (.nil world) answer rfl
        refine ⟨_, _, _, launch, ?_, fun journal => ?_⟩
        · rw [result_startEach_of_error fleet started rest answer, result_quiet]
          rfl
        · rw [result_startEach_of_error fleet.journaled started rest (noted journal), result_quiet, stops_journaled]
          simp [journaled]

theorem Launch.nodup (launch : fleet.Launch [] nodes world outcome world' calls) (distinct : nodes.Nodup) :
    calls.Nodup := by
  have starts {refs : List NodeRef} : refs.Nodup → (refs.map LifecycleCall.start).Nodup :=
    List.Nodup.map fun _ _ => LifecycleCall.start.inj
  have stops {refs : List NodeRef} : refs.Nodup → (refs.map LifecycleCall.stop).Nodup :=
    List.Nodup.map fun _ _ => LifecycleCall.stop.inj
  cases launch with
  | up all => exact starts distinct
  | @undone before after ref =>
    obtain ⟨earlier, -, apart⟩ := List.nodup_append.1 distinct
    have fresh : ref ∉ before := fun hm => apart ref hm ref List.mem_cons_self rfl
    rw [List.append_nil, List.nodup_append, List.nodup_cons]
    refine ⟨starts earlier, ⟨by simp, stops (List.nodup_reverse.2 earlier)⟩, ?_⟩
    intro call started other later same
    obtain ⟨r, hr, rfl⟩ := List.mem_map.1 started
    rcases List.mem_cons.1 later with rfl | stopped
    · cases same
      exact fresh hr
    · obtain ⟨r', -, rfl⟩ := List.mem_map.1 stopped
      cases same

/-! ## Initialising -/

/-- A call for a node to be initialised: what the node answered, and what it was called then. -/
structure Attempt where
  importance : Importance
  ref : NodeRef
  name : String
  outcome : Except NodeError Unit

namespace Attempt

def succeeded (a : Attempt) : Bool :=
  match a.outcome with
  | .ok () => true
  | .error _ => false

/-- What is made of it. -/
def answer (a : Attempt) : Except StartupError Bool :=
  match a.outcome, a.importance with
  | .ok (), _ => .ok true
  | .error _, .notCritical => .ok false
  | .error cause, .critical => .error (.criticalInit a.name cause)

end Attempt

/-- How the nodes answer when they are initialised one after the other. -/
def attempts (fleet : Fleet ω) : List (Importance × NodeRef) → ω → List Attempt × ω
  | [], world => ([], world)
  | (importance, ref) :: rest, world =>
    let (outcome, world) := (fleet.init ref world).result
    let (later, behind) := attempts fleet rest world
    (⟨importance, ref, fleet.name ref world, outcome⟩ :: later, behind)

theorem attempts_journaled (fleet : Fleet ω) (nodes : List (Importance × NodeRef)) (world : ω)
    (journal : List LifecycleCall) : fleet.journaled.attempts nodes (world, journal) =
      ((fleet.attempts nodes world).1, (fleet.attempts nodes world).2, journal ++ nodes.map (.init ·.2)) := by
  induction nodes generalizing world journal with
  | nil => simp [attempts]
  | cons node rest ih =>
    have step : (fleet.journaled.init node.2 (world, journal)).result =
        ((fleet.init node.2 world).result.1, (fleet.init node.2 world).result.2, journal ++ [.init node.2]) := rfl
    simp only [attempts, step, ih]
    simp [journaled]

end Fleet

namespace ActiveSet

variable {fleet : Fleet ω} {world world' : ω}

/-- Initialises nodes one after the other, whatever comes of it. -/
def initialiseEach (fleet : Fleet ω) : List (Importance × NodeRef) → ActiveSet → ω →
    Logged (List (Except StartupError Bool) × ActiveSet × ω)
  | [], set, world => return ([], set, world)
  | (importance, ref) :: rest, set, world => do
    let (answer, set, world) ← set.initialise fleet importance ref world
    let (later, set, world) ← initialiseEach fleet rest set world
    return (answer :: later, set, world)

theorem result_initialise_of_ok {ref : NodeRef} (up : (fleet.init ref world).result = (.ok (), world'))
    (importance : Importance) (set : ActiveSet) :
    (set.initialise fleet importance ref world).result = (.ok true, ⟨set.nodes ++ [ref]⟩, world') := by
  simp [initialise, Fleet.initialise, up]

theorem result_initialise_of_error {ref : NodeRef} {cause : NodeError}
    (failed : (fleet.init ref world).result = (.error cause, world')) (importance : Importance) (set : ActiveSet) :
    (set.initialise fleet importance ref world).result =
      (match importance with
        | .notCritical => .ok false
        | .critical => .error (.criticalInit (fleet.name ref world') cause), set, world') := by
  cases importance <;> simp [initialise, Fleet.initialise, failed]

theorem result_initialiseEach (fleet : Fleet ω) (nodes : List (Importance × NodeRef)) (set : ActiveSet) (world : ω) :
    (initialiseEach fleet nodes set world).result =
      ((fleet.attempts nodes world).1.map (·.answer),
        ⟨set.nodes ++ ((fleet.attempts nodes world).1.filter (·.succeeded)).map (·.ref)⟩,
        (fleet.attempts nodes world).2) := by
  induction nodes generalizing set world with
  | nil => simp [initialiseEach, Fleet.attempts]
  | cons node rest ih =>
    obtain ⟨importance, ref⟩ := node
    cases answer : (fleet.init ref world).result with
    | mk outcome world' =>
      cases outcome with
      | ok =>
        simp [initialiseEach, Fleet.attempts, answer, result_initialise_of_ok answer, ih, Fleet.Attempt.succeeded,
          Fleet.Attempt.answer]
      | error cause =>
        cases importance <;>
          simp [initialiseEach, Fleet.attempts, answer, result_initialise_of_error answer, ih, Fleet.Attempt.succeeded,
            Fleet.Attempt.answer]

end ActiveSet

/-! ## The result -/

namespace Fleet

variable {fleet : Fleet ω} {world world' : ω} {nodes : List NodeRef} {outcome : Except StartupError Unit}
  {calls : List LifecycleCall}

/-- What the start of some nodes comes to, and the calls that it makes. -/
structure Launches (fleet : Fleet ω) (nodes : List NodeRef) (world : ω) (outcome : Except StartupError Unit)
    (world' : ω) (calls : List LifecycleCall) : Prop where
  up : outcome = .ok () → fleet.Starts nodes world world' ∧ calls = nodes.map .start
  undone : outcome ≠ .ok () → ∃ before ref after cause between behind, nodes = before ++ ref :: after ∧
    fleet.Starts before world between ∧ (fleet.start ref between).result = (.error cause, behind) ∧
    world' = fleet.stops before.reverse behind ∧ outcome = .error (.start (fleet.name ref world') cause) ∧
    calls = before.map .start ++ .start ref :: before.reverse.map .stop ∧
    (nodes.Nodup → .stop ref ∉ calls ∧ ∀ r ∈ after, .start r ∉ calls ∧ .stop r ∉ calls)
  once : nodes.Nodup → calls.Nodup

theorem Launch.launches (launch : fleet.Launch [] nodes world outcome world' calls) :
    fleet.Launches nodes world outcome world' calls := by
  constructor
  case once => exact launch.nodup
  case up =>
    intro fine
    cases launch with
    | up all => exact ⟨all, rfl⟩
    | undone => cases fine
  case undone =>
    intro failed
    cases launch with
    | up => exact absurd rfl failed
    | @undone before after ref _ between behind _ cause accepted refused stopped =>
      rw [List.append_nil] at stopped ⊢
      refine ⟨before, ref, after, cause, between, behind, rfl, accepted, refused, stopped, rfl, rfl, fun distinct => ?_⟩
      obtain ⟨-, later, apart⟩ := List.nodup_append.1 distinct
      have others : ∀ r ∈ ref :: after, r ∉ before := fun r hr hm => apart r hm r hr rfl
      have fresh : ref ∉ after := (List.nodup_cons.1 later).1
      refine ⟨by simp [others], fun r hr => ?_⟩
      have other : r ≠ ref := fun same => fresh (same ▸ hr)
      have unlike : r ∉ before := others r (List.mem_cons_of_mem _ hr)
      simp [other, unlike]

/-- How a set is put together, started and stopped. The second half of each is what the journal has of it. -/
structure KeepsOrder (fleet : Fleet ω) : Prop where
  assembled : ∀ (nodes : List (Importance × NodeRef)) (set : ActiveSet) (world : ω),
    let attempts := (fleet.attempts nodes world).1
    let answers := attempts.map (·.answer)
    let kept : ActiveSet := ⟨set.nodes ++ (attempts.filter (·.succeeded)).map (·.ref)⟩
    (ActiveSet.initialiseEach fleet nodes set world).result = (answers, kept, (fleet.attempts nodes world).2) ∧
      ∀ journal, (ActiveSet.initialiseEach fleet.journaled nodes set (world, journal)).result =
        (answers, kept, (fleet.attempts nodes world).2, journal ++ nodes.map (.init ·.2))
  /-- A node that fails to be initialised is left out, and a critical one is complained of. -/
  leftOut : ∀ (ref : NodeRef) (set : ActiveSet) (world world' : ω) (cause : NodeError),
    (fleet.init ref world).result = (.error cause, world') →
    (set.initialise fleet .notCritical ref world).result = (.ok false, set, world') ∧
    (set.initialise fleet .critical ref world).result =
      (.error (.criticalInit (fleet.name ref world') cause), set, world')
  launched : ∀ (set : ActiveSet) (world : ω), ∃ outcome world' calls,
    fleet.Launches set.nodes world outcome world' calls ∧ (set.startAll fleet world).result = (outcome, world') ∧
      ∀ journal, (set.startAll fleet.journaled (world, journal)).result = (outcome, world', journal ++ calls)
  halted : ∀ (set : ActiveSet) (world : ω),
    (set.stopAll fleet world).result = fleet.stops set.nodes.reverse world ∧
      ∀ journal, (set.stopAll fleet.journaled (world, journal)).result =
        (fleet.stops set.nodes.reverse world, journal ++ set.nodes.reverse.map .stop)

/-- The nodes may answer what they like, to each call anew. -/
theorem keepsOrder (fleet : Fleet ω) : fleet.KeepsOrder := by
  constructor
  case assembled =>
    intro nodes set world
    refine ⟨ActiveSet.result_initialiseEach fleet nodes set world, fun journal => ?_⟩
    rw [ActiveSet.result_initialiseEach, attempts_journaled]
  case leftOut =>
    intro ref set world world' cause failed
    exact ⟨ActiveSet.result_initialise_of_error failed .notCritical set,
      ActiveSet.result_initialise_of_error failed .critical set⟩
  case launched =>
    intro set world
    obtain ⟨outcome, world', calls, launch, result, journaled⟩ := fleet.launch_startEach [] set.nodes world
    exact ⟨outcome, world', calls, launch.launches, result, journaled⟩
  case halted =>
    intro set world
    refine ⟨fleet.result_stopEach set.nodes.reverse world, fun journal => ?_⟩
    unfold ActiveSet.stopAll
    rw [result_stopEach, stops_journaled]

/-- The third node of four is running already. -/
example :
    let fleet : Fleet Unit :=
      { name := fun ref _ => toString ref
        init := fun _ _ => pure (.ok (), ())
        start := fun ref _ => pure (if ref = 2 then .error (.alreadyRunning .compass) else .ok (), ())
        stop := fun _ _ => pure () }
    (ActiveSet.startAll fleet.journaled ⟨[5, 7, 2, 9]⟩ ((), [])).result =
      (.error (.start "2" (.alreadyRunning .compass)), (), [.start 5, .start 7, .start 2, .stop 7, .stop 5]) := rfl

end Fleet

end VesselBus
