import VesselBus.Node.Recorder
import VesselBus.Node.Sensor
import VesselBus.Node.Startup
import VesselBus.Proofs.Worker.Sequential
import Mathlib.Logic.Function.Basic

/-!
# Sensors and recorders as a fleet

A fleet of sensors and recorders is brought up and down by the calls that each of them has. Between two calls their
workers go on, messages come in and settings change; a store that panics in a call takes that call down.
-/

namespace VesselBus

inductive Station where
  | sensor (s : Sensor)
  | recorder (r : Recorder)

namespace Station

def slot : Station → WorkerSlot
  | .sensor s => s.slot
  | .recorder r => r.slot

def id : Station → NodeId
  | .sensor s => s.id
  | .recorder _ => Recorder.id

/-- The worker that is running, if one is. -/
def worker? (x : Station) : Option Nat := if x.slot.isRunning then x.slot.tracked else none

/-- Who the node is, and who its slot says it is. -/
def identity (x : Station) : NodeId × NodeId := (x.id, x.slot.id)

def start : Station → Traced ThreadReport (Except LifecycleError Station)
  | .sensor s => return (← s.start).map .sensor
  | .recorder r => return (← r.start).map .recorder

/-- The result is the cause of a panic, and what is remembered and what was sent. -/
def stop {σ : Type} (device : Device σ) (store : LogStore σ) (memory : σ) (outbox : List Message) :
    Station → Traced ThreadReport (Station × Option String × σ × List Message)
  | .sensor s => do
    let (s, memory, outbox) ← s.stop device (memory, outbox)
    return (.sensor s, none, memory, outbox)
  | .recorder r => do
    let (r, panic, memory) ← r.stop store memory
    return (.recorder r, panic, memory, outbox)

end Station

/-- All that a call may find and change. -/
structure Harbour (σ : Type) where
  station : NodeRef → Station
  /-- What the device of a sensor remembers, or the store of a recorder. -/
  memory : NodeRef → σ
  outbox : List Message := []
  /-- Why a call came to grief. -/
  panic : Option String := none
  /-- How many calls there have been. -/
  moment : Nat := 0

structure Equipment (σ : Type) where
  device : NodeRef → Device σ
  store : NodeRef → LogStore σ
  settings : Option Settings := none
  /-- What happens between two calls. -/
  meanwhile : Harbour σ → Harbour σ

variable {σ : Type}

namespace Harbour

def put (w : Harbour σ) (ref : NodeRef) (x : Station) (memory : σ) : Harbour σ :=
  { w with station := Function.update w.station ref x, memory := Function.update w.memory ref memory }

def worker? (w : Harbour σ) (ref : NodeRef) : Option Nat := (w.station ref).worker?

def identity (w : Harbour σ) (ref : NodeRef) : NodeId × NodeId := (w.station ref).identity

end Harbour

def ThreadReport.callerLine? : ThreadReport → Option Line
  | .caller line => some line
  | .worker _ => none

/-- What the thread that makes a call hears of it. -/
def heard {α : Type} (x : Traced ThreadReport α) : Logged α :=
  ⟨x.reports.filterMap ThreadReport.callerLine?, x.result⟩

namespace Equipment

def pause (q : Equipment σ) (w : Harbour σ) : Harbour σ :=
  let w := q.meanwhile w
  { w with moment := w.moment + 1 }

def init (q : Equipment σ) (ref : NodeRef) (w : Harbour σ) : Logged (Except NodeError Unit × Harbour σ) := do
  let w := q.pause w
  match w.station ref with
  | .sensor s =>
    let (opened, memory) := (q.device ref).opened (w.memory ref)
    match ← s.init q.settings opened with
    | .ok s => return (.ok (), w.put ref (.sensor s) memory)
    | .error cause => return (.error cause, w.put ref (.sensor s) memory)
  | .recorder r =>
    let (opened, memory) := (q.store ref).opened (w.memory ref)
    match r.init q.settings opened with
    | .ok r => return (.ok (), w.put ref (.recorder r) memory)
    | .error cause => return (.error cause, w.put ref (.recorder r) memory)

def start (q : Equipment σ) (ref : NodeRef) (w : Harbour σ) : Logged (Except LifecycleError Unit × Harbour σ) := do
  let w := q.pause w
  match ← heard (w.station ref).start with
  | .ok x => return (.ok (), w.put ref x (w.memory ref))
  | .error cause => return (.error cause, w)

/-- Once a call has panicked, none is made any more. -/
def stop (q : Equipment σ) (ref : NodeRef) (w : Harbour σ) : Logged (Harbour σ) := do
  if w.panic.isSome then return w
  let w := q.pause w
  let (x, panic, memory, outbox) ←
    heard ((w.station ref).stop (q.device ref) (q.store ref) (w.memory ref) w.outbox)
  return { w.put ref x memory with panic, outbox }

def fleet (q : Equipment σ) : Fleet (Harbour σ) where
  name ref w := (w.station ref).id.name
  init := q.init
  start := q.start
  stop := q.stop

/-- Between two calls no worker exits and none appears, and the nodes stay who they are. -/
structure Steady (q : Equipment σ) : Prop where
  worker? : ∀ w, (q.meanwhile w).worker? = w.worker?
  identity : ∀ w, (q.meanwhile w).identity = w.identity
  panic : ∀ w, (q.meanwhile w).panic = w.panic

end Equipment

/-! ## Slots -/

namespace WorkerSlot

variable {s t : WorkerSlot}

theorem result_callBody_of_untracked (body : Body σ) (index : Nat) {s : WorkerSlot} (untracked : s.tracked = none)
    (state : σ) : (callBody body index s state).result.1.tracked = none ∧
      (callBody body index s state).result.1.id = s.id := by
  by_cases poised : s.phase? index = some .poised
  · have acted := result_acts_of_untracked (s := s.update index Worker.enter) index untracked (body state).acts
    rw [callBody_of_poised poised, Traced.result_bind, acted]
    exact ⟨untracked, rfl⟩
  · rw [callBody_of_not_poised poised]
    exact ⟨untracked, rfl⟩

/-- After a stop from outside, nothing is tracked. -/
theorem result_stop (body : Body σ) (s : WorkerSlot) (state : σ) :
    (s.stop body state).result.1.tracked = none ∧ (s.stop body state).result.1.id = s.id := by
  unfold stop
  rw [Traced.result_bind]
  cases asked : (s.requestStop .outsider).result with
  | mk t out =>
    have untracked := tracked_requestStop asked
    have id : t.id = s.id := by
      rcases requestStop_eq_iff.1 asked with ⟨-, rfl, -⟩ | ⟨index, -, -, rfl, -⟩ | ⟨index, -, -, rfl, -⟩ <;> rfl
    cases out with
    | none => exact ⟨untracked, id⟩
    | some index =>
      obtain ⟨untracked', id'⟩ := result_callBody_of_untracked body index untracked state
      simp only [Traced.result_bind, Traced.result_pure, result_wake]
      exact ⟨untracked', id'.trans id⟩

end WorkerSlot

/-! ## One node -/

/-- It stores what it is given or refuses it, but does not panic. -/
def LogStore.NeverPanics (store : LogStore σ) : Prop :=
  ∀ batch state cause, (store.store batch state).result.1 ≠ .panicked cause

theorem LogStore.NeverPanics.handOver {store : LogStore σ} (sound : store.NeverPanics) (batch : List LogEntry)
    (state : σ) : (Recorder.handOver store batch state).result.1 = none := by
  unfold Recorder.handOver
  split
  · rfl
  · rw [Recorder.write, Traced.result_bind]
    cases stored : (store.store batch state).result with
    | mk outcome state' =>
      cases outcome with
      | stored => rfl
      | refused cause => rfl
      | panicked cause => exact absurd (congrArg Prod.fst stored) (sound batch state cause)

namespace Station

variable {x : Station}

theorem worker?_eq_none_iff : x.worker? = none ↔ x.slot.isRunning = false := by
  unfold worker?
  rw [WorkerSlot.isRunning_eq]
  cases x.slot.tracked <;> simp

theorem isSome_worker?_iff : x.worker?.isSome = true ↔ x.slot.isRunning = true := by
  rw [Option.isSome_iff_ne_none, Ne, worker?_eq_none_iff, Bool.not_eq_false]

theorem start_of_running (running : x.slot.isRunning = true) :
    x.start.result = .error (.alreadyRunning x.slot.id) := by
  have refused := WorkerSlot.start_eq_error_iff.2 ⟨running, rfl⟩
  cases x with
  | sensor s =>
    simp only [slot] at refused
    simp [start, Sensor.start, refused, slot, Except.map]
  | recorder r =>
    simp only [slot] at refused
    simp [start, Recorder.start, refused, slot, Except.map]

theorem worker?_of_untracked (untracked : x.slot.tracked = none) : x.worker? = none := by
  unfold worker?
  rw [untracked, ite_self]

theorem result_stop (device : Device σ) (store : LogStore σ) (memory : σ) (outbox : List Message) (x : Station) :
    (x.stop device store memory outbox).result.1.worker? = none ∧
      (x.stop device store memory outbox).result.1.identity = x.identity ∧
      (store.NeverPanics → (x.stop device store memory outbox).result.2.1 = none) := by
  cases x with
  | sensor s =>
    obtain ⟨untracked, id⟩ := WorkerSlot.result_stop (s.body device) s.slot (memory, outbox)
    exact ⟨worker?_of_untracked untracked, by rw [identity, identity]; exact congrArg (s.id, ·) id, fun _ => rfl⟩
  | recorder r =>
    obtain ⟨untracked, id⟩ := WorkerSlot.result_stop (Recorder.body store) r.slot (r.buffer, memory)
    refine ⟨worker?_of_untracked untracked, by rw [identity, identity]; exact congrArg (Recorder.id, ·) id, ?_⟩
    exact fun sound => sound.handOver _ _

end Station

end VesselBus
