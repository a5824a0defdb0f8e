import VesselBus.Node.Worker

/-!
# A slot that many threads use

A start, and the part of a stop that looks at the slot, hold the slot's lock, so each is one step. A stop that
has taken a worker out of the slot lets go of the lock before it waits for that worker, and whoever comes next
finds the slot empty.
-/

namespace VesselBus

/-- Who makes a call: a thread of its own, or a worker from inside its body. -/
inductive Party where
  | outsider (number : Nat)
  | worker (index : Nat)
  deriving DecidableEq, Repr

def Party.caller : Party → Caller
  | .outsider _ => .outsider
  | .worker index => .worker index

structure LiveSlot where
  slot : WorkerSlot
  /-- Who waits in a stop, and for which worker. -/
  joins : List (Party × Nat) := []

inductive SlotMark where
  | started (p : Party) (index : Nat)
  | refused (p : Party) (e : LifecycleError)
  | starved (p : Party)
  | asked (p : Party) (running : Bool)
  | stopCalled (p : Party)
  | stopReturned (p : Party)
  | entered (index : Nat)
  | left (index : Nat) (panicked : Bool)
  | reported (report : ThreadReport)

namespace WorkerSlot

def isLive (s : WorkerSlot) (index : Nat) : Bool := s.workers[index]?.any Worker.isAlive

def phase? (s : WorkerSlot) (index : Nat) : Option WorkerPhase := s.workers[index]?.map (·.phase)

def spawned (s : WorkerSlot) : WorkerSlot :=
  { s with workers := s.workers ++ [{}], tracked := some s.workers.length }

def takenOut (s : WorkerSlot) (index : Nat) : WorkerSlot :=
  { s.update index Worker.signal with tracked := none }

/-- Takes a worker that has ended out of the slot. -/
def reap (s : WorkerSlot) : Traced ThreadReport WorkerSlot := do
  if let some index := s.tracked then s.join index
  return { s with tracked := none }

end WorkerSlot

namespace LiveSlot

/-- It is not inside a stop, and if it is a worker it is inside its body. -/
def IsFree (s : LiveSlot) : Party → Prop
  | .outsider number => ∀ index, (.outsider number, index) ∉ s.joins
  | .worker number => s.slot.phase? number = some .working ∧ ∀ index, (.worker number, index) ∉ s.joins

def said {α : Type} (x : Traced ThreadReport α) : List SlotMark := x.reports.map .reported

inductive Step : LiveSlot → List SlotMark → LiveSlot → Prop where
  | start (s : LiveSlot) (p : Party) (slot : WorkerSlot) (free : s.IsFree p)
    (accepted : s.slot.start.result = .ok slot) :
    Step s (.started p s.slot.workers.length :: said s.slot.start) { s with slot }
  | refuse (s : LiveSlot) (p : Party) (e : LifecycleError) (free : s.IsFree p)
    (refused : s.slot.start.result = .error e) : Step s (.refused p e :: said s.slot.start) s
  | starve (s : LiveSlot) (p : Party) (free : s.IsFree p) (idle : s.slot.isRunning = false) :
    Step s (.starved p :: said s.slot.reap) { s with slot := s.slot.reap.result }
  | ask (s : LiveSlot) (p : Party) (free : s.IsFree p) : Step s [.asked p s.slot.isRunning] s
  /-- A stop that has nobody to wait for. -/
  | signal (s : LiveSlot) (p : Party) (slot : WorkerSlot) (free : s.IsFree p)
    (left : (s.slot.requestStop p.caller).result = (slot, none)) :
    Step s (.stopCalled p :: said (s.slot.requestStop p.caller) ++ [.stopReturned p]) { s with slot }
  | takeOut (s : LiveSlot) (p : Party) (slot : WorkerSlot) (index : Nat) (free : s.IsFree p)
    (taken : (s.slot.requestStop p.caller).result = (slot, some index)) :
    Step s (.stopCalled p :: said (s.slot.requestStop p.caller)) { slot, joins := (p, index) :: s.joins }
  | join (s : LiveSlot) (p : Party) (index : Nat) (waits : (p, index) ∈ s.joins)
    (ended : s.slot.isLive index = false) :
    Step s (said (s.slot.join index) ++ [.stopReturned p]) { s with joins := s.joins.erase (p, index) }
  | enter (s : LiveSlot) (index : Nat) (poised : s.slot.phase? index = some .poised) :
    Step s [.entered index] { s with slot := s.slot.update index Worker.enter }
  | leave (s : LiveSlot) (index : Nat) (panicked : Bool) (free : s.IsFree (.worker index)) :
    Step s [.left index panicked] { s with slot := s.slot.leave index panicked }
  | log (s : LiveSlot) (index : Nat) (line : Line) (free : s.IsFree (.worker index)) :
    Step s [.reported (.worker line)] s
  | wake (s : LiveSlot) (index : Nat) (waiting : s.slot.phase? index = some .waiting) :
    Step s (said (s.slot.wake index)) { s with slot := (s.slot.wake index).result }

def Leads (s t : LiveSlot) : Prop := ∃ marks, Step s marks t

end LiveSlot

/-! ## What the slot's parts do -/

namespace Worker

theorem isAlive_signal (w : Worker) : w.signal.isAlive = w.isAlive := by
  unfold signal
  split <;> rfl

theorem phase_signal (w : Worker) : w.signal.phase = w.phase := by
  unfold signal
  split <;> rfl

theorem isAlive_enter (w : Worker) : w.enter.isAlive = w.isAlive := by
  unfold enter
  split
  · rename_i h
    simp [isAlive, h]
  · rfl

theorem isAlive_of_leave {panicked : Bool} {w : Worker} (h : (w.leave panicked).isAlive = true) :
    w.isAlive = true := by
  unfold leave at h
  split at h
  · rename_i working
    simp [isAlive, working]
  · exact h

theorem isAlive_of_wake {w : Worker} (h : w.wake.isAlive = true) : w.isAlive = true := by
  unfold wake at h
  split at h
  · rename_i waiting
    simp [isAlive, waiting]
  · exact h

end Worker

namespace WorkerSlot

variable {s t : WorkerSlot} {index i : Nat}

theorem isRunning_eq (s : WorkerSlot) : s.isRunning = s.tracked.any s.isLive := by
  cases h : s.tracked <;> simp [isRunning, trackedWorker?, isLive, h]

theorem isLive_iff {index : Nat} :
    s.isLive index = true ↔ ∃ w, s.workers[index]? = some w ∧ w.isAlive = true := Option.any_eq_true _ _

theorem lt_length_of_isLive {index : Nat} (h : s.isLive index = true) : index < s.workers.length := by
  obtain ⟨w, hw, -⟩ := isLive_iff.1 h
  exact (List.getElem?_eq_some_iff.1 hw).1

/-- Nothing that a worker does brings one back that has ended. -/
theorem isLive_of_update {index i : Nat} {step : Worker → Worker}
    (kept : ∀ w, (step w).isAlive = true → w.isAlive = true) (h : (s.update index step).isLive i = true) :
    s.isLive i = true := by
  obtain ⟨w, hw, alive⟩ := isLive_iff.1 h
  rw [update, List.getElem?_modify] at hw
  obtain ⟨w', hw', rfl⟩ := Option.map_eq_some_iff.1 hw
  refine isLive_iff.2 ⟨w', hw', ?_⟩
  split at alive
  · exact kept w' alive
  · exact alive

theorem length_update (s : WorkerSlot) (index : Nat) (step : Worker → Worker) :
    (s.update index step).workers.length = s.workers.length := List.length_modify ..

@[simp] theorem length_spawned (s : WorkerSlot) : s.spawned.workers.length = s.workers.length + 1 :=
  List.length_append

theorem isLive_of_spawned {index : Nat} (h : s.spawned.isLive index = true) :
    index = s.workers.length ∨ s.isLive index = true := by
  rcases Nat.lt_trichotomy index s.workers.length with before | new | beyond
  · right
    simpa [isLive, spawned, List.getElem?_append_left before] using h
  · exact .inl new
  · have bound := lt_length_of_isLive h
    rw [length_spawned] at bound
    omega

theorem isLive_spawned_new (s : WorkerSlot) : s.spawned.isLive s.workers.length = true := by
  simp [isLive, spawned, Worker.isAlive]

theorem isLive_spawned_old {index : Nat} (h : s.isLive index = true) : s.spawned.isLive index = true := by
  simpa [isLive, spawned, List.getElem?_append_left (lt_length_of_isLive h)] using h

/-- A start that is accepted finds no live worker in the slot, and puts a new one there. -/
theorem start_eq_ok_iff : s.start.result = .ok t ↔ s.isRunning = false ∧ t = s.spawned := by
  unfold start spawned
  cases running : s.isRunning with
  | true => simp
  | false => cases tracked : s.tracked <;> simp [eq_comm]

theorem start_eq_error_iff {e : LifecycleError} :
    s.start.result = .error e ↔ s.isRunning = true ∧ e = .alreadyRunning s.id := by
  unfold start
  cases s.isRunning with
  | true => simp [eq_comm]
  | false => cases s.tracked <;> simp

theorem result_reap (s : WorkerSlot) : s.reap.result = { s with tracked := none } := by
  unfold reap
  cases s.tracked <;> rfl

/-- A stop signals the tracked worker. Anybody but that worker takes it out as well. -/
theorem requestStop_eq_iff {caller : Caller} {out : Option Nat} : (s.requestStop caller).result = (t, out) ↔
    (s.tracked = none ∧ t = s ∧ out = none) ∨
    (∃ index, s.tracked = some index ∧ caller = .worker index ∧ t = s.update index Worker.signal ∧ out = none) ∨
    (∃ index, s.tracked = some index ∧ caller ≠ .worker index ∧
      t = s.takenOut index ∧ out = some index) := by
  unfold requestStop takenOut
  cases tracked : s.tracked with
  | none => simp [eq_comm]
  | some index =>
    by_cases self : caller = .worker index <;> simp [self, eq_comm]

theorem result_wake (s : WorkerSlot) (index : Nat) : (s.wake index).result = s.update index Worker.wake := by
  unfold wake
  split <;> rfl

/-! ## Phases -/

theorem phase?_update_of_ne {step : Worker → Worker} (h : index ≠ i) :
    (s.update index step).phase? i = s.phase? i := by
  simp [phase?, update, h]

theorem phase?_signal : (s.update index Worker.signal).phase? i = s.phase? i := by
  unfold phase? update
  rw [List.getElem?_modify]
  cases s.workers[i]? with
  | none => rfl
  | some w => by_cases h : index = i <;> simp [h, Worker.phase_signal]

theorem phase?_spawned {p : WorkerPhase} (h : s.phase? i = some p) : s.spawned.phase? i = some p := by
  obtain ⟨w, hw, rfl⟩ := Option.map_eq_some_iff.1 h
  have bound := (List.getElem?_eq_some_iff.1 hw).1
  simp [phase?, spawned, List.getElem?_append_left bound, hw]

theorem isLive_of_working (h : s.phase? i = some .working) : s.isLive i = true := by
  obtain ⟨w, hw, working⟩ := Option.map_eq_some_iff.1 h
  exact isLive_iff.2 ⟨w, hw, by simp [Worker.isAlive, working]⟩

theorem phase?_requestStop {caller : Caller} {out : Option Nat} (h : (s.requestStop caller).result = (t, out)) :
    t.phase? i = s.phase? i := by
  rcases requestStop_eq_iff.1 h with ⟨-, rfl, -⟩ | ⟨index, -, -, rfl, -⟩ | ⟨index, -, -, rfl, -⟩
  · rfl
  · exact phase?_signal
  · exact phase?_signal (s := s)

theorem tracked_requestStop {out : Option Nat} (h : (s.requestStop .outsider).result = (t, out)) :
    t.tracked = none := by
  rcases requestStop_eq_iff.1 h with ⟨empty, rfl, -⟩ | ⟨index, -, self, -⟩ | ⟨index, -, -, rfl, -⟩
  · exact empty
  · cases self
  · rfl

end WorkerSlot

end VesselBus
