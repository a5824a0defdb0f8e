import VesselBus.Proofs.Worker.Barrier
import VesselBus.Proofs.Worker.Sequential

/-!
# A slot with one user

One thread starts and stops; a worker may ask for its own stop, and it may panic. For its user the slot is then a
machine with two states, which may also go idle by itself. A panic is reported to the user once, by the first call
after it that starts a worker or comes back from a stop.
-/

namespace VesselBus

/-- The one thread that starts and stops. A slot that is dropped is stopped once more. -/
def Party.user : Party := .outsider 0

/-- What the user hears of a worker that has panicked. -/
def complaint (id : NodeId) : ThreadReport := .caller ⟨.error, s!"{id} worker thread panicked"⟩

namespace SlotMark

/-- All calls are the user's, but for those of workers that stop themselves. -/
def IsAlone : SlotMark → Prop
  | .started p _ | .refused p _ | .starved p | .asked p _ => p = .user
  | .stopCalled (.outsider number) | .stopReturned (.outsider number) => number = 0
  | _ => True

instance : DecidablePred IsAlone
  | .started p _ | .refused p _ | .starved p | .asked p _ => inferInstanceAs (Decidable (p = .user))
  | .stopCalled (.outsider number) | .stopReturned (.outsider number) => inferInstanceAs (Decidable (number = 0))
  | .stopCalled (.worker _) | .stopReturned (.worker _) | .entered _ | .left .. | .reported _ => .isTrue trivial

/-- The user learns something, apart from what is reported. -/
def isAnswer : SlotMark → Bool
  | .started .. | .refused .. | .starved _ | .asked .. => true
  | .stopReturned p => p == .user
  | _ => false

/-- The user has come by, and leaves behind no worker that has ended. -/
def settles : SlotMark → Bool
  | .started .. | .starved _ => true
  | .stopReturned p => p == .user
  | _ => false

def isPanic : SlotMark → Bool
  | .left _ panicked => panicked
  | _ => false

def isComplaint (id : NodeId) : SlotMark → Bool
  | .reported report => report == complaint id
  | _ => false

end SlotMark

def panics (trace : List SlotMark) : Nat := trace.countP SlotMark.isPanic

def complaints (id : NodeId) (trace : List SlotMark) : Nat := trace.countP (SlotMark.isComplaint id)

/-! ## The two states -/

inductive Duty where
  | idle
  | running
  deriving DecidableEq, Repr

/-- What calls do to a slot, and what they answer. -/
inductive Duty.Step (id : NodeId) : Duty → List SlotMark → Duty → Prop where
  | start (index : Nat) : Step id .idle [.started .user index] .running
  | refuse : Step id .running [.refused .user (.alreadyRunning id)] .running
  /-- The system has no thread to give. -/
  | starve : Step id .idle [.starved .user] .idle
  | ask (duty : Duty) : Step id duty [.asked .user (duty == .running)] duty
  | stop (duty : Duty) : Step id duty [.stopReturned .user] .idle
  | finish : Step id .running [] .idle

namespace WorkerSlot

variable {s : WorkerSlot} {index i : Nat}

def hasPanicked (s : WorkerSlot) (index : Nat) : Bool := s.workers[index]?.any Worker.hasPanicked

theorem hasPanicked_update {step : Worker → Worker} (kept : ∀ w, (step w).hasPanicked = w.hasPanicked) :
    (s.update index step).hasPanicked i = s.hasPanicked i := by
  unfold hasPanicked update
  rw [List.getElem?_modify]
  cases s.workers[i]? with
  | none => rfl
  | some w => by_cases h : index = i <;> simp [h, kept]

theorem hasPanicked_of_isLive (h : s.isLive index = true) : s.hasPanicked index = false := by
  obtain ⟨w, hw, alive⟩ := isLive_iff.1 h
  obtain ⟨phase, signalled, calls⟩ := w
  cases phase with
  | ended => cases alive
  | _ => simp [hasPanicked, hw, Worker.hasPanicked]

theorem hasPanicked_leave {panicked : Bool} (h : s.phase? index = some .working) :
    (s.leave index panicked).hasPanicked index = panicked := by
  obtain ⟨w, hw, working⟩ := Option.map_eq_some_iff.1 h
  cases panicked <;> simp [hasPanicked, leave, update, hw, Worker.leave, working, Worker.hasPanicked]

end WorkerSlot

namespace Worker

theorem hasPanicked_signal (w : Worker) : w.signal.hasPanicked = w.hasPanicked := by
  unfold signal
  split <;> rfl

theorem hasPanicked_enter (w : Worker) : w.enter.hasPanicked = w.hasPanicked := by
  unfold enter
  split
  · rename_i h
    simp [hasPanicked, h]
  · rfl

theorem hasPanicked_wake (w : Worker) : w.wake.hasPanicked = w.hasPanicked := by
  unfold wake
  split
  · rename_i h
    cases w.signalled <;> simp [hasPanicked, h]
  · rfl

end Worker

namespace LiveSlot

variable {id : NodeId} {trace marks : List SlotMark} {s t : LiveSlot} {index : Nat}

def duty (s : LiveSlot) : Duty := if s.slot.workers.any Worker.isAlive then .running else .idle

theorem duty_eq_running_iff : s.duty = .running ↔ ∃ index, s.slot.isLive index = true := by
  have alive : s.slot.workers.any Worker.isAlive = true ↔ ∃ index, s.slot.isLive index = true := by
    simp only [List.any_eq_true, List.mem_iff_getElem?, WorkerSlot.isLive_iff]
    constructor
    · rintro ⟨w, ⟨index, at_⟩, live⟩
      exact ⟨index, w, at_, live⟩
    · rintro ⟨index, w, at_, live⟩
      exact ⟨w, ⟨index, at_⟩, live⟩
  rw [← alive, duty]
  split <;> simp [*]

theorem duty_eq_idle_iff : s.duty = .idle ↔ ∀ index, s.slot.isLive index = false := by
  have notRunning : s.duty = .idle ↔ ¬ s.duty = .running := by cases s.duty <;> simp
  rw [notRunning, duty_eq_running_iff]
  simp

/-! ## Whom the user has to look after -/

/-- The worker that is in the slot, or that a stop waits for. -/
def watched (s : LiveSlot) : Option Nat := s.slot.tracked.or (s.joins.head?.map (·.2))

/-- How many panics are still to be reported. -/
def owed (s : LiveSlot) : Nat := (s.watched.any s.slot.hasPanicked).toNat

structure OneUser (id : NodeId) (s : LiveSlot) : Prop where
  id_eq : s.slot.id = id
  joins : s.joins = [] ∨ ∃ index, s.joins = [(.user, index)] ∧ s.slot.tracked = none
  only : ∀ index, s.slot.isLive index = true → s.watched = some index

theorem OneUser.joins_of_isFree (inv : OneUser id s) (free : s.IsFree .user) : s.joins = [] := by
  rcases inv.joins with none | ⟨index, one, -⟩
  · exact none
  · exact absurd (one ▸ List.mem_singleton_self _) (free index)

theorem watched_of_joins_nil (none : s.joins = []) : s.watched = s.slot.tracked := by
  simp [watched, none]

/-- While the user is free, somebody works exactly if the slot is running. -/
theorem OneUser.isRunning_iff (inv : OneUser id s) (free : s.IsFree .user) :
    s.slot.isRunning = true ↔ s.duty = .running := by
  rw [WorkerSlot.isRunning_eq, Option.any_eq_true, duty_eq_running_iff]
  constructor
  · rintro ⟨index, -, live⟩
    exact ⟨index, live⟩
  · rintro ⟨index, live⟩
    refine ⟨index, ?_, live⟩
    rw [← watched_of_joins_nil (inv.joins_of_isFree free)]
    exact inv.only index live

theorem OneUser.isRunning_eq_false_iff (inv : OneUser id s) (free : s.IsFree .user) :
    s.slot.isRunning = false ↔ s.duty = .idle := by
  rw [← Bool.not_eq_true, inv.isRunning_iff free]
  cases s.duty <;> simp

/-! ## What a step does -/

theorem OneUser.watched_eq_none (inv : OneUser id s) (free : s.IsFree .user) (empty : s.slot.tracked = none) :
    s.watched = none := by
  rw [watched_of_joins_nil (inv.joins_of_isFree free), empty]

/-- A worker that makes a call is the one that is looked after. -/
theorem OneUser.watched_of_isFree {number : Nat} (inv : OneUser id s) (free : s.IsFree (.worker number)) :
    s.watched = some number :=
  inv.only number (WorkerSlot.isLive_of_working free.1)

/-- Only the worker in the slot can be alive when the user makes a call. -/
theorem OneUser.tracked_of_isLive (inv : OneUser id s) (free : s.IsFree .user) (live : s.slot.isLive index = true) :
    s.slot.tracked = some index := by
  rw [← watched_of_joins_nil (inv.joins_of_isFree free)]
  exact inv.only index live

theorem OneUser.spawned (inv : OneUser id s) (free : s.IsFree .user) (idle : s.slot.isRunning = false) :
    OneUser id { s with slot := s.slot.spawned } where
  id_eq := inv.id_eq
  joins := .inl (inv.joins_of_isFree free)
  only index live := by
    rcases WorkerSlot.isLive_of_spawned live with rfl | old
    · rfl
    · have tracked := inv.tracked_of_isLive free old
      rw [WorkerSlot.isRunning_eq, tracked] at idle
      exact absurd (idle.symm.trans old) Bool.false_ne_true

/-- A worker that takes its steps is looked after as before. -/
theorem OneUser.update (inv : OneUser id s) {step : Worker → Worker}
    (kept : ∀ w, (step w).isAlive = true → w.isAlive = true) (at_ : Nat) :
    OneUser id { s with slot := s.slot.update at_ step } where
  id_eq := inv.id_eq
  joins := inv.joins
  only index live := inv.only index (WorkerSlot.isLive_of_update kept live)

theorem OneUser.step (inv : OneUser id s) (h : Step s marks t) (alone : ∀ m ∈ marks, m.IsAlone) : OneUser id t := by
  have signalled (w : Worker) (alive : w.signal.isAlive = true) : w.isAlive = true := by rwa [w.isAlive_signal] at alive
  cases h with
  | start p slot free accepted =>
    obtain rfl : p = .user := alone _ List.mem_cons_self
    obtain ⟨idle, rfl⟩ := WorkerSlot.start_eq_ok_iff.1 accepted
    exact inv.spawned free idle
  | refuse | ask | log => exact inv
  | starve p free idle =>
    obtain rfl : p = .user := alone _ List.mem_cons_self
    rw [WorkerSlot.result_reap]
    have none := inv.joins_of_isFree free
    refine ⟨inv.id_eq, .inl none, fun index live => ?_⟩
    have dead := duty_eq_idle_iff.1 ((inv.isRunning_eq_false_iff free).1 idle) index
    exact absurd (dead.symm.trans live) Bool.false_ne_true
  | signal p slot free left =>
    rcases WorkerSlot.requestStop_eq_iff.1 left with ⟨-, rfl, -⟩ | ⟨index, -, -, rfl, -⟩ | ⟨_, _, _, _, none⟩
    · exact inv
    · exact inv.update signalled index
    · cases none
  | takeOut p slot index free taken =>
    rcases WorkerSlot.requestStop_eq_iff.1 taken with
      ⟨_, _, none⟩ | ⟨_, _, _, _, none⟩ | ⟨at_, tracked, other, rfl, same⟩
    · cases none
    · cases none
    · obtain rfl := Option.some.inj same
      cases p with
      | outsider number =>
        obtain rfl : number = 0 := alone _ List.mem_cons_self
        have none := inv.joins_of_isFree free
        refine ⟨inv.id_eq, .inr ⟨index, by rw [none]; rfl, rfl⟩, fun i live => ?_⟩
        have old : s.slot.isLive i = true := WorkerSlot.isLive_of_update signalled live
        obtain rfl : index = i := Option.some.inj (tracked.symm.trans (inv.tracked_of_isLive free old))
        rfl
      | worker number =>
        -- The worker that makes the call is the one in the slot.
        have watched := inv.watched_of_isFree free
        rw [LiveSlot.watched, tracked] at watched
        obtain rfl : index = number := Option.some.inj watched
        exact absurd rfl other
  | join p at_ waits ended =>
    rcases inv.joins with none | ⟨index, one, empty⟩
    · rw [none] at waits
      exact absurd waits List.not_mem_nil
    · rw [one] at waits
      obtain ⟨rfl, rfl⟩ := Prod.mk.inj (List.mem_singleton.1 waits)
      refine ⟨inv.id_eq, .inl (by simp [one]), fun i live => ?_⟩
      have watched := inv.only i live
      rw [LiveSlot.watched, empty, one] at watched
      obtain rfl : at_ = i := Option.some.inj watched
      exact absurd (ended.symm.trans live) Bool.false_ne_true
  | enter at_ => exact inv.update (fun w alive => by rwa [w.isAlive_enter] at alive) at_
  | leave at_ panicked => exact inv.update (fun _ => Worker.isAlive_of_leave) at_
  | wake at_ =>
    rw [WorkerSlot.result_wake]
    exact inv.update (fun _ => Worker.isAlive_of_wake) at_

/-! ## What is reported -/

@[simp] theorem panics_append (xs ys : List SlotMark) : panics (xs ++ ys) = panics xs + panics ys := List.countP_append

@[simp] theorem panics_cons (m : SlotMark) (ms : List SlotMark) :
    panics (m :: ms) = m.isPanic.toNat + panics ms := by
  rw [panics, panics, List.countP_cons, Nat.add_comm]
  cases m.isPanic <;> rfl

@[simp] theorem complaints_append (id : NodeId) (xs ys : List SlotMark) :
    complaints id (xs ++ ys) = complaints id xs + complaints id ys := List.countP_append

@[simp] theorem complaints_cons (id : NodeId) (m : SlotMark) (ms : List SlotMark) :
    complaints id (m :: ms) = (m.isComplaint id).toNat + complaints id ms := by
  rw [complaints, complaints, List.countP_cons, Nat.add_comm]
  cases m.isComplaint id <;> rfl

@[simp] theorem panics_nil : panics [] = 0 := rfl

@[simp] theorem complaints_nil (id : NodeId) : complaints id [] = 0 := rfl

@[simp] theorem panics_said {α : Type} (x : Traced ThreadReport α) : panics (said x) = 0 := by
  simp [panics, said, List.countP_eq_zero, SlotMark.isPanic]

@[simp] theorem settles_said {α : Type} (x : Traced ThreadReport α) : (said x).any SlotMark.settles = false := by
  simp [said, SlotMark.settles]

@[simp] theorem complaints_said {α : Type} (id : NodeId) (x : Traced ThreadReport α) :
    complaints id (said x) = x.reports.count (complaint id) := by
  rw [complaints, said, List.countP_map]
  rfl

theorem reports_join (slot : WorkerSlot) (index : Nat) :
    (slot.join index).reports = if slot.hasPanicked index then [complaint slot.id] else [] := by
  unfold WorkerSlot.join WorkerSlot.hasPanicked
  split <;> rfl

theorem reports_reap (slot : WorkerSlot) :
    slot.reap.reports = if slot.tracked.any slot.hasPanicked then [complaint slot.id] else [] := by
  unfold WorkerSlot.reap
  cases slot.tracked with
  | none => rfl
  | some index => simp [reports_join]

/-- A start that is accepted reports what a start that gets no thread does, and what the new worker says. -/
theorem reports_start_of_idle {slot : WorkerSlot} (idle : slot.isRunning = false) :
    ∃ line, slot.start.reports = slot.reap.reports ++ [.worker line] := by
  unfold WorkerSlot.start WorkerSlot.reap
  rw [idle]
  cases slot.tracked <;> exact ⟨_, by simp [Traced.report]; rfl⟩

theorem count_start_of_running {slot : WorkerSlot} (running : slot.isRunning = true) :
    slot.start.reports.count (complaint slot.id) = 0 := by
  have other : s!"{slot.id} is already running, ignoring start request" ≠ s!"{slot.id} worker thread panicked" := by
    cases slot.id <;> decide
  unfold WorkerSlot.start
  rw [running]
  refine List.count_eq_zero.2 fun heard => ?_
  obtain said := List.mem_singleton.1 heard
  exact other (congrArg Line.text (ThreadReport.caller.inj said)).symm

theorem count_requestStop (id : NodeId) (slot : WorkerSlot) (caller : Caller) :
    (slot.requestStop caller).reports.count (complaint id) = 0 := by
  refine List.count_eq_zero.2 fun heard => ?_
  unfold WorkerSlot.requestStop at heard
  cases tracked : slot.tracked with
  | none => simp [tracked] at heard
  | some index =>
    by_cases self : caller = .worker index <;> simp [tracked, self, Traced.report, complaint] at heard

theorem count_wake (slot : WorkerSlot) (index : Nat) : (slot.wake index).reports.count (complaint id) = 0 := by
  refine List.count_eq_zero.2 fun heard => ?_
  unfold WorkerSlot.wake at heard
  split at heard <;> simp [Traced.report, complaint] at heard

theorem OneUser.owed_eq (inv : OneUser id s) (free : s.IsFree .user) :
    s.owed = (s.slot.tracked.any s.slot.hasPanicked).toNat := by
  rw [owed, watched_of_joins_nil (inv.joins_of_isFree free)]

theorem owed_eq_of_watched (h : s.watched = some index) : s.owed = (s.slot.hasPanicked index).toNat := by
  rw [owed, h]
  rfl

theorem count_complaint (panicked : Bool) :
    (if panicked = true then [complaint id] else []).count (complaint id) = panicked.toNat := by
  cases panicked <;> simp

theorem owed_update {step : Worker → Worker} (kept : ∀ w, (step w).hasPanicked = w.hasPanicked) (at_ : Nat) :
    owed { s with slot := s.slot.update at_ step } = s.owed := by
  have same : (s.slot.update at_ step).hasPanicked = s.slot.hasPanicked :=
    funext fun _ => WorkerSlot.hasPanicked_update kept
  rw [owed, owed, same]
  rfl

/-- A step that settles reports what was owed, and a worker that panics is one more to report. -/
theorem OneUser.account (inv : OneUser id s) (h : Step s marks t) (alone : ∀ m ∈ marks, m.IsAlone) :
    (marks.any SlotMark.settles = true ∧ complaints id marks = s.owed ∧ panics marks = 0 ∧ t.owed = 0) ∨
    (marks.any SlotMark.settles = false ∧ complaints id marks = 0 ∧ t.owed = s.owed + panics marks) := by
  obtain rfl := inv.id_eq
  cases h with
  | start p slot free accepted =>
    obtain rfl : p = .user := alone _ List.mem_cons_self
    obtain ⟨idle, rfl⟩ := WorkerSlot.start_eq_ok_iff.1 accepted
    obtain ⟨line, reports⟩ := reports_start_of_idle idle
    refine .inl ⟨rfl, ?_, by simp [SlotMark.isPanic], ?_⟩
    · rw [complaints_cons, complaints_said, reports, reports_reap, List.count_append, count_complaint, inv.owed_eq free]
      simp [SlotMark.isComplaint, complaint]
    · have watched : watched { s with slot := s.slot.spawned } = some s.slot.workers.length := rfl
      rw [owed_eq_of_watched watched, WorkerSlot.hasPanicked_of_isLive s.slot.isLive_spawned_new]
      rfl
  | refuse p e free refused =>
    have running : s.slot.isRunning = true := by
      by_contra idle
      rw [WorkerSlot.start_eq_ok_iff.2 ⟨Bool.eq_false_iff.2 idle, rfl⟩] at refused
      cases refused
    refine .inr ⟨by simp [SlotMark.settles], ?_, by simp [SlotMark.isPanic]⟩
    rw [complaints_cons, complaints_said, count_start_of_running running]
    rfl
  | starve p free idle =>
    obtain rfl : p = .user := alone _ List.mem_cons_self
    refine .inl ⟨rfl, ?_, by simp [SlotMark.isPanic], ?_⟩
    · rw [complaints_cons, complaints_said, reports_reap, count_complaint, inv.owed_eq free]
      exact Nat.zero_add _
    · simp [WorkerSlot.result_reap, owed, watched, inv.joins_of_isFree free]
  | ask => exact .inr ⟨rfl, rfl, rfl⟩
  | signal p slot free left =>
    have silent := count_requestStop s.slot.id s.slot p.caller
    rcases WorkerSlot.requestStop_eq_iff.1 left with ⟨empty, rfl, -⟩ | ⟨index, -, self, rfl, -⟩ | ⟨_, _, _, _, none⟩
    · cases p with
      | outsider number =>
        obtain rfl : number = 0 := alone (.stopCalled (.outsider number)) (by simp)
        have nothing : s.owed = 0 := by rw [inv.owed_eq free, empty]; rfl
        exact .inl ⟨by simp [SlotMark.settles, Party.user], by simp [SlotMark.isComplaint, silent, nothing],
          by simp [SlotMark.isPanic], nothing⟩
      | worker number =>
        exact .inr ⟨by simp [SlotMark.settles, Party.user], by simp [SlotMark.isComplaint, silent],
          by simp [SlotMark.isPanic]⟩
    · cases p with
      | outsider => cases self
      | worker number =>
        exact .inr ⟨by simp [SlotMark.settles, Party.user], by simp [SlotMark.isComplaint, silent],
          by simp [SlotMark.isPanic, owed_update Worker.hasPanicked_signal]⟩
    · cases none
  | takeOut p slot index free taken =>
    have silent := count_requestStop s.slot.id s.slot p.caller
    rcases WorkerSlot.requestStop_eq_iff.1 taken with ⟨_, _, none⟩ | ⟨_, _, _, _, none⟩ | ⟨at_, tracked, -, rfl, same⟩
    · cases none
    · cases none
    · obtain rfl := Option.some.inj same
      have kept : (s.slot.takenOut index).hasPanicked index = s.slot.hasPanicked index :=
        WorkerSlot.hasPanicked_update Worker.hasPanicked_signal
      have before : s.watched = some index := by rw [watched, tracked]; rfl
      have after : watched ⟨s.slot.takenOut index, (p, index) :: s.joins⟩ = some index := rfl
      refine .inr ⟨by simp [SlotMark.settles], by simp [SlotMark.isComplaint, silent], ?_⟩
      rw [owed_eq_of_watched before, owed_eq_of_watched after, kept]
      simp [SlotMark.isPanic]
  | join p at_ waits ended =>
    rcases inv.joins with none | ⟨index, one, empty⟩
    · rw [none] at waits
      exact absurd waits List.not_mem_nil
    · rw [one] at waits
      obtain ⟨rfl, rfl⟩ := Prod.mk.inj (List.mem_singleton.1 waits)
      have before : s.watched = some at_ := by rw [watched, empty, one]; rfl
      refine .inl ⟨by simp [SlotMark.settles], ?_, by simp [SlotMark.isPanic], ?_⟩
      · rw [complaints_append, complaints_said, reports_join, count_complaint, owed_eq_of_watched before]
        rfl
      · simp [owed, watched, empty, one]
  | enter at_ => exact .inr ⟨rfl, rfl, owed_update Worker.hasPanicked_enter at_⟩
  | leave at_ panicked free =>
    -- A worker that is inside its body has not panicked before.
    have working := free.1
    have watched := inv.watched_of_isFree free
    have watched' : { s with slot := s.slot.leave at_ panicked }.watched = some at_ := watched
    have before := WorkerSlot.hasPanicked_of_isLive (WorkerSlot.isLive_of_working working)
    refine .inr ⟨rfl, rfl, ?_⟩
    rw [owed_eq_of_watched watched, before, owed_eq_of_watched watched', WorkerSlot.hasPanicked_leave working]
    simp [SlotMark.isPanic]
  | log => exact .inr ⟨rfl, rfl, rfl⟩
  | wake at_ =>
    refine .inr ⟨settles_said _, by rw [complaints_said, count_wake], ?_⟩
    rw [WorkerSlot.result_wake, owed_update Worker.hasPanicked_wake, panics_said, Nat.add_zero]

/-! ## The two states of a slot -/

@[simp] theorem filter_isAnswer_said {α : Type} (x : Traced ThreadReport α) :
    (said x).filter SlotMark.isAnswer = [] := by
  simp [said, SlotMark.isAnswer]

theorem filter_answer {α : Type} {m : SlotMark} (answer : m.isAnswer = true) (x : Traced ThreadReport α) :
    (m :: said x).filter SlotMark.isAnswer = [m] := by
  rw [List.filter_cons_of_pos answer, filter_isAnswer_said]

/-- Without a call the slot stays as it is, or goes idle. -/
theorem steps_of_isLive (kept : ∀ index, t.slot.isLive index = true → s.slot.isLive index = true) :
    Steps (Duty.Step id) s.duty [] t.duty := by
  cases before : s.duty with
  | idle =>
    have after : t.duty = .idle := duty_eq_idle_iff.2 fun index => by
      by_contra live
      have old := kept index (by simpa using live)
      exact absurd ((duty_eq_idle_iff.1 before index).symm.trans old) Bool.false_ne_true
    rw [after]
    exact .refl
  | running =>
    cases t.duty with
    | idle => exact .single .finish
    | running => exact .refl

theorem steps_of_update {step : Worker → Worker} (kept : ∀ w, (step w).isAlive = true → w.isAlive = true)
    {at_ : Nat} (updated : t.slot.workers = (s.slot.update at_ step).workers) :
    Steps (Duty.Step id) s.duty [] t.duty := by
  refine steps_of_isLive fun index live => ?_
  have live' : (s.slot.update at_ step).isLive index = true := by rwa [WorkerSlot.isLive, ← updated]
  exact WorkerSlot.isLive_of_update kept live'

theorem OneUser.duty_of_unwatched (inv : OneUser id s) (none : s.watched = none) : s.duty = .idle := by
  refine duty_eq_idle_iff.2 fun index => ?_
  by_contra live
  rw [inv.only index (by simpa using live)] at none
  cases none

/-- What a step answers, the machine of two states answers too. -/
theorem OneUser.answers (inv : OneUser id s) (h : Step s marks t) (alone : ∀ m ∈ marks, m.IsAlone) :
    Steps (Duty.Step id) s.duty (marks.filter SlotMark.isAnswer) t.duty := by
  have after := inv.step h alone
  have signalled (w : Worker) (alive : w.signal.isAlive = true) : w.isAlive = true := by rwa [w.isAlive_signal] at alive
  cases h with
  | start p slot free accepted =>
    obtain rfl : p = .user := alone _ List.mem_cons_self
    obtain ⟨idle, rfl⟩ := WorkerSlot.start_eq_ok_iff.1 accepted
    have running : duty { s with slot := s.slot.spawned } = .running :=
      duty_eq_running_iff.2 ⟨_, s.slot.isLive_spawned_new⟩
    rw [(inv.isRunning_eq_false_iff free).1 idle, running, filter_answer rfl]
    exact .single (.start s.slot.workers.length)
  | refuse p e free refused =>
    obtain rfl : p = .user := alone _ List.mem_cons_self
    obtain ⟨running, rfl⟩ := WorkerSlot.start_eq_error_iff.1 refused
    rw [(inv.isRunning_iff free).1 running, inv.id_eq, filter_answer rfl]
    exact .single .refuse
  | starve p free idle =>
    obtain rfl : p = .user := alone _ List.mem_cons_self
    have before := (inv.isRunning_eq_false_iff free).1 idle
    have same : duty { s with slot := s.slot.reap.result } = s.duty := by rw [WorkerSlot.result_reap]; rfl
    rw [same, before, filter_answer rfl]
    exact .single .starve
  | ask p free =>
    obtain rfl : p = .user := alone _ List.mem_cons_self
    have answer : s.slot.isRunning = (s.duty == .running) := by
      rw [Bool.eq_iff_iff, inv.isRunning_iff free, beq_iff_eq]
    rw [answer]
    exact .single (.ask s.duty)
  | signal p slot free left =>
    cases p with
    | outsider number =>
      obtain rfl : number = 0 := alone (.stopCalled (.outsider number)) (by simp)
      have idle := after.duty_of_unwatched (after.watched_eq_none free (WorkerSlot.tracked_requestStop left))
      rw [idle, List.filter_append, List.filter_cons_of_neg Bool.false_ne_true, filter_isAnswer_said]
      exact .single (.stop s.duty)
    | worker number =>
      rw [List.filter_append, List.filter_cons_of_neg Bool.false_ne_true, filter_isAnswer_said]
      rcases WorkerSlot.requestStop_eq_iff.1 left with ⟨-, rfl, -⟩ | ⟨index, -, -, rfl, -⟩ | ⟨_, _, _, _, none⟩
      · exact .refl
      · exact steps_of_update signalled rfl
      · cases none
  | takeOut p slot index free taken =>
    rcases WorkerSlot.requestStop_eq_iff.1 taken with ⟨_, _, none⟩ | ⟨_, _, _, _, none⟩ | ⟨at_, -, -, rfl, -⟩
    · cases none
    · cases none
    · rw [List.filter_cons_of_neg Bool.false_ne_true, filter_isAnswer_said]
      exact steps_of_update signalled rfl
  | join p at_ waits ended =>
    rcases inv.joins with none | ⟨index, one, empty⟩
    · rw [none] at waits
      exact absurd waits List.not_mem_nil
    · rw [one] at waits
      obtain ⟨rfl, rfl⟩ := Prod.mk.inj (List.mem_singleton.1 waits)
      have unwatched : watched { s with joins := s.joins.erase (.user, at_) } = none := by simp [watched, empty, one]
      rw [after.duty_of_unwatched unwatched, List.filter_append, filter_isAnswer_said]
      exact .single (.stop s.duty)
  | enter at_ => exact steps_of_update (fun w alive => by rwa [w.isAlive_enter] at alive) rfl
  | leave at_ panicked => exact steps_of_update (fun _ => Worker.isAlive_of_leave) rfl
  | log => exact .refl
  | wake at_ =>
    rw [filter_isAnswer_said, WorkerSlot.result_wake]
    exact steps_of_update (fun _ => Worker.isAlive_of_wake) rfl

/-! ## Whose bodies are called -/

theorem length_requestStop {slot slot' : WorkerSlot} {caller : Caller} {out : Option Nat}
    (h : (slot.requestStop caller).result = (slot', out)) : slot'.workers.length = slot.workers.length := by
  rcases WorkerSlot.requestStop_eq_iff.1 h with ⟨-, rfl, -⟩ | ⟨index, -, -, rfl, -⟩ | ⟨index, -, -, rfl, -⟩
  · rfl
  · exact WorkerSlot.length_update ..
  · exact WorkerSlot.length_update ..

theorem Step.begun (h : Step s marks t) (alone : ∀ m ∈ marks, m.IsAlone) (there : index < t.slot.workers.length) :
    index < s.slot.workers.length ∨ .started .user index ∈ marks := by
  cases h with
  | start p slot free accepted =>
    obtain rfl : p = .user := alone _ List.mem_cons_self
    obtain ⟨-, rfl⟩ := WorkerSlot.start_eq_ok_iff.1 accepted
    rcases Nat.lt_succ_iff_lt_or_eq.1 (s.slot.length_spawned ▸ there) with old | rfl
    · exact .inl old
    · exact .inr List.mem_cons_self
  | refuse | ask | join | log => exact .inl there
  | starve => exact .inl (by rwa [WorkerSlot.result_reap] at there)
  | signal p slot free left => exact .inl (length_requestStop left ▸ there)
  | takeOut p slot out free taken => exact .inl (length_requestStop taken ▸ there)
  | enter at_ => exact .inl (s.slot.length_update at_ _ ▸ there)
  | leave at_ panicked => exact .inl (s.slot.length_update at_ _ ▸ there)
  | wake at_ =>
    rw [WorkerSlot.result_wake] at there
    exact .inl (s.slot.length_update at_ _ ▸ there)

theorem not_entered_said {α : Type} (x : Traced ThreadReport α) : .entered index ∉ said x := not_mem_said (by simp) x

theorem Step.isLive_of_entered (h : Step s marks t) (entered : .entered index ∈ marks) :
    s.slot.isLive index = true := by
  cases h with
  | enter at_ poised =>
    obtain rfl : index = at_ := by simpa using entered
    obtain ⟨w, hw, poised⟩ := Option.map_eq_some_iff.1 poised
    exact WorkerSlot.isLive_iff.2 ⟨w, hw, by simp [Worker.isAlive, poised]⟩
  | _ => simp [not_entered_said] at entered

/-- A worker that has ended never calls its body again. -/
theorem not_entered_of_ended {later : List SlotMark} {u : LiveSlot} (run : Steps Step s later u)
    (old : index < s.slot.workers.length) (ended : s.slot.isLive index = false) : .entered index ∉ later := by
  intro entered
  obtain ⟨before, v, marks, w, reached, step, now⟩ := run.exists_of_mem entered
  have live := (isLive_of_old reached old).2 (step.isLive_of_entered now)
  exact absurd (ended.symm.trans live) Bool.false_ne_true

/-! ## The result -/

structure Followed (id : NodeId) (trace : List SlotMark) (s : LiveSlot) : Prop extends OneUser id s where
  answers : Steps (Duty.Step id) .idle (trace.filter SlotMark.isAnswer) s.duty
  balance : panics trace = complaints id trace + s.owed
  begun : ∀ index < s.slot.workers.length, .started .user index ∈ trace
  called : ∀ index, .entered index ∈ trace → .started .user index ∈ trace

theorem Followed.step (inv : Followed id trace s) (h : Step s marks t) (alone : ∀ m ∈ marks, m.IsAlone) :
    Followed id (trace ++ marks) t where
  toOneUser := inv.toOneUser.step h alone
  answers := by
    rw [List.filter_append]
    exact inv.answers.append (inv.toOneUser.answers h alone)
  balance := by
    have before := inv.balance
    rw [panics_append, complaints_append]
    rcases inv.account h alone with ⟨-, heard, none, nothing⟩ | ⟨-, silent, more⟩ <;> omega
  begun index there := by
    rcases h.begun alone there with old | now
    · exact List.mem_append_left _ (inv.begun index old)
    · exact List.mem_append_right _ now
  called index entered := by
    refine List.mem_append_left _ ?_
    rcases List.mem_append.1 entered with earlier | now
    · exact inv.called index earlier
    · exact inv.begun index (WorkerSlot.lt_length_of_isLive (h.isLive_of_entered now))

theorem followed_of_alone (run : Steps Step { slot := { id } } trace s) (alone : ∀ m ∈ trace, m.IsAlone) :
    Followed id trace s := by
  induction run with
  | refl =>
    refine ⟨⟨rfl, .inl rfl, fun index live => ?_⟩, .refl, rfl, by simp, by simp⟩
    simp [WorkerSlot.isLive] at live
  | tail _ step ih =>
    exact (ih fun m hm => alone m (List.mem_append_left _ hm)).step step fun m hm =>
      alone m (List.mem_append_right _ hm)

/-- A stop of the user that comes back leaves nobody to look after. -/
theorem OneUser.watched_of_returned (inv : OneUser id s) (h : Step s marks t) (returned : .stopReturned .user ∈ marks) :
    t.watched = none := by
  have not_said {α : Type} (x : Traced ThreadReport α) : .stopReturned .user ∉ said x := not_mem_said (by simp) x
  cases h with
  | signal p slot free left =>
    obtain rfl : .user = p := by simpa [not_said] using returned
    have empty : slot.tracked = none := WorkerSlot.tracked_requestStop left
    simp [watched, inv.joins_of_isFree free, empty]
  | join p index waits ended =>
    obtain rfl : .user = p := by simpa [not_said] using returned
    rcases inv.joins with none | ⟨at_, one, empty⟩
    · exact absurd (none ▸ waits) List.not_mem_nil
    · obtain ⟨-, rfl⟩ := Prod.mk.inj (List.mem_singleton.1 (one ▸ waits))
      simp [watched, one, empty]
  | _ => simp [not_said] at returned

theorem Step.eq_of_refused {p : Party} {e : LifecycleError} (h : Step s marks t) (refused : .refused p e ∈ marks) :
    t = s := by
  have not_said {α : Type} (x : Traced ThreadReport α) : .refused p e ∉ said x := not_mem_said (by simp) x
  cases h with
  | refuse => rfl
  | _ => simp [not_said] at refused

/-- A stop that finds nobody at work leaves the workers as they are. -/
theorem Step.workers_of_stopCalled (h : Step s marks t) (idle : ∀ index, s.slot.isLive index = false)
    (called : .stopCalled .user ∈ marks) :
    t.slot.workers = s.slot.workers ∧ (s.slot.tracked = none → t = s) := by
  have ended (index : Nat) : s.slot.update index Worker.signal = s.slot :=
    WorkerSlot.update_eq_self fun w at_ => Worker.signal_of_ended <| by
      simpa [WorkerSlot.isLive, at_] using idle index
  have not_said {α : Type} (x : Traced ThreadReport α) : .stopCalled .user ∉ said x := not_mem_said (by simp) x
  cases h with
  | signal p slot free left =>
    rcases WorkerSlot.requestStop_eq_iff.1 left with ⟨-, rfl, -⟩ | ⟨index, -, -, rfl, -⟩ | ⟨_, _, _, _, none⟩
    · exact ⟨rfl, fun _ => rfl⟩
    · rw [ended index]
      exact ⟨rfl, fun _ => rfl⟩
    · cases none
  | takeOut p slot index free taken =>
    rcases WorkerSlot.requestStop_eq_iff.1 taken with ⟨_, _, none⟩ | ⟨_, _, _, _, none⟩ | ⟨at_, tracked, -, rfl, -⟩
    · cases none
    · cases none
    · refine ⟨?_, fun empty => by simp [empty] at tracked⟩
      rw [WorkerSlot.takenOut, ended at_]
  | _ => simp [not_said] at called

/-- What a slot with one user has done, and what its next step can do. -/
structure TwoStates (id : NodeId) (trace : List SlotMark) (s : LiveSlot) (marks : List SlotMark) (t : LiveSlot) :
    Prop where
  /-- Calls and answers are those of a machine with two states, which runs while a worker is alive. -/
  answers : Steps (Duty.Step id) .idle ((trace ++ marks).filter SlotMark.isAnswer) t.duty
  accepts : s.IsFree .user → ((∃ slot, s.slot.start.result = .ok slot) ↔ ∀ index, s.slot.isLive index = false)
  refuses : s.IsFree .user → ∀ e,
    s.slot.start.result = .error e ↔ (∃ index, s.slot.isLive index = true) ∧ e = .alreadyRunning id
  /-- A start that is refused changes nothing, and only the bodies of accepted starts are ever called. -/
  refused : ∀ e, .refused .user e ∈ marks → t = s
  called : ∀ index, .entered index ∈ trace ++ marks → .started .user index ∈ trace ++ marks
  stopped : .stopReturned .user ∈ marks → t.slot.isRunning = false ∧
    ∀ index < t.slot.workers.length, ∀ later u, Steps Step t later u → .entered index ∉ later
  stoppedIdle : (∀ index, s.slot.isLive index = false) → .stopCalled .user ∈ marks →
    t.slot.workers = s.slot.workers ∧ (s.slot.tracked = none → t = s)
  /-- One panic at most is still to be reported: it is as soon as the user comes by, and not before. -/
  reported : ∃ owed ≤ 1, panics trace = complaints id trace + owed ∧
    complaints id marks = if marks.any SlotMark.settles then owed else 0

/-- Whatever the workers do, and however their steps fall between the calls: one user finds a slot in one of two
states, and hears once of every panic. -/
theorem twoStates_of_alone (run : Steps Step { slot := { id } } trace s) (step : Step s marks t)
    (alone : ∀ m ∈ trace ++ marks, m.IsAlone) : TwoStates id trace s marks t := by
  have before := followed_of_alone run fun m hm => alone m (List.mem_append_left _ hm)
  have now : ∀ m ∈ marks, m.IsAlone := fun m hm => alone m (List.mem_append_right _ hm)
  have after := before.step step now
  refine ⟨after.answers, fun free => ?_, fun free e => ?_, fun e => step.eq_of_refused, after.called,
    fun returned => ?_, step.workers_of_stopCalled, ?_⟩
  · rw [← duty_eq_idle_iff, ← before.isRunning_eq_false_iff free]
    simp [WorkerSlot.start_eq_ok_iff]
  · rw [WorkerSlot.start_eq_error_iff, before.isRunning_iff free, duty_eq_running_iff, before.id_eq]
  · have unwatched := before.watched_of_returned step returned
    have empty : t.slot.tracked = none := (Option.or_eq_none_iff.1 unwatched).1
    have idle := duty_eq_idle_iff.1 (after.duty_of_unwatched unwatched)
    refine ⟨?_, fun index there later u run => not_entered_of_ended run there (idle index)⟩
    rw [WorkerSlot.isRunning_eq, empty]
    rfl
  · have bound : s.owed ≤ 1 := Bool.toNat_le _
    refine ⟨s.owed, bound, before.balance, ?_⟩
    rcases before.account step now with ⟨settles, heard, -⟩ | ⟨open_, silent, -⟩
    · rw [if_pos settles, heard]
    · rw [if_neg (by simp [open_]), silent]

/-- The first worker has stopped itself, and the second has panicked. -/
def bothEnded : LiveSlot :=
  { slot := { id := .dbLogger, workers := [⟨.ended false, true, 1⟩, ⟨.ended true, false, 1⟩], tracked := some 1 } }

/-- While the first worker has asked for its own stop and not ended, a start is refused. The second one panics, and
the third start says so. -/
theorem twoStates_of_alone_bothEnded : ∃ trace marks t, Steps Step { slot := { id := .dbLogger } } trace bothEnded ∧
    Step bothEnded marks t ∧ (∀ m ∈ trace ++ marks, m.IsAlone) ∧
    trace.filter SlotMark.isAnswer =
      [.started .user 0, .refused .user (.alreadyRunning .dbLogger), .started .user 1] ∧
    panics trace = 1 ∧ complaints .dbLogger trace = 0 ∧ complaints .dbLogger marks = 1 ∧ t.duty = .running ∧
    TwoStates .dbLogger trace bothEnded marks t := by
  have free (slot : WorkerSlot) : IsFree ⟨slot, []⟩ .user := fun _ => List.not_mem_nil
  have inside (slot : WorkerSlot) (index : Nat) (working : slot.phase? index = some .working) :
      IsFree ⟨slot, []⟩ (.worker index) := ⟨working, fun _ => List.not_mem_nil⟩
  have first : Steps Step { slot := { id := .dbLogger } } _ _ := .single (.start _ .user _ (free _) rfl)
  have asked := ((first.tail (.enter _ 0 rfl)).tail (.signal _ (.worker 0) _ (inside _ 0 rfl) rfl)).tail
    (.refuse _ .user _ (free _) rfl)
  have ended := (asked.tail (.leave _ 0 false (inside _ 0 rfl))).tail (.wake _ 0 rfl)
  have second := ended.tail (.start _ .user _ (free _) rfl)
  have panicked : Steps Step _ _ bothEnded := (second.tail (.enter _ 1 rfl)).tail (.leave _ 1 true (inside _ 1 rfl))
  have third : Step bothEnded _ _ := .start _ .user _ (free _) rfl
  exact ⟨_, _, _, panicked, third, by decide, rfl, rfl, rfl, rfl, rfl, twoStates_of_alone panicked third (by decide)⟩

end LiveSlot

end VesselBus
