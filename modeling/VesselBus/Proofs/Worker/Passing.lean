import VesselBus.Proofs.Worker.Sequential

/-!
# What a pass comes to

A pass of a slot calls the body once or not at all, and so does a stop. Which of the two it is can be told from the
tracked worker: one that is at its next call goes on, and so does one whose wait nobody has cut short.
-/

namespace VesselBus

theorem filterMap_one {α β : Type} (f : α → Option β) (a : α) : [a].filterMap f = (f a).toList := by
  rw [List.filterMap_cons]
  cases f a <;> rfl

namespace Worker

/-- Its next turn is a call of its body. -/
def goesOn (w : Worker) : Bool := w.wake.phase == .poised

/-- It is outside its body, and was not signalled before it has called it. -/
def AtRest (w : Worker) : Prop := w.phase ≠ .working ∧ (w.phase = .poised → w.signalled = false)

/-- What it has asked of itself reaches its own channel. -/
def heed (asked : Bool) (w : Worker) : Worker := if asked then w.signal else w

/-- One turn: the end of a wait, and a whole call of the body. -/
def turn (stops panicked : Bool) (w : Worker) : Worker := ((w.wake.enter).heed stops).leave panicked

def pass (stops panicked : Bool) (w : Worker) : Worker := if w.goesOn then w.turn stops panicked else w.wake

/-- What becomes of a worker that somebody else stops. -/
def callOff (panicked : Bool) (w : Worker) : Worker :=
  (if w.phase = .poised then w.signal.enter.leave panicked else w.signal).wake

variable {w : Worker} {stops panicked : Bool}

theorem signal_signal (w : Worker) : w.signal.signal = w.signal := by
  unfold signal
  split <;> simp_all

theorem heed_heed (asked again : Bool) (w : Worker) : (w.heed asked).heed again = w.heed (asked || again) := by
  cases asked <;> cases again <;> simp [heed, signal_signal]

theorem calls_wake (w : Worker) : w.wake.calls = w.calls := by
  unfold wake
  split <;> rfl

theorem calls_enter (poised : w.phase = .poised) : w.enter.calls = w.calls + 1 := by
  rw [enter, if_pos poised]

theorem calls_leave (panicked : Bool) (w : Worker) : (w.leave panicked).calls = w.calls := by
  unfold leave
  split <;> rfl

theorem goesOn_iff : w.goesOn = true ↔ w.phase = .poised ∨ w.phase = .waiting ∧ w.signalled = false := by
  obtain ⟨phase, signalled, calls⟩ := w
  cases phase <;> cases signalled <;> simp [goesOn, wake]

theorem goesOn_of_ended (h : w.isAlive = false) : w.goesOn = false := by
  obtain ⟨phase, signalled, calls⟩ := w
  cases phase <;> simp_all [goesOn, wake, isAlive]

theorem AtRest.signalled (rest : w.AtRest) (goes : w.goesOn = true) : w.signalled = false := by
  rcases goesOn_iff.1 goes with poised | waiting
  · exact rest.2 poised
  · exact waiting.2

theorem wake_of_goesOn (goes : w.goesOn = true) : w.wake = { w with phase := .poised } := by
  rcases goesOn_iff.1 goes with poised | ⟨waiting, quiet⟩
  · rw [wake, if_neg (by simp [poised]), ← poised]
  · rw [wake, if_pos waiting, quiet]
    rfl

theorem turn_of_goesOn (goes : w.goesOn = true) :
    w.turn stops panicked =
      { phase := if panicked then .ended true else .waiting
        signalled := stops || w.signalled
        calls := w.calls + 1 } := by
  rw [turn, wake_of_goesOn goes]
  cases stops <;> simp [enter, heed, signal, leave, isAlive]

theorem isAlive_turn (goes : w.goesOn = true) : (w.turn stops panicked).isAlive = !panicked := by
  rw [turn_of_goesOn goes]
  cases panicked <;> rfl

theorem goesOn_turn (goes : w.goesOn = true) (rest : w.AtRest) :
    (w.turn stops panicked).goesOn = (!panicked && !stops) := by
  rw [turn_of_goesOn goes, rest.signalled goes]
  cases panicked <;> cases stops <;> rfl

theorem atRest_turn (goes : w.goesOn = true) : (w.turn stops panicked).AtRest := by
  rw [turn_of_goesOn goes]
  cases panicked <;> simp [AtRest]

theorem AtRest.wake (rest : w.AtRest) (stays : w.goesOn = false) : w.wake.AtRest ∧ w.wake.goesOn = false := by
  obtain ⟨phase, signalled, calls⟩ := w
  cases phase <;> cases signalled <;> simp_all [goesOn, AtRest, Worker.wake]

theorem AtRest.pass (rest : w.AtRest) : (w.pass stops panicked).AtRest := by
  unfold Worker.pass
  cases goes : w.goesOn with
  | true => exact atRest_turn goes
  | false => exact (rest.wake goes).1

theorem goesOn_pass (rest : w.AtRest) : (w.pass stops panicked).goesOn = (w.goesOn && !panicked && !stops) := by
  unfold Worker.pass
  cases goes : w.goesOn with
  | true => exact goesOn_turn goes rest
  | false => exact (rest.wake goes).2

theorem pass_of_ended (ended : w.isAlive = false) : w.pass stops panicked = w := by
  have notWaiting : w.phase ≠ .waiting := by
    intro waiting
    simp [isAlive, waiting] at ended
  unfold Worker.pass
  rw [goesOn_of_ended ended, Worker.wake, if_neg notWaiting]
  rfl

theorem calls_callOff (panicked : Bool) (w : Worker) :
    (w.callOff panicked).calls = w.calls + if w.phase == .poised then 1 else 0 := by
  unfold callOff
  rw [calls_wake]
  by_cases poised : w.phase = .poised
  · rw [if_pos poised, calls_leave, calls_enter (w.phase_signal.trans poised), calls_signal,
      if_pos (beq_iff_eq.2 poised)]
  · rw [if_neg poised, calls_signal, if_neg (mt beq_iff_eq.1 poised)]
    rfl

theorem calls_pass (stops panicked : Bool) (w : Worker) :
    (w.pass stops panicked).calls = w.calls + if w.goesOn then 1 else 0 := by
  unfold Worker.pass
  cases goes : w.goesOn with
  | true => rw [if_pos rfl, turn_of_goesOn goes, if_pos rfl]
  | false => exact w.calls_wake

end Worker

def ThreadReport.warning? : ThreadReport → Option Line
  | .caller line | .worker line => if line.level = .warn then some line else none

def warnings (reports : List ThreadReport) : List Line := reports.filterMap ThreadReport.warning?

@[simp] theorem warnings_append (xs ys : List ThreadReport) : warnings (xs ++ ys) = warnings xs ++ warnings ys :=
  List.filterMap_append

namespace WorkerSlot

variable {σ : Type} {s : WorkerSlot} {index : Nat} {w : Worker}

def goesOn (s : WorkerSlot) : Bool := s.trackedWorker?.any Worker.goesOn

def AtRest (s : WorkerSlot) : Prop := ∀ w, s.trackedWorker? = some w → w.AtRest

def calls (s : WorkerSlot) : Nat := s.workers.foldr (fun w sum => w.calls + sum) 0

def BodyAct.warning? : BodyAct → Option Line
  | .log line => if line.level = .warn then some line else none
  | .stopSelf => none

@[simp] theorem tracked_update (s : WorkerSlot) (index : Nat) (step : Worker → Worker) :
    (s.update index step).tracked = s.tracked := rfl

theorem trackedWorker?_update (tracked : s.tracked = some index) (step : Worker → Worker) :
    (s.update index step).trackedWorker? = s.trackedWorker?.map step := by
  simp [trackedWorker?, update, tracked]

theorem trackedWorker?_spawned (s : WorkerSlot) : s.spawned.trackedWorker? = some {} := by
  simp [trackedWorker?, spawned]

theorem trackedWorker?_of_untracked (untracked : s.tracked = none) : s.trackedWorker? = none := by
  rw [trackedWorker?, untracked]
  rfl

theorem atRest_of_untracked (untracked : s.tracked = none) : s.AtRest := by
  intro w there
  rw [trackedWorker?_of_untracked untracked] at there
  cases there

theorem isRunning_of_untracked (untracked : s.tracked = none) : s.isRunning = false := by
  rw [isRunning, trackedWorker?_of_untracked untracked]
  rfl

theorem goesOn_of_untracked (untracked : s.tracked = none) : s.goesOn = false := by
  rw [goesOn, trackedWorker?_of_untracked untracked]
  rfl

theorem goesOn_spawned (s : WorkerSlot) : s.spawned.goesOn = true := by
  rw [goesOn, trackedWorker?_spawned]
  rfl

theorem atRest_spawned (s : WorkerSlot) : s.spawned.AtRest := by
  intro w there
  rw [trackedWorker?_spawned] at there
  cases there
  exact ⟨WorkerPhase.noConfusion, fun _ => rfl⟩

/-! ## Calls -/

@[simp] theorem calls_spawned (s : WorkerSlot) : s.spawned.calls = s.calls := by
  simp [calls, spawned]

theorem calls_update (there : s.workers[index]? = some w) (step : Worker → Worker) :
    (s.update index step).calls + w.calls = s.calls + (step w).calls := by
  have sums (workers : List Worker) (i : Nat) (at_ : workers[i]? = some w) :
      (workers.modify i step).foldr (fun w sum => w.calls + sum) 0 + w.calls =
        workers.foldr (fun w sum => w.calls + sum) 0 + (step w).calls := by
    induction workers generalizing i with
    | nil => cases at_
    | cons v rest ih =>
      cases i with
      | zero =>
        cases at_
        simp only [List.modify_zero_cons, List.foldr_cons]
        omega
      | succ i =>
        have later := ih i at_
        simp only [List.modify_succ_cons, List.foldr_cons]
        omega
  exact sums s.workers index there

theorem calls_update_tracked {step : Worker → Worker} {once : Worker → Bool} (tracked : s.tracked = some index)
    (counts : ∀ w, (step w).calls = w.calls + if once w then 1 else 0) :
    (s.update index step).calls = s.calls + if s.trackedWorker?.any once then 1 else 0 := by
  rw [trackedWorker?, tracked, Option.bind_some]
  cases there : s.workers[index]? with
  | none => rw [update_eq_self fun w h => by rw [there] at h; cases h]; rfl
  | some w =>
    have counted := calls_update there step
    rw [counts w] at counted
    rw [Option.any_some]
    omega

theorem update_congr {f g : Worker → Worker} (same : ∀ w, s.workers[index]? = some w → f w = g w) :
    s.update index f = s.update index g := by
  rw [update, update, modify_congr same]

theorem update_update (s : WorkerSlot) (index : Nat) (f g : Worker → Worker) :
    (s.update index f).update index g = s.update index (g ∘ f) := by
  simp [update, List.modify_modify_eq]

/-! ## What a body does on its way -/

theorem result_act (own : s.tracked = none ∨ s.tracked = some index) (a : BodyAct) :
    (act index s a).result = s.update index (Worker.heed (s.tracked == some index && a == .stopSelf)) := by
  have unheard : s.update index (Worker.heed false) = s := update_eq_self fun _ _ => rfl
  cases a with
  | log line =>
    have other : (BodyAct.log line == .stopSelf) = false := rfl
    rw [other, Bool.and_false, unheard]
    rfl
  | stopSelf =>
    rcases own with tracked | tracked
    · simp [act, requestStop, tracked, unheard]
    · simp only [act, requestStop, tracked, beq_self_eq_true, Bool.and_self]
      rfl

/-- However often it asks itself to stop, a worker that is tracked is signalled, and stays tracked. -/
theorem result_acts (own : s.tracked = none ∨ s.tracked = some index) (acts : List BodyAct) :
    (acts.foldlM (act index) s).result =
      s.update index (Worker.heed (s.tracked == some index && acts.contains .stopSelf)) := by
  induction acts generalizing s with
  | nil =>
    rw [List.contains_nil, Bool.and_false]
    exact (update_eq_self fun _ _ => rfl).symm
  | cons a rest ih =>
    have both : Worker.heed (s.tracked == some index && rest.contains .stopSelf) ∘
        Worker.heed (s.tracked == some index && a == .stopSelf) =
          Worker.heed (s.tracked == some index && (a :: rest).contains .stopSelf) := by
      funext w
      rw [Function.comp, Worker.heed_heed, ← Bool.and_or_distrib_left, List.contains_cons,
        BEq.comm (a := a)]
    rw [List.foldlM_cons, Traced.result_bind, result_act own a, ih (s := s.update index _) own, update_update,
      tracked_update, both]

theorem warnings_acts (index : Nat) (s : WorkerSlot) (acts : List BodyAct) :
    warnings (acts.foldlM (act index) s).reports = acts.filterMap BodyAct.warning? := by
  induction acts generalizing s with
  | nil => rfl
  | cons a rest ih =>
    have first : warnings (act index s a).reports = a.warning?.toList := by
      cases a with
      | log line => by_cases h : line.level = .warn <;>
          simp [act, Traced.report, warnings, ThreadReport.warning?, BodyAct.warning?, h]
      | stopSelf =>
        unfold act requestStop
        cases s.tracked with
        | none => rfl
        | some i => by_cases self : Caller.worker index = .worker i <;> simp [self, warnings, Traced.report,
            ThreadReport.warning?, BodyAct.warning?]
    rw [List.foldlM_cons, Traced.reports_bind, warnings_append, ih, first, List.filterMap_cons]
    cases a.warning? <;> rfl

namespace BodyCall

def stops (c : BodyCall σ) : Bool := c.acts.contains .stopSelf

def warnings (c : BodyCall σ) : List Line := c.acts.filterMap BodyAct.warning?

end BodyCall

theorem result_callBody (body : Body σ) (state : σ) (own : s.tracked = none ∨ s.tracked = some index)
    (poised : s.phase? index = some .poised) :
    (callBody body index s state).result =
      (s.update index fun w =>
        (w.enter.heed (s.tracked == some index && (body state).stops)).leave (body state).panicked,
        (body state).state) := by
  have acted := result_acts (s := s.update index Worker.enter) own (body state).acts
  rw [callBody_of_poised poised, Traced.result_bind, acted, Traced.result_pure, leave, update_update, update_update]
  rfl

theorem warnings_callBody (body : Body σ) (state : σ) (poised : s.phase? index = some .poised) :
    VesselBus.warnings (callBody body index s state).reports = (body state).warnings := by
  rw [callBody_of_poised poised, Traced.reports_bind, warnings_append, warnings_acts]
  exact List.append_nil _

theorem phase?_of_mem (there : s.workers[index]? = some w) : s.phase? index = some w.phase := by
  rw [phase?, there, Option.map_some]

theorem warnings_wake (s : WorkerSlot) (index : Nat) : VesselBus.warnings (s.wake index).reports = [] := by
  unfold wake
  split <;> rfl

theorem warnings_join (s : WorkerSlot) (index : Nat) : VesselBus.warnings (s.join index).reports = [] := by
  unfold join
  split <;> rfl

theorem result_start (s : WorkerSlot) :
    s.start.result = if s.isRunning then .error (.alreadyRunning s.id) else .ok s.spawned := by
  by_cases running : s.isRunning = true
  · rw [start_eq_error_iff.2 ⟨running, rfl⟩, if_pos running]
  · rw [start_eq_ok_iff.2 ⟨by simpa using running, rfl⟩, if_neg running]

theorem warnings_start (s : WorkerSlot) : VesselBus.warnings s.start.reports = [] := by
  unfold start
  split
  · rfl
  · cases s.tracked with
    | none => rfl
    | some index =>
      simp only [Traced.reports_bind, warnings_append, warnings_join]
      rfl

/-! ## A pass -/

def passed (stops panicked : Bool) (s : WorkerSlot) : WorkerSlot :=
  match s.tracked with
  | none => s
  | some index => s.update index (Worker.pass stops panicked)

theorem goesOn_eq (tracked : s.tracked = some index) :
    s.goesOn = ((s.update index Worker.wake).phase? index == some .poised) := by
  unfold goesOn trackedWorker? phase? update
  rw [tracked, Option.bind_some, List.getElem?_modify_eq]
  cases s.workers[index]? <;> rfl

theorem pass_of_tracked (body : Body σ) (state : σ) (tracked : s.tracked = some index) :
    s.pass body state = (do
      let s ← s.wake index
      callBody body index s state) := by
  rw [pass, tracked]

/-- A pass calls the body exactly if the tracked worker goes on. -/
theorem result_pass (body : Body σ) (state : σ) (s : WorkerSlot) :
    (s.pass body state).result =
      (s.passed (body state).stops (body state).panicked, if s.goesOn then (body state).state else state) := by
  cases tracked : s.tracked with
  | none =>
    have stays := goesOn_of_untracked tracked
    rw [pass, passed, tracked, stays]
    rfl
  | some index =>
    have own : (s.update index Worker.wake).tracked = some index := tracked
    have goesOn (w : Worker) (there : s.workers[index]? = some w) : s.goesOn = w.goesOn := by
      rw [WorkerSlot.goesOn, trackedWorker?, tracked, Option.bind_some, there, Option.any_some]
    have result : s.passed (body state).stops (body state).panicked =
        s.update index (Worker.pass (body state).stops (body state).panicked) := by
      rw [passed, tracked]
    rw [pass_of_tracked body state tracked, Traced.result_bind, result_wake, result]
    by_cases poised : (s.update index Worker.wake).phase? index = some .poised
    · have goes : s.goesOn = true := by rw [goesOn_eq tracked, poised]; rfl
      rw [result_callBody body state (.inr own) poised, update_update, own, goes, if_pos rfl]
      refine congrArg (·, (body state).state) (update_congr fun w there => ?_)
      rw [Worker.pass, ← goesOn w there, goes, if_pos rfl, beq_self_eq_true, Bool.true_and]
      rfl
    · have stays : s.goesOn = false := by rw [goesOn_eq tracked]; exact beq_eq_false_iff_ne.2 poised
      rw [callBody_of_not_poised poised, stays]
      refine congrArg (·, state) (update_congr fun w there => ?_)
      rw [Worker.pass, ← goesOn w there, stays]
      rfl

theorem warnings_pass (body : Body σ) (state : σ) (s : WorkerSlot) :
    VesselBus.warnings (s.pass body state).reports = if s.goesOn then (body state).warnings else [] := by
  cases tracked : s.tracked with
  | none =>
    have stays := goesOn_of_untracked tracked
    rw [pass, tracked, stays]
    rfl
  | some index =>
    rw [pass_of_tracked body state tracked, Traced.reports_bind, warnings_append, warnings_wake, result_wake]
    by_cases poised : (s.update index Worker.wake).phase? index = some .poised
    · rw [warnings_callBody body state poised, goesOn_eq tracked, poised]
      rfl
    · rw [callBody_of_not_poised poised, goesOn_eq tracked, beq_eq_false_iff_ne.2 poised]
      rfl

theorem passed_of_idle (stops panicked : Bool) (idle : s.isRunning = false) : s.passed stops panicked = s := by
  unfold passed
  cases tracked : s.tracked with
  | none => rfl
  | some index =>
    refine update_eq_self fun w there => Worker.pass_of_ended ?_
    rwa [isRunning, trackedWorker?, tracked, Option.bind_some, there, Option.any_some] at idle

theorem trackedWorker?_passed (stops panicked : Bool) (s : WorkerSlot) :
    (s.passed stops panicked).trackedWorker? = s.trackedWorker?.map (Worker.pass stops panicked) := by
  unfold passed
  cases tracked : s.tracked with
  | none => simp [trackedWorker?, tracked]
  | some index => exact trackedWorker?_update tracked _

theorem calls_passed (stops panicked : Bool) (s : WorkerSlot) :
    (s.passed stops panicked).calls = s.calls + if s.goesOn then 1 else 0 := by
  unfold passed
  cases tracked : s.tracked with
  | none => simp [goesOn, trackedWorker?, tracked]
  | some index => exact calls_update_tracked tracked (Worker.calls_pass stops panicked)

theorem atRest_passed (stops panicked : Bool) (rest : s.AtRest) : (s.passed stops panicked).AtRest := by
  intro v there
  rw [trackedWorker?_passed] at there
  obtain ⟨w, isTracked, rfl⟩ := Option.map_eq_some_iff.1 there
  exact (rest w isTracked).pass

theorem isRunning_passed (stops panicked : Bool) (goes : s.goesOn = true) :
    (s.passed stops panicked).isRunning = !panicked := by
  obtain ⟨w, isTracked, goes⟩ := (Option.any_eq_true _ _).1 goes
  rw [isRunning, trackedWorker?_passed, isTracked, Option.map_some, Option.any_some, Worker.pass, if_pos goes,
    Worker.isAlive_turn goes]

theorem goesOn_passed (stops panicked : Bool) (rest : s.AtRest) :
    (s.passed stops panicked).goesOn = (s.goesOn && !panicked && !stops) := by
  unfold goesOn
  rw [trackedWorker?_passed]
  cases isTracked : s.trackedWorker? with
  | none => rfl
  | some w =>
    rw [Option.map_some, Option.any_some, Option.any_some, Worker.goesOn_pass (rest w isTracked)]

/-! ## A stop -/

/-- Its worker has not called its body yet. -/
def isPoised (s : WorkerSlot) : Bool := s.trackedWorker?.any (·.phase == .poised)

def calledOff (panicked : Bool) (s : WorkerSlot) : WorkerSlot :=
  match s.tracked with
  | none => s
  | some index => { s.update index (Worker.callOff panicked) with tracked := none }

theorem isPoised_eq (tracked : s.tracked = some index) : s.isPoised = (s.phase? index == some .poised) := by
  unfold isPoised trackedWorker? phase?
  rw [tracked, Option.bind_some]
  cases s.workers[index]? <;> rfl

theorem stop_of_untracked (body : Body σ) (state : σ) (untracked : s.tracked = none) :
    s.stop body state = pure (s, state) := by
  rw [stop, requestStop, untracked]
  rfl

theorem stop_of_tracked (body : Body σ) (state : σ) (tracked : s.tracked = some index) :
    s.stop body state = (do
      let (s, state) ← callBody body index (s.takenOut index) state
      let s ← s.wake index
      s.join index
      return (s, state)) := by
  rw [stop, requestStop, tracked]
  rfl

/-- A stop from outside calls the body exactly if the tracked worker has not called it yet. -/
theorem result_stop_eq (body : Body σ) (state : σ) (s : WorkerSlot) :
    (s.stop body state).result =
      (s.calledOff (body state).panicked, if s.isPoised then (body state).state else state) := by
  cases tracked : s.tracked with
  | none =>
    have quiet : s.isPoised = false := by rw [isPoised, trackedWorker?, tracked]; rfl
    rw [stop_of_untracked body state tracked, calledOff, tracked, quiet]
    rfl
  | some index =>
    have phase : (s.takenOut index).phase? index = s.phase? index := phase?_signal (s := s)
    have result : s.calledOff (body state).panicked =
        { s.update index (Worker.callOff (body state).panicked) with tracked := none } := by
      rw [calledOff, tracked]
    have merged (f : Worker → Worker)
        (same : ∀ w, s.workers[index]? = some w → f w.signal = w.callOff (body state).panicked) :
        (s.takenOut index).update index f = s.calledOff (body state).panicked := by
      have whole : (s.takenOut index).update index f =
          { (s.update index Worker.signal).update index f with tracked := none } := rfl
      rw [whole, result, update_update, update_congr (f := f ∘ Worker.signal) same]
    rw [stop_of_tracked body state tracked]
    simp only [Traced.result_bind, Traced.result_pure, result_wake]
    by_cases poised : s.phase? index = some .poised
    · have now : s.isPoised = true := by rw [isPoised_eq tracked, poised]; rfl
      rw [result_callBody body state (s := s.takenOut index) (.inl rfl) (phase.trans poised), now, if_pos rfl]
      refine congrArg (·, (body state).state) ?_
      rw [update_update]
      refine merged _ fun w there => ?_
      rw [phase?_of_mem there, Option.some.injEq] at poised
      rw [Worker.callOff, if_pos poised]
      rfl
    · have notYet : s.isPoised = false := by rw [isPoised_eq tracked]; exact beq_eq_false_iff_ne.2 poised
      rw [callBody_of_not_poised (by rwa [phase]), notYet]
      refine congrArg (·, state) (merged _ fun w there => ?_)
      rw [phase?_of_mem there, Option.some.injEq] at poised
      rw [Worker.callOff, if_neg poised]

theorem warnings_stop (body : Body σ) (state : σ) (s : WorkerSlot) :
    VesselBus.warnings (s.stop body state).reports = if s.isPoised then (body state).warnings else [] := by
  cases tracked : s.tracked with
  | none =>
    have notYet : s.isPoised = false := by rw [isPoised, trackedWorker?, tracked]; rfl
    rw [stop_of_untracked body state tracked, notYet]
    rfl
  | some index =>
    have phase : (s.takenOut index).phase? index = s.phase? index := phase?_signal (s := s)
    rw [stop_of_tracked body state tracked, isPoised_eq tracked]
    simp only [Traced.reports_bind, warnings_append, warnings_wake, warnings_join]
    by_cases poised : s.phase? index = some .poised
    · rw [warnings_callBody body state (phase.trans poised), poised]
      exact List.append_nil _
    · rw [callBody_of_not_poised (by rwa [phase]), beq_eq_false_iff_ne.2 poised]
      rfl

theorem tracked_calledOff (panicked : Bool) (s : WorkerSlot) : (s.calledOff panicked).tracked = none := by
  unfold calledOff
  split
  · assumption
  · rfl

theorem calls_calledOff (panicked : Bool) (s : WorkerSlot) :
    (s.calledOff panicked).calls = s.calls + if s.isPoised then 1 else 0 := by
  unfold calledOff
  cases tracked : s.tracked with
  | none => simp [isPoised, trackedWorker?, tracked]
  | some index => exact calls_update_tracked tracked (Worker.calls_callOff panicked)

end WorkerSlot

end VesselBus
