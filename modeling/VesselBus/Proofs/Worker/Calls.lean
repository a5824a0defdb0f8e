import VesselBus.Proofs.Worker.Lifecycle

/-!
# How often a worker calls its body

Whatever the threads do around it, there is little that a step can do to one worker. A worker that was signalled has
at most the call before it that it was about to make, and one that has ended has none. A worker that has not made its
first call can do nothing else.
-/

namespace VesselBus

namespace SlotMark

def isCallOf (index : Nat) : SlotMark → Bool
  | .entered i => i == index
  | _ => false

end SlotMark

def bodyCalls (index : Nat) (trace : List SlotMark) : Nat := trace.countP (SlotMark.isCallOf index)

section

variable {index : Nat} {trace marks : List SlotMark}

@[simp] theorem bodyCalls_nil : bodyCalls index [] = 0 := rfl

@[simp] theorem bodyCalls_append : bodyCalls index (trace ++ marks) = bodyCalls index trace + bodyCalls index marks :=
  List.countP_append

theorem bodyCalls_eq_zero_iff : bodyCalls index trace = 0 ↔ .entered index ∉ trace := by
  rw [bodyCalls, List.countP_eq_zero]
  constructor
  · intro none entered
    exact none _ entered (beq_self_eq_true index)
  · intro never m hm called
    cases m with
    | entered i => exact never (eq_of_beq called ▸ hm)
    | _ => exact Bool.false_ne_true called

theorem bodyCalls_entered : bodyCalls index [.entered index] = 1 := by
  simp [bodyCalls, SlotMark.isCallOf]

end

/-! ## One worker -/

namespace Worker

variable {index : Nat} {trace marks : List SlotMark} {w v : Worker}

/-- What a step can do to one worker. -/
inductive Goes (index : Nat) (w : Worker) : List SlotMark → Worker → Prop where
  | stays {marks : List SlotMark} (quiet : .entered index ∉ marks) : Goes index w marks w
  | signalled {marks : List SlotMark} (quiet : .entered index ∉ marks) : Goes index w marks w.signal
  | enters (poised : w.phase = .poised) : Goes index w [.entered index] w.enter
  | leaves (panicked : Bool) (working : w.phase = .working) : Goes index w [.left index panicked] (w.leave panicked)
  | wakes {marks : List SlotMark} (waiting : w.phase = .waiting) (quiet : .entered index ∉ marks) :
    Goes index w marks w.wake

/-- How many calls it has before it if it was signalled. -/
def callsDue (w : Worker) : Nat := if w.phase = .poised then 1 else 0

theorem Goes.calls (h : w.Goes index marks v) : v.calls = w.calls + bodyCalls index marks := by
  cases h with
  | stays quiet => rw [bodyCalls_eq_zero_iff.2 quiet]; rfl
  | signalled quiet => rw [bodyCalls_eq_zero_iff.2 quiet, calls_signal]; rfl
  | enters poised => rw [enter, if_pos poised, bodyCalls_entered]
  | leaves panicked working =>
    rw [leave, if_pos working]
    rfl
  | wakes waiting quiet =>
    rw [bodyCalls_eq_zero_iff.2 quiet, wake, if_pos waiting]
    rfl

theorem signalled_signal (alive : w.isAlive = true) : w.signal.signalled = true := by
  rw [signal, if_pos alive]

/-- A worker that has not called its body yet is about to. -/
def Begins (w : Worker) : Prop := w.calls = 0 → w.phase = .poised

theorem Goes.begins (h : w.Goes index marks v) (begins : w.Begins) : v.Begins := by
  have not {p : WorkerPhase} (other : p ≠ .poised) (at_ : w.phase = p) : w.calls ≠ 0 := by
    intro none
    exact other (at_.symm.trans (begins none))
  unfold Begins at *
  cases h with
  | stays quiet => exact begins
  | signalled quiet =>
    rw [calls_signal, phase_signal]
    exact begins
  | enters poised =>
    rw [enter, if_pos poised]
    exact fun none => absurd none (Nat.succ_ne_zero _)
  | leaves panicked working =>
    rw [leave, if_pos working]
    exact fun none => absurd none (not (by simp) working)
  | wakes waiting quiet =>
    rw [wake, if_pos waiting]
    exact fun none => absurd none (not (by simp) waiting)

/-- A signal stays, and it leaves a worker the call that it is about to make. -/
theorem Goes.signalled_due (h : w.Goes index marks v) (signalled : w.signalled = true) :
    v.signalled = true ∧ bodyCalls index marks + v.callsDue ≤ w.callsDue := by
  cases h with
  | stays quiet =>
    rw [bodyCalls_eq_zero_iff.2 quiet]
    exact ⟨signalled, by omega⟩
  | signalled quiet =>
    rw [bodyCalls_eq_zero_iff.2 quiet, callsDue, callsDue, phase_signal]
    refine ⟨?_, by omega⟩
    unfold Worker.signal
    split
    · rfl
    · exact signalled
  | enters poised =>
    rw [bodyCalls_entered, enter, if_pos poised, callsDue, callsDue, if_pos poised]
    exact ⟨signalled, by simp⟩
  | leaves panicked working =>
    rw [leave, if_pos working]
    refine ⟨signalled, ?_⟩
    cases panicked <;> simp [callsDue, bodyCalls, SlotMark.isCallOf]
  | wakes waiting quiet =>
    rw [bodyCalls_eq_zero_iff.2 quiet, wake, if_pos waiting, signalled]
    exact ⟨rfl, by simp [callsDue]⟩

theorem bodyCalls_le_callsDue (run : Steps (fun w marks v => Goes index w marks v) w trace v)
    (signalled : w.signalled = true) : bodyCalls index trace ≤ w.callsDue := by
  have due : v.signalled = true ∧ bodyCalls index trace + v.callsDue ≤ w.callsDue := by
    induction run with
    | refl => exact ⟨signalled, by simp⟩
    | tail _ step ih =>
      obtain ⟨kept, less⟩ := step.signalled_due ih.1
      refine ⟨kept, ?_⟩
      rw [bodyCalls_append]
      omega
  omega

end Worker

namespace WorkerSlot

variable {s : WorkerSlot} {index : Nat} {w : Worker}

theorem getElem?_update (there : s.workers[index]? = some w) (i : Nat) (step : Worker → Worker) :
    (s.update i step).workers[index]? = some (if i = index then step w else w) := by
  rw [update, List.getElem?_modify, there]
  split <;> rfl

theorem phase_of_phase? {phase : WorkerPhase} (there : s.workers[index]? = some w) (h : s.phase? index = some phase) :
    w.phase = phase := by
  rw [phase?, there] at h
  exact Option.some.inj h

end WorkerSlot

namespace LiveSlot

variable {index : Nat} {trace marks : List SlotMark} {s t : LiveSlot} {w : Worker} {p : Party}

/-- Every step is, to each worker there is, one of the few things that can happen to it. -/
theorem Step.goes (h : Step s marks t) (there : s.slot.workers[index]? = some w) :
    ∃ v, t.slot.workers[index]? = some v ∧ w.Goes index marks v := by
  have not_said {α : Type} (x : Traced ThreadReport α) : .entered index ∉ said x := not_entered_said x
  have at_most_signalled (i : Nat) (quiet : .entered index ∉ marks) :
      ∃ v, (s.slot.update i Worker.signal).workers[index]? = some v ∧ w.Goes index marks v := by
    refine ⟨_, WorkerSlot.getElem?_update there i _, ?_⟩
    split
    · exact .signalled quiet
    · exact .stays quiet
  cases h with
  | start p slot free accepted =>
    obtain ⟨-, rfl⟩ := WorkerSlot.start_eq_ok_iff.1 accepted
    have old := (List.getElem?_eq_some_iff.1 there).1
    refine ⟨w, ?_, .stays (by simp [not_said])⟩
    exact (List.getElem?_append_left old).trans there
  | refuse | ask | log | join => exact ⟨w, there, .stays (by simp [not_said])⟩
  | starve =>
    refine ⟨w, ?_, .stays (by simp [not_said])⟩
    rw [WorkerSlot.result_reap]
    exact there
  | signal p slot free left =>
    have quiet : .entered index ∉ .stopCalled p :: said (s.slot.requestStop p.caller) ++ [.stopReturned p] := by
      simp [not_said]
    rcases WorkerSlot.requestStop_eq_iff.1 left with ⟨-, rfl, -⟩ | ⟨i, -, -, rfl, -⟩ | ⟨_, _, _, _, none⟩
    · exact ⟨w, there, .stays quiet⟩
    · exact at_most_signalled i quiet
    · cases none
  | takeOut p slot i free taken =>
    have quiet : .entered index ∉ .stopCalled p :: said (s.slot.requestStop p.caller) := by simp [not_said]
    rcases WorkerSlot.requestStop_eq_iff.1 taken with ⟨_, _, none⟩ | ⟨_, _, _, _, none⟩ | ⟨i, -, -, rfl, -⟩
    · cases none
    · cases none
    · exact at_most_signalled i quiet
  | enter i poised =>
    refine ⟨_, WorkerSlot.getElem?_update there i _, ?_⟩
    by_cases here : i = index
    · subst here
      rw [if_pos rfl]
      exact .enters (WorkerSlot.phase_of_phase? there poised)
    · rw [if_neg here]
      exact .stays (by simpa using Ne.symm here)
  | leave i panicked free =>
    refine ⟨_, WorkerSlot.getElem?_update there i _, ?_⟩
    by_cases here : i = index
    · subst here
      rw [if_pos rfl]
      exact .leaves panicked (WorkerSlot.phase_of_phase? there free.1)
    · rw [if_neg here]
      exact .stays (by simp)
  | wake i waiting =>
    rw [WorkerSlot.result_wake]
    refine ⟨_, WorkerSlot.getElem?_update there i _, ?_⟩
    by_cases here : i = index
    · subst here
      rw [if_pos rfl]
      exact .wakes (WorkerSlot.phase_of_phase? there waiting) (not_said _)
    · rw [if_neg here]
      exact .stays (not_said _)

theorem goes_of_steps (run : Steps Step s trace t) (there : s.slot.workers[index]? = some w) :
    ∃ v, t.slot.workers[index]? = some v ∧ Steps (fun w marks v => Worker.Goes index w marks v) w trace v := by
  induction run with
  | refl => exact ⟨w, there, .refl⟩
  | tail _ step ih =>
    obtain ⟨u, at_, before⟩ := ih
    obtain ⟨v, after, goes⟩ := step.goes at_
    exact ⟨v, after, .tail before goes⟩

/-- A worker that was signalled calls its body once more at most, and only if it was about to. -/
theorem bodyCalls_le_of_signalled (run : Steps Step s trace t) (there : s.slot.workers[index]? = some w)
    (signalled : w.signalled = true) : bodyCalls index trace ≤ w.callsDue := by
  obtain ⟨v, -, goes⟩ := goes_of_steps run there
  exact Worker.bodyCalls_le_callsDue goes signalled

/-! ## Counting from the first start -/

/-- Each worker has counted the calls of its body, and begins with one. -/
structure Tallied (trace : List SlotMark) (s : LiveSlot) : Prop where
  calls : ∀ index, bodyCalls index trace = (s.slot.workers[index]?.map (·.calls)).getD 0
  begins : ∀ (index : Nat) (w : Worker), s.slot.workers[index]? = some w → w.Begins

theorem Step.eq_new (h : Step s marks t) (there : t.slot.workers[index]? = some w)
    (new : s.slot.workers[index]? = none) : w = {} := by
  have bound := (List.getElem?_eq_some_iff.1 there).1
  have beyond := List.getElem?_eq_none_iff.1 new
  rcases h.workers with ⟨-, rfl⟩ | ⟨same, -⟩
  · rw [WorkerSlot.length_spawned] at bound
    obtain rfl : index = s.slot.workers.length := by omega
    simpa [WorkerSlot.spawned, eq_comm] using there
  · omega

theorem Step.bodyCalls_of_new (h : Step s marks t) (new : s.slot.workers[index]? = none) :
    bodyCalls index marks = 0 := by
  rw [bodyCalls_eq_zero_iff]
  intro entered
  have bound := WorkerSlot.lt_length_of_isLive (h.isLive_of_entered entered)
  have beyond := List.getElem?_eq_none_iff.1 new
  omega

theorem Tallied.step (inv : Tallied trace s) (h : Step s marks t) : Tallied (trace ++ marks) t where
  calls index := by
    rw [bodyCalls_append, inv.calls index]
    cases there : s.slot.workers[index]? with
    | some w =>
      obtain ⟨v, after, goes⟩ := h.goes there
      rw [after]
      exact goes.calls.symm
    | none =>
      rw [h.bodyCalls_of_new there]
      cases after : t.slot.workers[index]? with
      | none => rfl
      | some v =>
        rw [h.eq_new after there]
        rfl
  begins index v after := by
    cases there : s.slot.workers[index]? with
    | some w =>
      obtain ⟨v', after', goes⟩ := h.goes there
      obtain rfl := Option.some.inj (after.symm.trans after')
      exact goes.begins (inv.begins index w there)
    | none =>
      rw [h.eq_new after there]
      exact fun _ => rfl

theorem tallied_of_run {id : NodeId} (run : Steps Step { slot := { id } } trace s) : Tallied trace s := by
  induction run with
  | refl => exact ⟨fun _ => rfl, fun _ _ there => by simp at there⟩
  | tail _ step ih => exact ih.step step

theorem Tallied.one_le (inv : Tallied trace s) (there : s.slot.workers[index]? = some w) (begun : w.phase ≠ .poised) :
    1 ≤ bodyCalls index trace := by
  rw [inv.calls index, there]
  exact Nat.one_le_iff_ne_zero.2 fun none => begun (inv.begins index w there none)

theorem Step.phase?_of_entered (h : Step s marks t) (entered : .entered index ∈ marks) :
    s.slot.phase? index = some .poised := by
  cases h with
  | enter at_ poised =>
    obtain rfl : index = at_ := by simpa using entered
    exact poised
  | _ => simp [not_entered_said] at entered

theorem Step.bodyCalls_of_working (h : Step s marks t) (working : s.slot.phase? index = some .working) :
    bodyCalls index marks = 0 := by
  rw [bodyCalls_eq_zero_iff]
  intro entered
  have poised := h.phase?_of_entered entered
  rw [working] at poised
  cases poised

theorem Step.ended_of_panic (h : Step s marks t) (panicked : .left index true ∈ marks) :
    s.slot.phase? index = some .working ∧ t.slot.isLive index = false := by
  have not_said {α : Type} (x : Traced ThreadReport α) : .left index true ∉ said x := not_mem_said (by simp) x
  cases h with
  | leave at_ how free =>
    obtain ⟨rfl, rfl⟩ : index = at_ ∧ true = how := by simpa using panicked
    obtain ⟨w, there, working⟩ := Option.map_eq_some_iff.1 free.1
    refine ⟨free.1, ?_⟩
    rw [WorkerSlot.isLive, WorkerSlot.leave, WorkerSlot.getElem?_update there, if_pos rfl]
    simp [Worker.leave, working, Worker.isAlive]
  | _ => simp [not_said] at panicked

theorem Step.lt_length_of_started (h : Step s marks t) (started : .started p index ∈ marks) :
    index < t.slot.workers.length := by
  have not_said {α : Type} (x : Traced ThreadReport α) : .started p index ∉ said x := not_mem_said (by simp) x
  cases h with
  | start q slot free accepted =>
    obtain ⟨-, rfl⟩ : p = q ∧ index = s.slot.workers.length := by simpa [not_said] using started
    obtain ⟨-, rfl⟩ := WorkerSlot.start_eq_ok_iff.1 accepted
    simp
  | _ => simp [not_said] at started

theorem lt_length_of_started (run : Steps Step s trace t) (started : .started p index ∈ trace) :
    index < t.slot.workers.length := by
  induction run with
  | refl => cases started
  | tail _ step ih =>
    rcases List.mem_append.1 started with earlier | now
    · exact (ih earlier).trans_le step.length_le
    · exact step.lt_length_of_started now

/-! ## A body that asks its own worker to stop -/

/-- A worker that is taken out of the slot alive takes a signal with it. -/
theorem Step.minds (h : Step s marks t) (tracked : s.slot.tracked = some index)
    (there : t.slot.workers[index]? = some w) (alive : w.isAlive = true) :
    t.slot.tracked = some index ∨ w.signalled = true := by
  have running (idle : s.slot.isRunning = false) (same : t.slot.isLive index = true → s.slot.isLive index = true) :
      t.slot.tracked = some index ∨ w.signalled = true := by
    have live := same (WorkerSlot.isLive_iff.2 ⟨w, there, alive⟩)
    rw [WorkerSlot.isRunning_eq, tracked, Option.any_some, live] at idle
    cases idle
  cases h with
  | start p slot free accepted =>
    obtain ⟨idle, rfl⟩ := WorkerSlot.start_eq_ok_iff.1 accepted
    by_cases new : index = s.slot.workers.length
    · exact .inl (congrArg some new.symm)
    · exact running idle fun live => (WorkerSlot.isLive_of_spawned live).resolve_left new
  | starve p free idle =>
    refine running idle fun live => ?_
    rwa [WorkerSlot.result_reap] at live
  | refuse | ask | log | join => exact .inl tracked
  | signal p slot free left =>
    rcases WorkerSlot.requestStop_eq_iff.1 left with ⟨empty, rfl, -⟩ | ⟨i, -, -, rfl, -⟩ | ⟨_, _, _, _, none⟩
    · exact .inl tracked
    · exact .inl tracked
    · cases none
  | takeOut p slot out free taken =>
    rcases WorkerSlot.requestStop_eq_iff.1 taken with ⟨_, _, none⟩ | ⟨_, _, _, _, none⟩ | ⟨i, tracked', -, rfl, -⟩
    · cases none
    · cases none
    · obtain rfl := Option.some.inj (tracked.symm.trans tracked')
      have signalled : (s.slot.workers.modify index Worker.signal)[index]? = some w := there
      rw [List.getElem?_modify_eq] at signalled
      obtain ⟨v, -, rfl⟩ := Option.map_eq_some_iff.1 signalled
      rw [Worker.isAlive_signal] at alive
      exact .inr (Worker.signalled_signal alive)
  | enter | leave => exact .inl tracked
  | wake i =>
    rw [WorkerSlot.result_wake]
    exact .inl tracked

/-- The newest worker is in the slot as long as nobody has signalled it. -/
def Minded (s : LiveSlot) : Prop :=
  ∀ index w, index + 1 = s.slot.workers.length → s.slot.workers[index]? = some w → w.isAlive = true →
    s.slot.tracked = some index ∨ w.signalled = true

theorem Minded.step (inv : s.Minded) (h : Step s marks t) : t.Minded := by
  intro index v newest after alive
  rcases h.workers with ⟨-, rfl⟩ | ⟨same, kept⟩
  · rw [WorkerSlot.length_spawned] at newest
    obtain rfl : index = s.slot.workers.length := by omega
    exact .inl rfl
  · have live := (kept index (WorkerSlot.isLive_iff.2 ⟨v, after, alive⟩)).1
    obtain ⟨w, there, before⟩ := WorkerSlot.isLive_iff.1 live
    rcases inv index w (by omega) there before with tracked | signalled
    · exact h.minds tracked after alive
    · obtain ⟨v', after', goes⟩ := h.goes there
      obtain rfl := Option.some.inj (after.symm.trans after')
      exact .inr (goes.signalled_due signalled).1

theorem minded_of_run {id : NodeId} (run : Steps Step { slot := { id } } trace s) : s.Minded := by
  induction run with
  | refl => exact fun _ _ _ there => by simp at there
  | tail _ step ih => exact ih.step step

/-- A worker inside its body that asks for its own stop is signalled, if it is the newest: it is in the slot, or
somebody has taken it out and signalled it before. -/
theorem Step.signalled_of_stopSelf (h : Step s marks t) (minded : s.Minded)
    (newest : index + 1 = s.slot.workers.length) (called : .stopCalled (.worker index) ∈ marks) :
    ∃ w, t.slot.workers[index]? = some w ∧ w.phase = .working ∧ w.signalled = true := by
  obtain ⟨free, stopped⟩ := h.stopping called
  obtain ⟨w, there, working⟩ := Option.map_eq_some_iff.1 free.1
  have alive : w.isAlive = true := by simp [Worker.isAlive, working]
  obtain ⟨out, requested⟩ : ∃ out, (s.slot.requestStop (.worker index)).result = (t.slot, out) := by
    rcases stopped with ⟨left, -⟩ | ⟨i, taken, -⟩
    · exact ⟨none, left⟩
    · exact ⟨some i, taken⟩
  rcases minded index w newest there alive with tracked | signalled
  · rcases WorkerSlot.requestStop_eq_iff.1 requested with
      ⟨empty, -⟩ | ⟨i, tracked', -, same, -⟩ | ⟨i, tracked', other, -⟩
    · rw [tracked] at empty
      cases empty
    · obtain rfl := Option.some.inj (tracked.symm.trans tracked')
      refine ⟨w.signal, ?_, w.phase_signal.trans working, Worker.signalled_signal alive⟩
      rw [same, WorkerSlot.getElem?_update there, if_pos rfl]
    · obtain rfl := Option.some.inj (tracked.symm.trans tracked')
      exact absurd rfl other
  · obtain ⟨v, after, goes⟩ := h.goes there
    refine ⟨v, after, ?_, (goes.signalled_due signalled).1⟩
    exact WorkerSlot.phase_of_phase? after ((WorkerSlot.phase?_requestStop requested).trans free.1)

end LiveSlot

end VesselBus
