import VesselBus.Proofs.Places
import VesselBus.Proofs.Steps
import VesselBus.Proofs.Worker.Live

/-!
# A worker without interference

What `WorkerSlot.pass` and `WorkerSlot.stop` compute are ways in which the steps of a slot can go: one thread
makes the calls, and lets the worker take its steps in between.
-/

namespace VesselBus

@[simp] def SlotMark.report? : SlotMark → Option ThreadReport
  | .reported report => some report
  | _ => none

namespace WorkerSlot

variable {σ : Type}

theorem isLive_update_self (s : WorkerSlot) (index : Nat) (step : Worker → Worker) :
    (s.update index step).isLive index = s.workers[index]?.any fun w => (step w).isAlive := by
  simp [isLive, update, Option.any_map]

theorem update_eq_self {s : WorkerSlot} {index : Nat} {step : Worker → Worker}
    (h : ∀ w, s.workers[index]? = some w → step w = w) : s.update index step = s := by
  rw [update, modify_eq_self h]

theorem wake_of_not_waiting {s : WorkerSlot} {index : Nat} (h : s.phase? index ≠ some .waiting) :
    s.wake index = pure s := by
  have notWaiting (w : Worker) (at_ : s.workers[index]? = some w) : w.phase ≠ .waiting := by
    intro waiting
    exact h (by rw [phase?, at_, Option.map_some, waiting])
  have same : s.update index Worker.wake = s :=
    update_eq_self fun w at_ => by rw [Worker.wake, if_neg (notWaiting w at_)]
  have quiet : s.workers[index]?.any Worker.isCalledOff = false := by
    cases at_ : s.workers[index]? with
    | none => rfl
    | some w => simp [Worker.isCalledOff, notWaiting w at_]
  rw [wake, quiet, same]
  rfl

theorem callBody_of_poised {body : Body σ} {index : Nat} {s : WorkerSlot} {state : σ}
    (h : s.phase? index = some .poised) :
    callBody body index s state = (do
      let s ← (body state).acts.foldlM (act index) (s.update index Worker.enter)
      return (s.leave index (body state).panicked, (body state).state)) :=
  if_neg (not_not_intro h)

theorem callBody_of_not_poised {body : Body σ} {index : Nat} {s : WorkerSlot} {state : σ}
    (h : s.phase? index ≠ some .poised) : callBody body index s state = pure (s, state) := if_pos h

theorem phase?_enter {index : Nat} {s : WorkerSlot} (h : s.phase? index = some .poised) :
    (s.update index Worker.enter).phase? index = some .working := by
  obtain ⟨w, hw, poised⟩ := Option.map_eq_some_iff.1 h
  simp [phase?, update, hw, Worker.enter, poised]

/-! ## A worker that is called off -/

theorem result_acts_of_untracked (index : Nat) {s : WorkerSlot} (h : s.tracked = none)
    (acts : List BodyAct) : (acts.foldlM (act index) s).result = s := by
  induction acts with
  | nil => rfl
  | cons a rest ih =>
    have same : (act index s a).result = s := by
      cases a <;> simp [act, requestStop, h]
    simpa [same] using ih

theorem isAlive_of_called_off {w : Worker} (h : w.phase = .poised) (panicked : Bool) :
    (((w.signal.enter).leave panicked).wake).isAlive = false := by
  cases panicked <;> simp [Worker.signal, Worker.enter, Worker.leave, Worker.wake, Worker.isAlive, h]

theorem isAlive_of_interrupted {w : Worker} (notPoised : w.phase ≠ .poised) (notWorking : w.phase ≠ .working) :
    w.signal.wake.isAlive = false := by
  obtain ⟨phase, signalled, calls⟩ := w
  cases phase with
  | poised => exact absurd rfl notPoised
  | working => exact absurd rfl notWorking
  | waiting => rfl
  | ended panicked => rfl

/-- A worker that is signalled while it is outside its body ends before it would enter it twice. -/
theorem isLive_of_stopped (body : Body σ) (state : σ) {index : Nat} {s : WorkerSlot}
    (outside : s.phase? index ≠ some .working) :
    ((callBody body index (s.takenOut index) state).result.1.update index Worker.wake).isLive index =
      false := by
  have phase : (s.takenOut index).phase? index = s.phase? index := phase?_signal (s := s)
  have signalled : (s.takenOut index).workers[index]? = s.workers[index]?.map Worker.signal :=
    List.getElem?_modify_eq ..
  rw [isLive_update_self]
  by_cases poised : s.phase? index = some .poised
  · have untracked : ((s.takenOut index).update index Worker.enter).tracked = none := rfl
    have acted := result_acts_of_untracked index untracked (body state).acts
    obtain ⟨w, hw, at_⟩ := Option.map_eq_some_iff.1 poised
    have result : (callBody body index (s.takenOut index) state).result.1 =
        ((s.takenOut index).update index Worker.enter).leave index (body state).panicked := by
      simp [callBody_of_poised (phase.trans poised), acted]
    rw [result]
    simp [leave, update, signalled, hw, isAlive_of_called_off at_]
  · have notPoised : (s.takenOut index).phase? index ≠ some .poised := by rwa [phase]
    rw [callBody_of_not_poised notPoised, Traced.result_pure, signalled, Option.any_map]
    cases hw : s.workers[index]? with
    | none => rfl
    | some w =>
      have at_ : s.phase? index = some w.phase := by rw [phase?, hw, Option.map_some]
      exact isAlive_of_interrupted (fun h => poised (at_.trans (congrArg some h)))
        (fun h => outside (at_.trans (congrArg some h)))

end WorkerSlot

namespace LiveSlot

variable {σ : Type} {joins : List (Party × Nat)}

abbrev Reports : LiveSlot → List ThreadReport → LiveSlot → Prop := VesselBus.Reports Step SlotMark.report?

@[simp] theorem filterMap_said {α : Type} (x : Traced ThreadReport α) :
    (said x).filterMap SlotMark.report? = x.reports := by
  simp [said, List.filterMap_map, Function.comp_def]

/-- A worker inside its body, which is the tracked one if there is one, and for which no stop of its own waits. -/
structure Inside (joins : List (Party × Nat)) (index : Nat) (s : WorkerSlot) : Prop where
  working : s.phase? index = some .working
  own : s.tracked = none ∨ s.tracked = some index
  free : ∀ i, (.worker index, i) ∉ joins

theorem Inside.act {index : Nat} {s : WorkerSlot} (inside : Inside joins index s) (a : WorkerSlot.BodyAct) :
    let x := WorkerSlot.act index s a
    Reports ⟨s, joins⟩ x.reports ⟨x.result, joins⟩ ∧ Inside joins index x.result := by
  have isFree : IsFree ⟨s, joins⟩ (.worker index) := ⟨inside.working, inside.free⟩
  cases a with
  | log line => exact ⟨.step (Step.log ⟨s, joins⟩ index line isFree), inside⟩
  | stopSelf =>
    have left : (s.requestStop (.worker index)).result = ((s.requestStop (.worker index)).result.1, none) := by
      rcases inside.own with tracked | tracked <;> simp [WorkerSlot.requestStop, tracked]
    have stepped : Reports ⟨s, joins⟩ _ _ := .step (Step.signal ⟨s, joins⟩ (.worker index) _ isFree left)
    refine ⟨by simpa [WorkerSlot.act, List.filterMap_cons, Party.caller] using stepped, ?_, ?_, inside.free⟩
    · exact (WorkerSlot.phase?_requestStop left).trans inside.working
    · rcases inside.own with tracked | tracked <;>
        simp [WorkerSlot.act, WorkerSlot.requestStop, WorkerSlot.update, tracked]

theorem Inside.acts {index : Nat} {s : WorkerSlot} (inside : Inside joins index s)
    (acts : List WorkerSlot.BodyAct) :
    let x := acts.foldlM (WorkerSlot.act index) s
    Reports ⟨s, joins⟩ x.reports ⟨x.result, joins⟩ ∧ Inside joins index x.result := by
  induction acts generalizing s with
  | nil => exact ⟨.refl _, inside⟩
  | cons a rest ih =>
    obtain ⟨first, inside'⟩ := inside.act a
    obtain ⟨others, inside''⟩ := ih inside'
    exact ⟨first.trans others, inside''⟩

theorem reports_callBody (body : WorkerSlot.Body σ) (index : Nat) (s : WorkerSlot) (state : σ)
    (own : s.tracked = none ∨ s.tracked = some index) (free : ∀ i, (.worker index, i) ∉ joins) :
    let x := WorkerSlot.callBody body index s state
    Reports ⟨s, joins⟩ x.reports ⟨x.result.1, joins⟩ := by
  by_cases poised : s.phase? index = some .poised
  · have entered : Reports ⟨s, joins⟩ _ _ := .step (Step.enter ⟨s, joins⟩ index poised)
    have inside : Inside joins index (s.update index Worker.enter) := ⟨WorkerSlot.phase?_enter poised, own, free⟩
    obtain ⟨acted, inside'⟩ := inside.acts (body state).acts
    have left : Reports _ _ _ := .step (Step.leave ⟨_, joins⟩ index (body state).panicked ⟨inside'.working, free⟩)
    rw [WorkerSlot.callBody_of_poised poised]
    simpa [List.filterMap_cons] using (entered.trans acted).trans left
  · rw [WorkerSlot.callBody_of_not_poised poised]
    exact .refl _

theorem reports_wake (index : Nat) (s : WorkerSlot) :
    let x := s.wake index
    Reports ⟨s, joins⟩ x.reports ⟨x.result, joins⟩ := by
  by_cases waiting : s.phase? index = some .waiting
  · have woken : Reports ⟨s, joins⟩ _ _ := .step (Step.wake ⟨s, joins⟩ index waiting)
    simpa using woken
  · rw [WorkerSlot.wake_of_not_waiting waiting]
    exact .refl _

theorem reports_pass (body : WorkerSlot.Body σ) (s : WorkerSlot) (state : σ)
    (free : ∀ index i, (.worker index, i) ∉ joins) :
    let x := WorkerSlot.pass body s state
    Reports ⟨s, joins⟩ x.reports ⟨x.result.1, joins⟩ := by
  cases tracked : s.tracked with
  | none =>
    simp only [WorkerSlot.pass, tracked]
    exact .refl _
  | some index =>
    have kept : (s.wake index).result.tracked = some index := by rw [WorkerSlot.result_wake]; exact tracked
    have called : Reports ⟨_, joins⟩ _ _ := reports_callBody body index _ state (.inr kept) (free index)
    simpa [WorkerSlot.pass, tracked] using (reports_wake index s).trans called

theorem reports_stop (body : WorkerSlot.Body σ) (s : WorkerSlot) (state : σ)
    (outside : ∀ index, s.phase? index ≠ some .working) :
    let x := WorkerSlot.stop body s state
    Reports ⟨s, []⟩ x.reports ⟨x.result.1, []⟩ := by
  have isFree : IsFree ⟨s, []⟩ (.outsider 0) := fun _ => List.not_mem_nil
  cases tracked : s.tracked with
  | none =>
    have left : (s.requestStop .outsider).result = (s, none) :=
      WorkerSlot.requestStop_eq_iff.2 (.inl ⟨tracked, rfl, rfl⟩)
    have signalled : Reports ⟨s, []⟩ _ _ := .step (Step.signal ⟨s, []⟩ (.outsider 0) s isFree left)
    simpa [WorkerSlot.stop, left, List.filterMap_cons, Party.caller] using signalled
  | some index =>
    have takenOut : (s.requestStop .outsider).result = (s.takenOut index, some index) :=
      WorkerSlot.requestStop_eq_iff.2 (.inr (.inr ⟨index, tracked, Caller.noConfusion, rfl, rfl⟩))
    have taken : Reports ⟨s, []⟩ _ _ := .step (Step.takeOut ⟨s, []⟩ (.outsider 0) _ index isFree takenOut)
    have called : Reports ⟨s.takenOut index, [(.outsider 0, index)]⟩ _ _ :=
      reports_callBody body index _ state (.inl rfl) (by simp)
    have woken := (taken.trans called).trans (reports_wake index _)
    have ended := WorkerSlot.isLive_of_stopped body state (outside index)
    rw [← WorkerSlot.result_wake] at ended
    have joined := woken.after (Step.join _ (.outsider 0) index List.mem_cons_self ended)
    simpa [WorkerSlot.stop, takenOut, List.filterMap_cons, Party.caller] using joined

end LiveSlot

end VesselBus
