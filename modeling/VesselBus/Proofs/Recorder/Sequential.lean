import VesselBus.Proofs.Recorder.Live
import VesselBus.Proofs.Worker.Sequential

/-!
# A recorder without interference

What `Recorder.flush`, `Recorder.pass` and `Recorder.stop` compute are ways in which the steps of a recorder can
go, when nobody delivers meanwhile.
-/

namespace VesselBus

@[simp] def RecorderMark.report? : RecorderMark → Option ThreadReport
  | .reported report => some report
  | _ => none

namespace LiveRecorder

variable {σ : Type} {store : LogStore σ}

abbrev Reports (store : LogStore σ) : LiveRecorder σ → List ThreadReport → LiveRecorder σ → Prop :=
  VesselBus.Reports (Step store) RecorderMark.report?

@[simp] theorem filterMap_said {α : Type} (x : Traced ThreadReport α) :
    (said x).filterMap RecorderMark.report? = x.reports := by
  simp [said, List.filterMap_map, Function.comp_def]

@[simp] theorem filterMap_handing (batch : List LogEntry) :
    (handing batch).filterMap RecorderMark.report? = [] := by
  unfold handing
  split <;> rfl

theorem reports_handOver (r : Recorder) (state : σ) (stopping : Bool) (batch : List LogEntry) :
    let x := Recorder.handOver store batch state
    Reports store ⟨r, state, [], .storing stopping batch⟩ (x.mapReports .caller).reports
      ⟨r, x.result.2, [], .free⟩ := by
  intro x
  cases panic : x.result.1 with
  | none =>
    have stored : Reports store ⟨r, state, [], .storing stopping batch⟩ _ _ :=
      .step (.store _ stopping batch x.result.2 rfl (Prod.ext panic rfl))
    cases stopping <;> simpa [List.filterMap_cons, x] using stored
  | some cause =>
    have lost : Reports store ⟨r, state, [], .storing stopping batch⟩ _ _ :=
      .step (.storePanics _ stopping batch cause x.result.2 rfl (Prod.ext panic rfl))
    simpa [x] using lost

theorem reports_flush (r : Recorder) (state : σ) :
    let x := r.flush store state
    Reports store ⟨r, state, [], .free⟩ (x.mapReports .caller).reports ⟨x.result.1, x.result.2.2, [], .free⟩ := by
  have taken : Reports store ⟨r, state, [], .free⟩ _ _ := .step (Step.flush _ rfl)
  simpa [Recorder.flush, Recorder.buffering] using
    taken.trans (reports_handOver _ state false _)

/-! ## The worker -/

theorem acts_log (lines : List Line) (index : Nat) (s : WorkerSlot) :
    (lines.map WorkerSlot.BodyAct.log).foldlM (WorkerSlot.act index) s = ⟨lines.map .worker, s⟩ := by
  induction lines with
  | nil => rfl
  | cons line rest ih =>
    have first : ((line :: rest).map WorkerSlot.BodyAct.log).foldlM (WorkerSlot.act index) s =
        ⟨.worker line :: ((rest.map .log).foldlM (WorkerSlot.act index) s).reports,
          ((rest.map .log).foldlM (WorkerSlot.act index) s).result⟩ := rfl
    rw [first, ih]
    rfl

/-- A worker looks at the buffer, and hands over what it took out of it. -/
theorem reports_callBody (r : Recorder) (state : σ) (control : Control) (index : Nat) :
    let x := WorkerSlot.callBody (Recorder.body store) index r.slot (r.buffer, state)
    Reports store ⟨r, state, [], control⟩ x.reports
      ⟨(r.manning x.result.1).buffering x.result.2.1, x.result.2.2, [], control⟩ := by
  by_cases poised : r.slot.phase? index = some .poised
  · have entered : Reports store ⟨r, state, [], control⟩ _ _ := .step (Step.enter _ index poised)
    have looked := entered.after (Step.look _ index (WorkerSlot.phase?_enter poised) List.not_mem_nil)
    rw [WorkerSlot.callBody_of_poised poised]
    by_cases few : r.buffer.pending.length < r.buffer.size
    · have turned := looked.after (Step.turnBack _ index r.buffer.size List.mem_cons_self few)
      simpa [Recorder.body, few, Recorder.manning, Recorder.buffering] using turned
    · have taken := looked.after (Step.take _ index r.buffer.size List.mem_cons_self (Nat.le_of_not_lt few))
      have handed := taken.after (Step.hand _ index _ List.mem_cons_self)
      simpa [Recorder.body, few, acts_log, List.filterMap_cons, Recorder.manning, Recorder.buffering] using handed
  · rw [WorkerSlot.callBody_of_not_poised poised]
    exact .refl _

theorem reports_wake (r : Recorder) (state : σ) (control : Control) (index : Nat) :
    let x := r.slot.wake index
    Reports store ⟨r, state, [], control⟩ x.reports ⟨r.manning x.result, state, [], control⟩ := by
  by_cases waiting : r.slot.phase? index = some .waiting
  · have woken : Reports store ⟨r, state, [], control⟩ _ _ := .step (Step.wake _ index waiting)
    simpa using woken
  · rw [WorkerSlot.wake_of_not_waiting waiting]
    exact .refl _

theorem reports_pass (r : Recorder) (state : σ) :
    let x := r.pass store state
    Reports store ⟨r, state, [], .free⟩ x.reports ⟨x.result.1, x.result.2, [], .free⟩ := by
  cases tracked : r.slot.tracked with
  | none =>
    simp only [Recorder.pass, WorkerSlot.pass, tracked]
    exact .refl _
  | some index =>
    have woken : Reports store ⟨r, state, [], .free⟩ _ _ := reports_wake r state .free index
    have called := woken.trans (reports_callBody _ state .free index)
    simpa [Recorder.pass, WorkerSlot.pass, tracked, Recorder.manning, Recorder.buffering] using called

/-! ## A whole stop -/

theorem reports_close (r : Recorder) (state : σ) :
    let x := r.flush store state
    Reports store ⟨r, state, [], .closing⟩ (x.mapReports .caller).reports
      ⟨x.result.1, x.result.2.2, [], .free⟩ := by
  have taken : Reports store ⟨r, state, [], .closing⟩ _ _ := .step (Step.close _ rfl)
  simpa [Recorder.flush, Recorder.buffering] using
    taken.trans (reports_handOver _ state true _)

theorem reports_stop (r : Recorder) (state : σ) (outside : ∀ index, r.slot.phase? index ≠ some .working) :
    let x := r.stop store state
    Reports store ⟨r, state, [], .free⟩ x.reports ⟨x.result.1, x.result.2.2, [], .free⟩ := by
  cases tracked : r.slot.tracked with
  | none =>
    have left : (r.slot.requestStop .outsider).result = (r.slot, none) :=
      WorkerSlot.requestStop_eq_iff.2 (.inl ⟨tracked, rfl, rfl⟩)
    have signalled : Reports store ⟨r, state, [], .free⟩ _ _ := .step (Step.stopNobody _ r.slot rfl left)
    have closed := signalled.trans (reports_close r state)
    simpa [Recorder.stop, WorkerSlot.stop, left, List.filterMap_cons] using closed
  | some index =>
    have takenOut : (r.slot.requestStop .outsider).result = (r.slot.takenOut index, some index) :=
      WorkerSlot.requestStop_eq_iff.2 (.inr (.inr ⟨index, tracked, Caller.noConfusion, rfl, rfl⟩))
    have taken : Reports store ⟨r, state, [], .free⟩ _ _ := .step (Step.stop _ _ index rfl takenOut)
    have called := taken.trans (reports_callBody _ state (.joining index) index)
    have woken := called.trans (reports_wake _ _ (.joining index) index)
    have ended := WorkerSlot.isLive_of_stopped (Recorder.body store) (r.buffer, state) (outside index)
    rw [← WorkerSlot.result_wake] at ended
    have joined := woken.after (Step.join _ index rfl ended)
    have closed := joined.trans (reports_close _ _)
    simpa [Recorder.stop, WorkerSlot.stop, takenOut, List.filterMap_cons, Recorder.manning, Recorder.buffering]
      using closed

end LiveRecorder

end VesselBus
