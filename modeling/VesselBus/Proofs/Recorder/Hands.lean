import VesselBus.Proofs.Recorder.Live
import VesselBus.Proofs.Worker.Single

/-!
# Whose hands a batch can be in

A worker that has something in hand is inside its body, so it is alive; and while the recorder is being stopped
nobody starts another. So when a stop has waited for its worker, no worker has anything in hand.
-/

namespace VesselBus

def Control.isStopping : Control → Bool
  | .joining _ | .closing | .storing true _ => true
  | .free | .storing false _ => false

def Control.joins : Control → List (Party × Nat)
  | .joining index => [(.outsider 0, index)]
  | _ => []

namespace LiveRecorder

variable {σ : Type} {store : LogStore σ} {marks : List RecorderMark} {s t : LiveRecorder σ}

def thread (s : LiveRecorder σ) : LiveSlot := { slot := s.recorder.slot, joins := s.control.joins }

structure Held (s : LiveRecorder σ) : Prop where
  accounted : s.thread.Accounted
  distinct : (s.errands.map (·.1)).Nodup
  busy : ∀ x ∈ s.errands, s.recorder.slot.phase? x.1 = some .working
  untracked : s.control.isStopping = true → s.recorder.slot.tracked = none

theorem slot_refresh (settings : Option Settings) (r : Recorder) : (r.refresh settings).slot = r.slot := by
  unfold Recorder.refresh
  cases settings with
  | none => rfl
  | some settings => dsimp only; split <;> split <;> rfl

theorem slot_receive (settings : Option Settings) (now : TimeOfDay) (m : Message) (r : Recorder) :
    (r.receive settings now m).slot = r.slot := by
  unfold Recorder.receive
  split
  · exact slot_refresh settings r
  · rfl

theorem not_mem_joins (c : Control) (index i : Nat) : (.worker index, i) ∉ c.joins := by
  cases c <;> simp [Control.joins]

/-- To the slot, a step of the recorder is a step of the slot or none. -/
theorem Step.thread (h : Step store s marks t)
    (busy : ∀ x ∈ s.errands, s.recorder.slot.phase? x.1 = some .working) :
    t.thread = s.thread ∨ LiveSlot.Leads s.thread t.thread := by
  have isFree (free : s.control = .free) : s.thread.IsFree (.outsider 0) := by
    simp [LiveSlot.IsFree, LiveRecorder.thread, Control.joins, free]
  cases h with
  | deliver settings now m => exact .inl (by simp [LiveRecorder.thread, slot_receive])
  | refresh settings => exact .inl (by simp [LiveRecorder.thread, slot_refresh])
  | open_ | look | take | refuse => exact .inl rfl
  | flush free => exact .inl (by simp [LiveRecorder.thread, free, Control.joins, Recorder.buffering])
  | close closing => exact .inl (by simp [LiveRecorder.thread, closing, Control.joins, Recorder.buffering])
  | store stopping batch state storing => exact .inl (by simp [LiveRecorder.thread, storing, Control.joins])
  | storePanics stopping batch cause state storing =>
    exact .inl (by simp [LiveRecorder.thread, storing, Control.joins])
  | start slot free accepted => exact .inr ⟨_, .start _ (.outsider 0) slot (isFree free) accepted⟩
  | starve free idle => exact .inr ⟨_, .starve _ (.outsider 0) (isFree free) idle⟩
  | stopNobody slot free left =>
    have step := LiveSlot.Step.signal _ (.outsider 0) slot (isFree free) left
    exact .inr ⟨_, by simpa [LiveRecorder.thread, free, Control.joins, Recorder.manning] using step⟩
  | stop slot index free taken =>
    have step := LiveSlot.Step.takeOut _ (.outsider 0) slot index (isFree free) taken
    exact .inr ⟨_, by simpa [LiveRecorder.thread, free, Control.joins, Recorder.manning] using step⟩
  | join index waits ended =>
    have step := LiveSlot.Step.join s.thread (.outsider 0) index
      (by simp [LiveRecorder.thread, waits, Control.joins]) ended
    exact .inr ⟨_, by simpa [LiveRecorder.thread, waits, Control.joins] using step⟩
  | enter index poised => exact .inr ⟨_, .enter _ index poised⟩
  | turnBack index size sized => exact .inr ⟨_, .leave _ index _ ⟨busy _ sized, not_mem_joins _ _⟩⟩
  | hand index batch carrying => exact .inr ⟨_, .leave _ index _ ⟨busy _ carrying, not_mem_joins _ _⟩⟩
  | wake index waiting => exact .inr ⟨_, .wake _ index waiting⟩

theorem distinct_erase (distinct : (s.errands.map (·.1)).Nodup) {x : Nat × Errand} (h : x ∈ s.errands) :
    (x.1 :: (s.errands.erase x).map (·.1)).Nodup :=
  ((List.perm_cons_erase h).map Prod.fst).nodup_iff.1 distinct

theorem Step.distinct (h : Step store s marks t) (distinct : (s.errands.map (·.1)).Nodup) :
    (t.errands.map (·.1)).Nodup := by
  cases h with
  | look index working fresh => exact List.nodup_cons.2 ⟨fresh, distinct⟩
  | take index size sized => exact distinct_erase distinct sized
  | turnBack index size sized => exact (List.nodup_cons.1 (distinct_erase distinct sized)).2
  | hand index batch carrying => exact (List.nodup_cons.1 (distinct_erase distinct carrying)).2
  | _ => exact distinct

theorem Step.busy (h : Step store s marks t) (inv : Held s) :
    ∀ x ∈ t.errands, t.recorder.slot.phase? x.1 = some .working := by
  -- A worker that is not working has nothing in hand.
  have others {index : Nat} {phase : WorkerPhase} (at_ : s.recorder.slot.phase? index = some phase)
      (notWorking : phase ≠ .working) (x : Nat × Errand) (hx : x ∈ s.errands) : index ≠ x.1 := by
    rintro rfl
    exact notWorking (Option.some.inj (at_.symm.trans (inv.busy x hx)))
  -- A worker that leaves its body drops its errand, and the others are where they were.
  have dropped {y : Nat × Errand} (hy : y ∈ s.errands) (panicked : Bool) (x : Nat × Errand) (hx : x ∈ s.errands.erase y) :
      (s.recorder.slot.leave y.1 panicked).phase? x.1 = some .working := by
    have gone := (List.nodup_cons.1 (distinct_erase inv.distinct hy)).1
    have other : y.1 ≠ x.1 := fun same => gone (List.mem_map.2 ⟨x, hx, same.symm⟩)
    exact (WorkerSlot.phase?_update_of_ne other).trans (inv.busy x (List.mem_of_mem_erase hx))
  intro x hx
  cases h with
  | deliver settings now m =>
    rw [slot_receive]
    exact inv.busy x hx
  | refresh settings =>
    rw [slot_refresh]
    exact inv.busy x hx
  | start slot free accepted =>
    obtain ⟨-, rfl⟩ := WorkerSlot.start_eq_ok_iff.1 accepted
    exact WorkerSlot.phase?_spawned (inv.busy x hx)
  | starve =>
    rw [WorkerSlot.result_reap]
    exact inv.busy x hx
  | stopNobody slot free left => exact (WorkerSlot.phase?_requestStop left).trans (inv.busy x hx)
  | stop slot index free taken => exact (WorkerSlot.phase?_requestStop taken).trans (inv.busy x hx)
  | enter index poised =>
    exact (WorkerSlot.phase?_update_of_ne (others poised (by simp) x hx)).trans (inv.busy x hx)
  | wake index waiting =>
    rw [WorkerSlot.result_wake]
    exact (WorkerSlot.phase?_update_of_ne (others waiting (by simp) x hx)).trans (inv.busy x hx)
  | look index working fresh =>
    rcases List.mem_cons.1 hx with rfl | hx
    · exact working
    · exact inv.busy x hx
  | take index size sized =>
    rcases List.mem_cons.1 hx with rfl | hx
    · exact inv.busy (index, .sized size) sized
    · exact inv.busy x (List.mem_of_mem_erase hx)
  | turnBack index size sized => exact dropped sized false x hx
  | hand index batch carrying => exact dropped carrying _ x hx
  | _ => exact inv.busy x hx

theorem Step.untracked (h : Step store s marks t)
    (untracked : s.control.isStopping = true → s.recorder.slot.tracked = none)
    (stopping : t.control.isStopping = true) : t.recorder.slot.tracked = none := by
  cases h with
  | deliver settings now m =>
    rw [slot_receive]
    exact untracked stopping
  | refresh settings =>
    rw [slot_refresh]
    exact untracked stopping
  | start slot free => simp [free, Control.isStopping] at stopping
  | starve => exact congrArg WorkerSlot.tracked (WorkerSlot.result_reap _)
  | flush | store | storePanics => simp [Control.isStopping] at stopping
  | stopNobody slot free left => exact WorkerSlot.tracked_requestStop left
  | stop slot index free taken => exact WorkerSlot.tracked_requestStop taken
  | join index waits => exact untracked (by rw [waits]; rfl)
  | close closing => exact untracked (by rw [closing]; rfl)
  | wake index =>
    rw [WorkerSlot.result_wake]
    exact untracked stopping
  | _ => exact untracked stopping

theorem Held.step (inv : Held s) (h : Step store s marks t) : Held t := by
  refine ⟨?_, h.distinct inv.distinct, h.busy inv, h.untracked inv.untracked⟩
  rcases h.thread inv.busy with same | ⟨_, step⟩
  · rw [same]
    exact inv.accounted
  · exact inv.accounted.step step

theorem Reachable.held {trace : List RecorderMark} (h : Reachable store trace s) : Held s := by
  induction h with
  | new => exact ⟨fun _ live => by simp [thread, Recorder.create, WorkerSlot.isLive] at live, List.nodup_nil,
      fun _ hx => by simp at hx, fun _ => rfl⟩
  | step _ taken inv => exact inv.step taken

/-- Only the thread that starts workers also stops them, so it never starts one while it waits. -/
theorem Step.orderly (h : Step store s marks t) : LiveSlot.Orderly s.thread t.thread := by
  intro grew p index held
  have waits : s.control.joins ≠ [] := List.ne_nil_of_mem held
  cases h with
  | start _ free | refuse _ free | starve free | flush free | stopNobody _ free | stop _ _ free =>
    simp [free, Control.joins] at waits
  | deliver => simp [LiveRecorder.thread, slot_receive] at grew
  | refresh => simp [LiveRecorder.thread, slot_refresh] at grew
  | enter | turnBack | hand =>
    simp [LiveRecorder.thread, Recorder.manning, WorkerSlot.leave, WorkerSlot.length_update] at grew
  | wake => simp [LiveRecorder.thread, Recorder.manning, WorkerSlot.result_wake, WorkerSlot.length_update] at grew
  | _ => simp [LiveRecorder.thread, Recorder.buffering] at grew

theorem Reachable.atMostOne {trace : List RecorderMark} (h : Reachable store trace s) : s.thread.AtMostOne := by
  induction h with
  | new => exact fun _ _ live => by simp [thread, Recorder.create, WorkerSlot.isLive] at live
  | step before taken one =>
    rcases taken.thread before.held.busy with same | ⟨_, step⟩
    · rwa [same]
    · exact step.atMostOne_of_orderly before.held.accounted one taken.orderly

theorem Reachable.length_errands_le {trace : List RecorderMark} (h : Reachable store trace s) :
    s.errands.length ≤ 1 := by
  have live (x : Nat × Errand) (hx : x ∈ s.errands) : s.thread.slot.isLive x.1 = true :=
    WorkerSlot.isLive_of_working (h.held.busy x hx)
  match errands : s.errands with
  | [] | [_] => simp
  | x :: y :: rest =>
    have same : x.1 = y.1 := h.atMostOne x.1 y.1 (live x (by simp [errands])) (live y (by simp [errands]))
    have distinct := h.held.distinct
    simp [errands, same] at distinct

/-- Once a stop has waited for its worker, no worker has anything in hand. -/
theorem Held.errands_eq_nil (inv : Held s) (stopping : s.control.isStopping = true)
    (joined : s.control.joins = []) : s.errands = [] := by
  refine List.eq_nil_iff_forall_not_mem.2 fun x hx => ?_
  rcases inv.accounted x.1 (WorkerSlot.isLive_of_working (inv.busy x hx)) with tracked | ⟨p, held⟩
  · exact absurd ((inv.untracked stopping).symm.trans tracked) (by simp)
  · simp [thread, joined] at held

end LiveRecorder

end VesselBus
