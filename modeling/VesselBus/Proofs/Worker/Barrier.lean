import VesselBus.Proofs.Steps
import VesselBus.Proofs.Worker.Single

/-!
# Who has ended when a stop returns

A stop waits for the worker that it takes out of the slot. A worker that another stop has taken out already it
does not see: it may find the slot empty, or a younger worker in it, and return while that one goes on. So all
the workers there were have ended when a stop returns exactly if those have that other stops were waiting for.
-/

namespace VesselBus

namespace LiveSlot

variable {trace marks : List SlotMark} {s t u : LiveSlot} {p : Party} {index : Nat}

/-- A whole call of stop, from the state in which it is made to the one in which it has returned. -/
inductive StopCall (p : Party) (s : LiveSlot) : LiveSlot → Prop where
  /-- There is nobody to wait for. -/
  | brief {marks : List SlotMark} {t : LiveSlot} :
    Step s marks t → .stopCalled p ∈ marks → .stopReturned p ∈ marks → StopCall p s t
  | long {first trace last : List SlotMark} {u v t : LiveSlot} :
    Step s first u → .stopCalled p ∈ first → .stopReturned p ∉ first →
    Steps Step u trace v → .stopReturned p ∉ trace → Step v last t → .stopReturned p ∈ last → StopCall p s t

/-! ## Waiting -/

theorem IsFree.not_mem_joins (free : s.IsFree p) (index : Nat) : (p, index) ∉ s.joins := by
  cases p with
  | outsider number => exact free index
  | worker number => exact free.2 index

theorem not_mem_said {α : Type} {m : SlotMark} (h : ∀ report, m ≠ .reported report)
    (x : Traced ThreadReport α) : m ∉ said x := by
  intro hm
  obtain ⟨report, -, rfl⟩ := List.mem_map.1 hm
  exact h report rfl

/-- A stop that is called returns at once or takes a worker out of the slot. -/
theorem Step.stopping (h : Step s marks t) (called : .stopCalled p ∈ marks) :
    s.IsFree p ∧
      (((s.slot.requestStop p.caller).result = (t.slot, none) ∧ .stopReturned p ∈ marks) ∨
      ∃ index, (s.slot.requestStop p.caller).result = (t.slot, some index) ∧
        t.joins = (p, index) :: s.joins ∧ .stopReturned p ∉ marks) := by
  have not_said {α : Type} (x : Traced ThreadReport α) : .stopCalled p ∉ said x := not_mem_said (by simp) x
  have not_said' {α : Type} (x : Traced ThreadReport α) : .stopReturned p ∉ said x := not_mem_said (by simp) x
  cases h with
  | signal q slot free left =>
    obtain rfl : p = q := by simpa [not_said] using called
    exact ⟨free, .inl ⟨left, by simp⟩⟩
  | takeOut q slot index free taken =>
    obtain rfl : p = q := by simpa [not_said] using called
    exact ⟨free, .inr ⟨index, taken, rfl, by simp [not_said']⟩⟩
  | _ => simp [not_said] at called

/-- A call that waits comes back by its own join, for it cannot make another call meanwhile. -/
theorem Step.joining (h : Step s marks t) (waits : (p, index) ∈ s.joins) (returned : .stopReturned p ∈ marks) :
    ∃ i, (p, i) ∈ s.joins ∧ s.slot.isLive i = false ∧ t.slot = s.slot := by
  have not_said {α : Type} (x : Traced ThreadReport α) : .stopReturned p ∉ said x := not_mem_said (by simp) x
  cases h with
  | join q i held ended =>
    obtain rfl : p = q := by simpa [not_said] using returned
    exact ⟨i, held, ended, rfl⟩
  | signal q slot free left =>
    obtain rfl : p = q := by simpa [not_said] using returned
    exact absurd waits (free.not_mem_joins index)
  | _ => simp [not_said] at returned

theorem Step.mem_joins_iff (h : Step s marks t) (waits : (p, index) ∈ s.joins) (inside : .stopReturned p ∉ marks)
    (i : Nat) : (p, i) ∈ t.joins ↔ (p, i) ∈ s.joins := by
  cases h with
  | takeOut q slot out free taken =>
    have other : p ≠ q := by
      rintro rfl
      exact free.not_mem_joins index waits
    simp [other]
  | join q out held ended =>
    have other : p ≠ q := by
      rintro rfl
      simp at inside
    exact List.mem_erase_of_ne (by simp [other])
  | _ => exact .rfl

theorem mem_joins_iff_of_waiting (run : Steps Step s trace t) (waits : (p, index) ∈ s.joins)
    (inside : .stopReturned p ∉ trace) (i : Nat) : (p, i) ∈ t.joins ↔ (p, i) ∈ s.joins := by
  induction run generalizing i with
  | refl => exact .rfl
  | tail run step ih =>
    obtain ⟨before, now⟩ := List.mem_append.not.1 inside |> not_or.1
    exact (step.mem_joins_iff ((ih before index).2 waits) now i).trans (ih before i)

/-! ## Ending -/

/-- A worker that has ended stays so. -/
theorem Step.isLive_of_old (h : Step s marks t) (old : index < s.slot.workers.length)
    (live : t.slot.isLive index = true) : s.slot.isLive index = true := by
  rcases h.workers with ⟨-, rfl⟩ | ⟨-, kept⟩
  · rcases WorkerSlot.isLive_of_spawned live with rfl | before
    · exact absurd old (Nat.lt_irrefl _)
    · exact before
  · exact (kept index live).1

theorem Step.length_le (h : Step s marks t) : s.slot.workers.length ≤ t.slot.workers.length := by
  rcases h.workers with ⟨-, rfl⟩ | ⟨same, -⟩
  · simp
  · exact same.ge

theorem isLive_of_old (run : Steps Step s trace t) (old : index < s.slot.workers.length) :
    index < t.slot.workers.length ∧ (t.slot.isLive index = true → s.slot.isLive index = true) := by
  induction run with
  | refl => exact ⟨old, id⟩
  | tail run step ih =>
    obtain ⟨there, before⟩ := ih
    exact ⟨there.trans_le step.length_le, fun live => before (step.isLive_of_old there live)⟩

theorem StopCall.run (stop : StopCall p s t) : ∃ trace, Steps Step s trace t := by
  cases stop with
  | brief step => exact ⟨_, .single step⟩
  | long first _ _ run _ last => exact ⟨_, ((Steps.single first).append run).tail last⟩

/-- The worker that a stop from outside finds in the slot has ended when it returns. -/
theorem StopCall.isLive_of_tracked {number : Nat} (stop : StopCall (.outsider number) s t)
    (tracked : s.slot.tracked = some index) : t.slot.isLive index = false := by
  cases stop with
  | brief step called returned =>
    obtain ⟨-, ⟨left, -⟩ | ⟨_, -, -, inside⟩⟩ := step.stopping called
    · rcases WorkerSlot.requestStop_eq_iff.1 left with ⟨empty, -⟩ | ⟨_, -, self, -⟩ | ⟨_, -, -, -, none⟩
      · exact absurd (empty.symm.trans tracked) (by simp)
      · cases self
      · cases none
    · exact absurd returned inside
  | @long first trace last u v t step called inside run waiting back returned =>
    obtain ⟨free, ⟨-, atOnce⟩ | ⟨out, taken, joins, -⟩⟩ := step.stopping called
    · exact absurd atOnce inside
    · -- It has taken the tracked worker out, and has nothing else to join.
      obtain ⟨-, -, none⟩ | ⟨_, -, self, -⟩ | ⟨_, here, -, -, same⟩ := WorkerSlot.requestStop_eq_iff.1 taken
      · cases none
      · cases self
      · obtain rfl : index = out := Option.some.inj (tracked.symm.trans (here.trans same.symm))
        have waits : (.outsider number, index) ∈ u.joins := by simp [joins]
        have still := mem_joins_iff_of_waiting run waits waiting
        obtain ⟨i, held, ended, same⟩ := back.joining ((still index).2 waits) returned
        have only : i = index := by simpa [joins, free.not_mem_joins] using (still i).1 held
        rw [same, ← only, ended]

theorem Accounted.run (inv : s.Accounted) (run : Steps Step s trace t) : t.Accounted := by
  induction run with
  | refl => exact inv
  | tail _ step ih => exact ih.step step

theorem accounted_new (id : NodeId) : Accounted { slot := { id } } := by
  intro index live
  simp [WorkerSlot.isLive] at live

/-- A worker that is alive when a stop returns is younger than the call, or another stop waited for it already. -/
theorem StopCall.awaited_of_live {number : Nat} (stop : StopCall (.outsider number) s t) (inv : s.Accounted)
    (old : index < s.slot.workers.length) (live : t.slot.isLive index = true) :
    s.slot.isLive index = true ∧ ∃ q, (q, index) ∈ s.joins := by
  obtain ⟨trace, run⟩ := stop.run
  have before := (isLive_of_old run old).2 live
  refine ⟨before, ?_⟩
  rcases inv index before with tracked | awaited
  · exact absurd ((stop.isLive_of_tracked tracked).symm.trans live) (by simp)
  · exact awaited

/-! ## The result -/

/-- When a stop that was called from outside returns, all the workers that were started before the call have ended
for good, exactly if those have for which other stops were waiting when it was called. -/
theorem isBarrier_iff (id : NodeId) {number : Nat} (run : Steps Step { slot := { id } } trace s)
    (stop : StopCall (.outsider number) s t) :
    (∀ index < s.slot.workers.length, ∀ later u, Steps Step t later u → u.slot.isLive index = false) ↔
      ∀ q index, (q, index) ∈ s.joins → s.slot.isLive index = true → t.slot.isLive index = false := by
  constructor
  · intro ended q index _ live
    exact ended index (WorkerSlot.lt_length_of_isLive live) [] t .refl
  · intro ended index old later u after
    by_contra live
    obtain ⟨between, stopping⟩ := stop.run
    have there := (isLive_of_old stopping old).1
    have returned := (isLive_of_old after there).2 (by simpa using live)
    obtain ⟨before, q, awaited⟩ := stop.awaited_of_live ((accounted_new id).run run) old returned
    exact absurd ((ended q index awaited before).symm.trans returned) (by simp)

/-- The first thread waits for a worker that it has taken out of the slot, and that is inside its body. -/
def awaiting : LiveSlot :=
  { slot := { id := .dbLogger, workers := [⟨.working, true, 1⟩] }, joins := [(.outsider 0, 0)] }

theorem steps_awaiting : ∃ trace, Steps Step { slot := { id := .dbLogger } } trace awaiting := by
  have started : Steps Step { slot := { id := .dbLogger } } _ _ :=
    .single (.start _ (.outsider 0) _ (by simp [IsFree]) rfl)
  exact ⟨_, (started.tail (.enter _ 0 rfl)).tail (.takeOut _ (.outsider 0) _ 0 (by simp [IsFree]) rfl)⟩

/-- The first thread waits for the older of two workers, and the second for the younger. -/
def bothAwaiting (workers : List Worker) : LiveSlot :=
  { slot := { id := .dbLogger, workers }, joins := [(.outsider 1, 1), (.outsider 0, 0)] }

/-- The second thread starts another worker meanwhile. Its stop waits for that one only, but the first worker has
come back from its body too when it returns. -/
theorem isBarrier_iff_overlapping : ∃ trace s t, Steps Step { slot := { id := .dbLogger } } trace s ∧
    StopCall (.outsider 1) s t ∧ s.joins = [(.outsider 0, 0)] ∧ s.slot.isLive 0 = true ∧ s.slot.isLive 1 = true ∧
    t.slot.isLive 0 = false ∧
    ((∀ index < s.slot.workers.length, ∀ later u, Steps Step t later u → u.slot.isLive index = false) ↔
      ∀ q index, (q, index) ∈ s.joins → s.slot.isLive index = true → t.slot.isLive index = false) := by
  obtain ⟨trace, steps⟩ := steps_awaiting
  have started := steps.tail (.start _ (.outsider 1) awaiting.slot.spawned (by simp [IsFree, awaiting]) rfl)
  have taken : Step ⟨awaiting.slot.spawned, awaiting.joins⟩ _
      (bothAwaiting [⟨.working, true, 1⟩, ⟨.poised, true, 0⟩]) :=
    .takeOut _ (.outsider 1) _ 1 (by simp [IsFree, awaiting]) rfl
  have ended : Steps Step (bothAwaiting [⟨.working, true, 1⟩, ⟨.poised, true, 0⟩]) _
      (bothAwaiting [⟨.ended false, true, 1⟩, ⟨.ended false, true, 1⟩]) :=
    ((((Steps.single (.enter _ 1 rfl)).tail (.leave _ 1 false ⟨rfl, by simp [bothAwaiting]⟩)).tail (.wake _ 1 rfl)).tail
      (.leave _ 0 false ⟨rfl, by simp [bothAwaiting]⟩)).tail (.wake _ 0 rfl)
  have stop : StopCall (.outsider 1) ⟨awaiting.slot.spawned, awaiting.joins⟩ _ :=
    .long taken List.mem_cons_self (by simp [not_mem_said]) ended (by simp [not_mem_said])
      (.join _ (.outsider 1) 1 List.mem_cons_self rfl) (by simp)
  exact ⟨_, _, _, started, stop, rfl, rfl, rfl, rfl, isBarrier_iff .dbLogger started stop⟩

/-- The second thread's stop finds nobody in the slot and returns, while the worker is inside its body. -/
theorem stop_returns_beside_worker : ∃ trace s t, Steps Step { slot := { id := .dbLogger } } trace s ∧
    StopCall (.outsider 1) s t ∧ 0 < s.slot.workers.length ∧ t.slot.phase? 0 = some .working := by
  obtain ⟨trace, steps⟩ := steps_awaiting
  have stop : Step awaiting _ _ := .signal _ (.outsider 1) _ (by simp [IsFree, awaiting]) rfl
  exact ⟨_, _, _, steps, .brief stop List.mem_cons_self (by simp), Nat.one_pos, rfl⟩

end LiveSlot

end VesselBus
