import VesselBus.Proofs.Worker.Live
import Mathlib.Data.List.Chain

/-!
# How many workers a slot has at once

A slot tracks one worker, and a start that finds it alive is refused. But a stop takes a worker out of the slot
before that worker has ended, and until it has ended a start finds the slot empty. So there is one live worker
at most exactly as long as nobody starts one while a stop still waits.
-/

namespace VesselBus

namespace LiveSlot

variable {marks : List SlotMark} {s t : LiveSlot}

def AtMostOne (s : LiveSlot) : Prop := ∀ i j, s.slot.isLive i = true → s.slot.isLive j = true → i = j

/-- No stop waits for a worker that has not ended. -/
def NoneAwaited (s : LiveSlot) : Prop := ∀ p index, (p, index) ∈ s.joins → s.slot.isLive index = false

/-- A step that starts a worker meets no stop that waits. -/
def Orderly (s t : LiveSlot) : Prop := s.slot.workers.length < t.slot.workers.length → s.NoneAwaited

/-- Every live worker is in the slot, or in the hands of a stop. -/
def Accounted (s : LiveSlot) : Prop :=
  ∀ index, s.slot.isLive index = true → s.slot.tracked = some index ∨ ∃ p, (p, index) ∈ s.joins

/-- A step starts a worker, or every worker that is alive after it was alive before it, and is either where it
was or in the hands of a stop. -/
theorem Step.workers (h : Step s marks t) :
    (s.slot.isRunning = false ∧ t = { s with slot := s.slot.spawned }) ∨
    (t.slot.workers.length = s.slot.workers.length ∧
      ∀ index, t.slot.isLive index = true → s.slot.isLive index = true ∧
        (s.slot.tracked = some index → t.slot.tracked = some index ∨ ∃ p, (p, index) ∈ t.joins) ∧
        ∀ p, (p, index) ∈ s.joins → (p, index) ∈ t.joins) := by
  have signalled (index i : Nat) (live : (s.slot.update index Worker.signal).isLive i = true) :
      s.slot.isLive i = true :=
    WorkerSlot.isLive_of_update (fun w alive => by rwa [w.isAlive_signal] at alive) live
  cases h with
  | start p slot free accepted =>
    obtain ⟨idle, rfl⟩ := WorkerSlot.start_eq_ok_iff.1 accepted
    exact .inl ⟨idle, rfl⟩
  | refuse | ask | log => exact .inr ⟨rfl, fun _ live => ⟨live, .inl, fun _ => id⟩⟩
  | starve p free idle =>
    rw [WorkerSlot.result_reap]
    refine .inr ⟨rfl, fun index live => ⟨live, fun tracked => ?_, fun _ => id⟩⟩
    have dead : s.slot.isLive index = false := by simpa [WorkerSlot.isRunning_eq, tracked] using idle
    exact absurd (dead.symm.trans live) Bool.false_ne_true
  | signal p slot free left =>
    rcases WorkerSlot.requestStop_eq_iff.1 left with ⟨-, rfl, -⟩ | ⟨at_, -, -, rfl, -⟩ | ⟨_, _, _, _, none⟩
    · exact .inr ⟨rfl, fun _ live => ⟨live, .inl, fun _ => id⟩⟩
    · exact .inr ⟨WorkerSlot.length_update .., fun index live => ⟨signalled at_ index live, .inl, fun _ => id⟩⟩
    · cases none
  | takeOut p slot out free taken =>
    rcases WorkerSlot.requestStop_eq_iff.1 taken with ⟨_, _, none⟩ | ⟨_, _, _, _, none⟩ | ⟨at_, tracked, -, rfl, same⟩
    · cases none
    · cases none
    · obtain rfl := Option.some.inj same
      refine .inr ⟨WorkerSlot.length_update .., fun index live => ⟨signalled out index live, ?_, ?_⟩⟩
      · rw [tracked]
        rintro ⟨⟩
        exact .inr ⟨p, List.mem_cons_self⟩
      · exact fun _ held => List.mem_cons_of_mem _ held
  | join p at_ waits ended =>
    refine .inr ⟨rfl, fun index live => ⟨live, .inl, fun q held => ?_⟩⟩
    have other : (q, index) ≠ (p, at_) := by
      rintro ⟨⟩
      exact absurd (ended.symm.trans live) Bool.false_ne_true
    exact (List.mem_erase_of_ne other).2 held
  | enter at_ =>
    refine .inr ⟨WorkerSlot.length_update .., fun index live => ⟨?_, .inl, fun _ => id⟩⟩
    exact WorkerSlot.isLive_of_update (fun w alive => by rwa [w.isAlive_enter] at alive) live
  | leave at_ panicked =>
    refine .inr ⟨WorkerSlot.length_update .., fun index live => ⟨?_, .inl, fun _ => id⟩⟩
    exact WorkerSlot.isLive_of_update (fun _ => Worker.isAlive_of_leave) live
  | wake at_ =>
    rw [WorkerSlot.result_wake]
    refine .inr ⟨WorkerSlot.length_update .., fun index live => ⟨?_, .inl, fun _ => id⟩⟩
    exact WorkerSlot.isLive_of_update (fun _ => Worker.isAlive_of_wake) live

theorem Accounted.step (inv : s.Accounted) (h : Step s marks t) : t.Accounted := by
  intro index live
  rcases h.workers with ⟨idle, rfl⟩ | ⟨-, kept⟩
  · rcases WorkerSlot.isLive_of_spawned live with new | old
    · exact .inl (congrArg some new.symm)
    · rcases inv index old with tracked | held
      · have dead : s.slot.isLive index = false := by simpa [WorkerSlot.isRunning_eq, tracked] using idle
        exact absurd (dead.symm.trans old) Bool.false_ne_true
      · exact .inr held
  · obtain ⟨before, inSlot, inHands⟩ := kept index live
    rcases inv index before with tracked | ⟨p, held⟩
    · exact inSlot tracked
    · exact .inr ⟨p, inHands p held⟩

/-- A worker that is started while a stop waits for another is alive at the same time as that one. -/
theorem Step.orderly_of_atMostOne (h : Step s marks t) (one : t.AtMostOne) : Orderly s t := by
  intro grew p index held
  rcases h.workers with ⟨-, rfl⟩ | ⟨same, -⟩
  · by_contra live
    have old : s.slot.isLive index = true := by simpa using live
    have alone := one index _ (WorkerSlot.isLive_spawned_old old) s.slot.isLive_spawned_new
    exact absurd (WorkerSlot.lt_length_of_isLive old) (by omega)
  · omega

theorem Step.atMostOne_of_orderly (h : Step s marks t) (inv : s.Accounted) (one : s.AtMostOne)
    (orderly : Orderly s t) : t.AtMostOne := by
  intro i j hi hj
  rcases h.workers with ⟨idle, rfl⟩ | ⟨-, kept⟩
  · have onlyNew (index : Nat) (live : s.slot.spawned.isLive index = true) : index = s.slot.workers.length := by
      rcases WorkerSlot.isLive_of_spawned live with new | old
      · exact new
      · have dead : s.slot.isLive index = false := by
          rcases inv index old with tracked | ⟨p, held⟩
          · simpa [WorkerSlot.isRunning_eq, tracked] using idle
          · exact orderly (by simp) p index held
        exact absurd (dead.symm.trans old) Bool.false_ne_true
    exact (onlyNew i hi).trans (onlyNew j hj).symm
  · exact one i j (kept i hi).1 (kept j hj).1

theorem isChain_orderly_iff {states : List LiveSlot} (inv : s.Accounted) (one : s.AtMostOne)
    (run : (s :: states).IsChain Leads) :
    (∀ t ∈ states, t.AtMostOne) ↔ (s :: states).IsChain Orderly := by
  induction states generalizing s with
  | nil => simp
  | cons t rest ih =>
    obtain ⟨⟨marks, step⟩, run⟩ := List.isChain_cons_cons.1 run
    rw [List.forall_mem_cons, List.isChain_cons_cons]
    constructor
    · rintro ⟨one', others⟩
      exact ⟨step.orderly_of_atMostOne one', (ih (inv.step step) one' run).1 others⟩
    · rintro ⟨orderly, others⟩
      have one' := step.atMostOne_of_orderly inv one orderly
      exact ⟨one', (ih (inv.step step) one' run).2 others⟩

/-! ## The result -/

/-- A run of a new slot never has two live workers exactly if no worker is started in it while a stop waits for
one that has not ended. -/
theorem atMostOne_iff_orderly (id : NodeId) {states : List LiveSlot}
    (run : ({ slot := { id } } :: states : List LiveSlot).IsChain Leads) :
    (∀ s ∈ states, s.AtMostOne) ↔ ({ slot := { id } } :: states : List LiveSlot).IsChain Orderly := by
  have none (index : Nat) : ({ id } : WorkerSlot).isLive index = false := by simp [WorkerSlot.isLive]
  refine isChain_orderly_iff ?_ ?_ run
  · intro index live
    exact absurd ((none index).symm.trans live) Bool.false_ne_true
  · intro i j live
    exact absurd ((none i).symm.trans live) Bool.false_ne_true

/-- The first thread starts a worker and stops it. While it waits for the worker to come back from its body, the
second thread starts another. -/
def crowded : List LiveSlot :=
  let first : WorkerSlot := ({ id := .dbLogger } : WorkerSlot).spawned
  let entered := first.update 0 Worker.enter
  let taken := ((entered.requestStop .outsider).result).1
  let joins := [(.outsider 0, 0)]
  [⟨first, []⟩, ⟨entered, []⟩, ⟨taken, joins⟩, ⟨taken.spawned, joins⟩, ⟨taken.spawned.update 1 Worker.enter, joins⟩]

theorem isChain_crowded : ({ slot := { id := .dbLogger } } :: crowded : List LiveSlot).IsChain Leads := by
  refine .cons_cons ?_ (.cons_cons ?_ (.cons_cons ?_ (.cons_cons ?_ (.cons_cons ?_ (.singleton _)))))
  · exact ⟨_, .start _ (.outsider 0) _ (by simp [IsFree]) rfl⟩
  · exact ⟨_, .enter _ 0 rfl⟩
  · exact ⟨_, .takeOut _ (.outsider 0) _ 0 (by simp [IsFree]) rfl⟩
  · exact ⟨_, .start _ (.outsider 1) _ (by simp [IsFree]) rfl⟩
  · exact ⟨_, .enter _ 1 rfl⟩

theorem atMostOne_iff_orderly_crowded :
    (∀ s ∈ crowded, s.AtMostOne) ↔ ({ slot := { id := .dbLogger } } :: crowded : List LiveSlot).IsChain Orderly :=
  atMostOne_iff_orderly .dbLogger isChain_crowded

theorem two_workers_at_once : ∃ states : List LiveSlot,
    ({ slot := { id := .dbLogger } } :: states).IsChain Leads ∧
      ∃ s ∈ states, s.slot.phase? 0 = some .working ∧ s.slot.phase? 1 = some .working ∧ ¬ s.AtMostOne := by
  refine ⟨crowded, isChain_crowded, _, List.mem_of_getLast? rfl, rfl, rfl, fun one => ?_⟩
  exact absurd (one 0 1 rfl rfl) Nat.zero_ne_one

end LiveSlot

end VesselBus
