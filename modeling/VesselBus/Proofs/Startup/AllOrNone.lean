import VesselBus.Proofs.Startup.Order
import VesselBus.Proofs.Startup.Stations

/-!
# All or none

The nodes of a set are started in order. If one has a worker already, be it from before or from earlier in the same
call, those that the call has started are stopped again, and no others: so the workers are those there were before.
-/

namespace VesselBus

variable {σ : Type} {q : Equipment σ} {w : Harbour σ} {ref : NodeRef}

namespace Harbour

/-- Nodes are who they were, and no call has panicked that had not. -/
structure Alike (w w' : Harbour σ) : Prop where
  identity : w'.identity = w.identity
  panic : w'.panic = w.panic

theorem worker?_put (w : Harbour σ) (ref : NodeRef) (x : Station) (memory : σ) :
    (w.put ref x memory).worker? = Function.update w.worker? ref x.worker? := by
  funext other
  rcases eq_or_ne other ref with rfl | ne
  · simp [worker?, put]
  · simp [worker?, put, ne]

theorem identity_put {x : Station} (same : x.identity = w.identity ref) (memory : σ) :
    (w.put ref x memory).identity = w.identity := by
  funext other
  rcases eq_or_ne other ref with rfl | ne
  · simpa [identity, put] using same
  · simp [identity, put, ne]

end Harbour

/-! ## One call -/

namespace Equipment.Steady

theorem pause (steady : q.Steady) (w : Harbour σ) :
    (q.pause w).worker? = w.worker? ∧ w.Alike (q.pause w) :=
  ⟨steady.worker? w, steady.identity w, steady.panic w⟩

theorem start_of_running (steady : q.Steady) (running : w.worker? ref ≠ none) :
    ∃ w', (q.start ref w).result = (.error (.alreadyRunning (w.identity ref).2), w') ∧ w'.worker? = w.worker? ∧
      w.Alike w' := by
  obtain ⟨workers, alike⟩ := steady.pause w
  have refused : ((q.pause w).station ref).start.result = .error (.alreadyRunning (w.identity ref).2) := by
    rw [← alike.identity]
    refine Station.start_of_running (Station.isSome_worker?_iff.1 ?_)
    rw [Option.isSome_iff_ne_none, ← Harbour.worker?, workers]
    exact running
  refine ⟨q.pause w, ?_, workers, alike⟩
  simp [Equipment.start, heard, refused]

theorem result_stop (steady : q.Steady) (ref : NodeRef) (w : Harbour σ) :
    (q.stop ref w).result.identity = w.identity ∧
      ((q.stop ref w).result.panic = none →
        w.panic = none ∧ (q.stop ref w).result.worker? = Function.update w.worker? ref none) ∧
      ((∀ ref, (q.store ref).NeverPanics) → w.panic = none → (q.stop ref w).result.panic = none) := by
  cases panicked : w.panic with
  | some cause =>
    have nothing : q.stop ref w = pure w := if_pos (by rw [panicked]; rfl)
    rw [nothing, Traced.result_pure, panicked]
    exact ⟨rfl, nofun, fun _ => nofun⟩
  | none =>
    obtain ⟨workers, alike⟩ := steady.pause w
    obtain ⟨stopped, same, sound⟩ := Station.result_stop (q.device ref) (q.store ref) ((q.pause w).memory ref)
      (q.pause w).outbox ((q.pause w).station ref)
    generalize outcome : (((q.pause w).station ref).stop (q.device ref) (q.store ref) ((q.pause w).memory ref)
      (q.pause w).outbox).result = x at stopped same sound
    have result : (q.stop ref w).result =
        { (q.pause w).put ref x.1 x.2.2.1 with panic := x.2.1, outbox := x.2.2.2 } := by
      simp [Equipment.stop, panicked, heard, outcome]
    rw [result]
    refine ⟨(Harbour.identity_put same x.2.2.1).trans alike.identity, fun _ => ⟨rfl, ?_⟩, ?_⟩
    · rw [← workers, ← stopped]
      exact Harbour.worker?_put (q.pause w) ref x.1 x.2.2.1
    · exact fun never _ => sound (never ref)

end Equipment.Steady

/-! ## Calls one after another -/

/-- Stopping nodes leaves the others alone. If a store panics, those that are left are not stopped any more. -/
theorem Equipment.Steady.result_quiet (steady : q.Steady) (refs : List NodeRef) (w : Harbour σ) :
    (q.fleet.quiet refs w).result.identity = w.identity ∧
      ((q.fleet.quiet refs w).result.panic = none →
        w.panic = none ∧ ∀ r, (q.fleet.quiet refs w).result.worker? r = if r ∈ refs then none else w.worker? r) ∧
      ((∀ ref, (q.store ref).NeverPanics) → w.panic = none → (q.fleet.quiet refs w).result.panic = none) := by
  induction refs generalizing w with
  | nil => exact ⟨rfl, fun fine => ⟨fine, fun r => rfl⟩, fun _ fine => fine⟩
  | cons ref rest ih =>
    obtain ⟨same, stopped, sound⟩ := steady.result_stop ref w
    obtain ⟨same', stopped', sound'⟩ := ih (q.stop ref w).result
    refine ⟨same'.trans same, fun fine => ?_, fun never fine => sound' never (sound never fine)⟩
    obtain ⟨fine', workers'⟩ := stopped' fine
    obtain ⟨fine'', workers⟩ := stopped fine'
    refine ⟨fine'', fun r => (workers' r).trans ?_⟩
    rw [workers]
    rcases eq_or_ne r ref with rfl | ne
    · simp
    · simp [ne]

/-- How a start of these nodes comes out, when others have been started before them. -/
inductive StartUp (q : Equipment σ) (w : Harbour σ) (started nodes : List NodeRef) :
    Except StartupError Unit × Harbour σ → Prop where
  | up (w' : Harbour σ) (distinct : nodes.Nodup) (idle : ∀ ref ∈ nodes, w.worker? ref = none)
    (fine : w'.panic = none) (running : ∀ ref ∈ nodes, (w'.worker? ref).isSome = true)
    (others : ∀ ref ∉ nodes, w'.worker? ref = w.worker? ref) : StartUp q w started nodes (.ok (), w')
  | undone (before after : List NodeRef) (ref : NodeRef) (w' : Harbour σ) (split : nodes = before ++ ref :: after)
    (distinct : before.Nodup) (idle : ∀ r ∈ before, w.worker? r = none)
    (busy : w.worker? ref ≠ none ∨ ref ∈ before)
    (restored : w'.panic = none → ∀ r, w'.worker? r = if r ∈ started then none else w.worker? r)
    (returns : (∀ ref, (q.store ref).NeverPanics) → w'.panic = none) :
    StartUp q w started nodes
      (.error (.start (w.identity ref).1.name (.alreadyRunning (w.identity ref).2)), w')

/-- One node was started before these were. -/
theorem StartUp.after {w w' : Harbour σ} {started nodes : List NodeRef} {worker : Nat}
    {outcome : Except StartupError Unit × Harbour σ} (h : StartUp q w' (ref :: started) nodes outcome)
    (idle : w.worker? ref = none) (workers : w'.worker? = Function.update w.worker? ref (some worker))
    (alike : w.Alike w') : StartUp q w started (ref :: nodes) outcome := by
  have ne_of_idle {r : NodeRef} (idle' : w'.worker? r = none) : r ≠ ref := by
    rintro rfl
    simp [workers] at idle'
  have kept {r : NodeRef} (ne : r ≠ ref) : w'.worker? r = w.worker? r := by
    rw [workers, Function.update_of_ne ne]
  cases h with
  | up w'' distinct idle' fine running others =>
    have fresh : ref ∉ nodes := fun hm => ne_of_idle (idle' ref hm) rfl
    refine .up w'' (List.nodup_cons.2 ⟨fresh, distinct⟩) ?_ fine ?_ ?_
    · intro r hm
      rcases List.mem_cons.1 hm with same | hm
      · rwa [same]
      · exact kept (ne_of_idle (idle' r hm)) ▸ idle' r hm
    · intro r hm
      rcases List.mem_cons.1 hm with same | hm
      · rw [same, others ref fresh, workers, Function.update_self]
        rfl
      · exact running r hm
    · intro r hm
      obtain ⟨ne, hm⟩ := not_or.1 (mt List.mem_cons.2 hm)
      rw [others r hm, kept ne]
  | undone before after r w'' split distinct idle' busy restored returns =>
    rw [alike.identity]
    have fresh : ref ∉ before := fun hm => ne_of_idle (idle' ref hm) rfl
    refine .undone (ref :: before) after r w'' (congrArg (ref :: ·) split) (List.nodup_cons.2 ⟨fresh, distinct⟩) ?_ ?_
      ?_ returns
    · intro r hm
      rcases List.mem_cons.1 hm with same | hm
      · rwa [same]
      · exact kept (ne_of_idle (idle' r hm)) ▸ idle' r hm
    · rcases eq_or_ne r ref with rfl | ne
      · exact .inr List.mem_cons_self
      · exact busy.imp (kept ne ▸ ·) (List.mem_cons_of_mem _)
    · intro fine r
      rw [restored fine r]
      rcases eq_or_ne r ref with rfl | ne
      · simp [idle]
      · simp [ne, kept ne]

/-- A sensor that is idle, and a recorder that has a worker. -/
def moored : Harbour Unit where
  station ref :=
    if ref = 0 then .sensor (.create .canWindSensor .zero)
    else .recorder { Recorder.create 1 .zero with slot := { id := Recorder.id, workers := [{}], tracked := some 0 } }
  memory _ := ()

end VesselBus
