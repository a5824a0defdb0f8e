/-!
# Runs of steps

What a machine can do is given by its steps, each of which leaves some marks. A run is any number of them.
-/

namespace VesselBus

variable {S M E : Type} {Step : S → List M → S → Prop}

/-- Any number of steps, with the marks that they leave. -/
inductive Steps (Step : S → List M → S → Prop) (start : S) : List M → S → Prop where
  | refl : Steps Step start [] start
  | tail {trace marks : List M} {s t : S} :
    Steps Step start trace s → Step s marks t → Steps Step start (trace ++ marks) t

theorem Steps.single {s t : S} {marks : List M} (h : Step s marks t) : Steps Step s marks t := .tail .refl h

theorem Steps.append {s t u : S} {first second : List M} (h : Steps Step s first t) (h' : Steps Step t second u) :
    Steps Step s (first ++ second) u := by
  induction h' with
  | refl => rwa [List.append_nil]
  | tail _ step ih => rw [← List.append_assoc]; exact .tail ih step

theorem Steps.exists_of_mem {s t : S} {trace : List M} {m : M} (h : Steps Step s trace t) (hm : m ∈ trace) :
    ∃ before u marks v, Steps Step s before u ∧ Step u marks v ∧ m ∈ marks := by
  induction h with
  | refl => simp at hm
  | @tail before marks u v run step ih =>
    rcases List.mem_append.1 hm with earlier | now
    · exact ih earlier
    · exact ⟨before, u, marks, v, run, step, now⟩

theorem Steps.mono {Step' : S → List M → S → Prop} {s t : S} {trace : List M} (h : Steps Step s trace t)
    (sub : ∀ s marks t, Step s marks t → Step' s marks t) : Steps Step' s trace t := by
  induction h with
  | refl => exact .refl
  | tail _ step ih => exact .tail ih (sub _ _ _ step)

/-- A step from one state of a kind to another. -/
def Within (P : S → Prop) (Step : S → List M → S → Prop) (s : S) (marks : List M) (t : S) : Prop :=
  P s ∧ Step s marks t ∧ P t

/-- A run that begins in a state of a kind stays among them, or there is a step that leaves them first. -/
theorem Steps.exit {s t : S} {trace : List M} (P : S → Prop) (h : Steps Step s trace t) (start : P s) :
    (Steps (Within P Step) s trace t ∧ P t) ∨
    ∃ before u marks v after, trace = before ++ marks ++ after ∧ Steps (Within P Step) s before u ∧ P u ∧
      Step u marks v ∧ ¬ P v ∧ Steps Step v after t := by
  induction h with
  | refl => exact .inl ⟨.refl, start⟩
  | @tail trace marks u v run step ih =>
    rcases ih with ⟨inside, kind⟩ | ⟨before, x, out, y, after, rfl, inside, kind, left, notKind, rest⟩
    · by_cases stays : P v
      · exact .inl ⟨.tail inside ⟨kind, step, stays⟩, stays⟩
      · exact .inr ⟨trace, u, marks, v, [], by simp, inside, kind, step, stays, .refl⟩
    · exact .inr ⟨before, x, out, y, after ++ marks, by simp, inside, kind, left, notKind, .tail rest step⟩

/-- Steps whose marks report just these events. -/
def Reports (Step : S → List M → S → Prop) (event? : M → Option E) (s : S) (events : List E) (t : S) : Prop :=
  ∃ trace, Steps Step s trace t ∧ trace.filterMap event? = events

namespace Reports

variable {event? : M → Option E} {s t u : S}

theorem refl (s : S) : Reports Step event? s [] s := ⟨[], .refl, rfl⟩

theorem step {marks : List M} (h : Step s marks t) : Reports Step event? s (marks.filterMap event?) t :=
  ⟨marks, .single h, rfl⟩

theorem trans {first second : List E} (h : Reports Step event? s first t) (h' : Reports Step event? t second u) :
    Reports Step event? s (first ++ second) u := by
  obtain ⟨xs, hx, rfl⟩ := h
  obtain ⟨ys, hy, rfl⟩ := h'
  exact ⟨xs ++ ys, hx.append hy, List.filterMap_append⟩

theorem after {events : List E} {marks : List M} (h : Reports Step event? s events t) (h' : Step t marks u) :
    Reports Step event? s (events ++ marks.filterMap event?) u :=
  h.trans (.step h')

end Reports

end VesselBus
