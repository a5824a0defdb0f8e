import VesselBus.Proofs.Places
import VesselBus.Time.LoopPeriod
import Mathlib.Logic.Relation

/-!
# Periods that are shared

Handles that were cloned from each other, directly or through others, are a family, and a family has one period: the
duration that any of them was given last, cut down to whole microseconds and to as many of them as there can be.
-/

namespace VesselBus

/-! ## Rounding -/

namespace LoopPeriod

theorem toNat_micros_ofDuration (d : Duration) : (ofDuration d).micros.toNat = min (d.nanos / 1000) most := by
  have small : min (d.nanos / 1000) most < 2 ^ 64 := by
    unfold most
    omega
  exact UInt64.toNat_ofNat_of_lt' small

/-- A period is exact as a duration, the longest one too. -/
theorem ofDuration_duration (p : LoopPeriod) : ofDuration p.duration = p := by
  have bound := p.micros.toNat_lt
  have whole : p.duration.nanos / 1000 = p.micros.toNat := Nat.mul_div_cancel p.micros.toNat (by decide)
  have same : (ofDuration p.duration).micros = p.micros := by
    apply UInt64.toNat_inj.1
    rw [toNat_micros_ofDuration, whole]
    unfold most
    omega
  cases p
  exact congrArg mk same

/-- What is left of a duration that a handle was given. -/
def kept (d : Duration) : Duration := (ofDuration d).duration

theorem nanos_kept (d : Duration) : (kept d).nanos = min (d.nanos / 1000) most * 1000 := nanos_duration_ofDuration d

theorem kept_kept (d : Duration) : kept (kept d) = kept d := congrArg duration (ofDuration_duration _)

/-- What it is to round down to a period. -/
structure RoundsDown (d : Duration) : Prop where
  micros : (kept d).nanos = min (d.nanos / 1000) (2 ^ (64 : Nat) - 1) * 1000
  parts : ∀ seconds nanos, nanos < nanosPerSecond → d.nanos = seconds * nanosPerSecond + nanos →
    (kept d).nanos = min (seconds * 1000000 + nanos / 1000) (2 ^ (64 : Nat) - 1) * 1000
  inRange : min (d.nanos / 1000) (2 ^ (64 : Nat) - 1) * 1000 < 2 ^ (64 : Nat) * nanosPerSecond
  le : (kept d).nanos ≤ d.nanos
  mono : ∀ d' : Duration, d.nanos ≤ d'.nanos → (kept d).nanos ≤ (kept d').nanos
  again : kept (kept d) = kept d

theorem roundsDown (d : Duration) : RoundsDown d := by
  have nanos := nanos_kept d
  constructor
  case micros => exact nanos
  case parts =>
    intro seconds rest small split
    rw [nanos, split]
    unfold most nanosPerSecond at *
    omega
  case inRange =>
    unfold nanosPerSecond
    omega
  case le => omega
  case mono =>
    intro d' le
    rw [nanos, nanos_kept]
    omega
  case again => exact kept_kept d

end LoopPeriod

/-! ## Handles -/

namespace PeriodHandles

variable {t : PeriodHandles} {handle c : Nat}

theorem handles_set (t : PeriodHandles) (handle : Nat) (d : Duration) : (t.set handle d).handles = t.handles := by
  unfold set
  split <;> rfl

theorem set_eq (cell : t.handles[handle]? = some c) (d : Duration) :
    t.set handle d = { t with cells := t.cells.set c (.ofDuration d) } := by
  simp [set, cell]

theorem cells_set (cell : t.handles[handle]? = some c) (d : Duration) :
    (t.set handle d).cells = t.cells.set c (.ofDuration d) := by
  rw [set_eq cell]

theorem clone_eq (cell : t.handles[handle]? = some c) : t.clone handle = { t with handles := t.handles ++ [c] } := by
  simp [clone, cell]

theorem get?_eq {p : LoopPeriod} (atHandle : t.handles[handle]? = some c) (cell : t.cells[c]? = some p) :
    t.get? handle = some p.duration := by
  simp [get?, atHandle, cell]

end PeriodHandles

/-! ## Traces -/

/-- What is done with periods, the last thing outermost, until there are so many handles. They are numbered in the order
in which they come up. -/
inductive PeriodTrace : Nat → Type where
  | start : PeriodTrace 0
  | create {n : Nat} (t : PeriodTrace n) (d : Duration) : PeriodTrace (n + 1)
  | clone {n : Nat} (t : PeriodTrace n) (handle : Fin n) : PeriodTrace (n + 1)
  | set {n : Nat} (t : PeriodTrace n) (handle : Fin n) (d : Duration) : PeriodTrace n
  | get {n : Nat} (t : PeriodTrace n) (handle : Fin n) : PeriodTrace n

/-- The last duration that was given to one of these handles. -/
def Latest (these : Nat → Prop) (given : List (Nat × Duration)) (d : Duration) : Prop :=
  ∃ before handle after, given = before ++ (handle, d) :: after ∧ these handle ∧ ∀ x ∈ after, ¬ these x.1

namespace Latest

variable {these those : Nat → Prop} {given : List (Nat × Duration)} {handle : Nat} {d d' : Duration}

theorem given_last (this : these handle) (given : List (Nat × Duration)) (d : Duration) :
    Latest these (given ++ [(handle, d)]) d := ⟨given, handle, [], rfl, this, by simp⟩

theorem given_other (latest : Latest these given d) (other : ¬ these handle) (d' : Duration) :
    Latest these (given ++ [(handle, d')]) d := by
  obtain ⟨before, last, after, rfl, this, none⟩ := latest
  refine ⟨before, last, after ++ [(handle, d')], by simp, this, ?_⟩
  intro x hx
  rcases List.mem_append.1 hx with hx | hx
  · exact none x hx
  · rwa [List.mem_singleton.1 hx]

theorem congr (latest : Latest these given d) (same : ∀ x ∈ given, these x.1 ↔ those x.1) : Latest those given d := by
  obtain ⟨before, last, after, rfl, this, none⟩ := latest
  refine ⟨before, last, after, rfl, (same (last, d) (by simp)).1 this, ?_⟩
  intro x hx
  rw [← same x (by simp [hx])]
  exact none x hx

end Latest

namespace PeriodTrace

variable {n : Nat}

def table : {n : Nat} → PeriodTrace n → PeriodHandles
  | _, .start => {}
  | _, .create t d => t.table.create d
  | _, .clone t handle => t.table.clone handle
  | _, .set t handle d => t.table.set handle d
  | _, .get t _ => t.table

/-- The durations that were given, with the handles that they were given to, the first one first. -/
def given : {n : Nat} → PeriodTrace n → List (Nat × Duration)
  | _, .start => []
  | n + 1, .create t d => t.given ++ [(n, d)]
  | _, .clone t _ => t.given
  | _, .set t handle d => t.given ++ [(handle.val, d)]
  | _, .get t _ => t.given

/-- The second handle is a clone of the first. -/
def Cloned : {n : Nat} → PeriodTrace n → Nat → Nat → Prop
  | _, .start => fun _ _ => False
  | _, .create t _ => t.Cloned
  | n + 1, .clone t handle => fun g h => t.Cloned g h ∨ g = handle ∧ h = n
  | _, .set t _ _ => t.Cloned
  | _, .get t _ => t.Cloned

/-- They are in one family. -/
def Kin (t : PeriodTrace n) : Nat → Nat → Prop := Relation.EqvGen t.Cloned

/-! ## Cells -/

theorem length_handles (t : PeriodTrace n) : t.table.handles.length = n := by
  induction t with
  | start => rfl
  | create t d ih => simp [table, PeriodHandles.create, ih]
  | @clone n t handle ih =>
    have cell := List.getElem?_eq_getElem (l := t.table.handles) (i := handle.val) (by omega)
    simp [table, PeriodHandles.clone_eq cell, ih]
  | set t handle d ih => rw [table, PeriodHandles.handles_set, ih]
  | get t handle ih => exact ih

theorem exists_cell (t : PeriodTrace n) (handle : Fin n) : ∃ c, t.table.handles[handle.val]? = some c := by
  have inside : handle.val < t.table.handles.length := by
    rw [t.length_handles]
    exact handle.isLt
  exact ⟨_, List.getElem?_eq_getElem inside⟩

theorem lt_of_mem_handles (t : PeriodTrace n) : ∀ c ∈ t.table.handles, c < t.table.cells.length := by
  induction t with
  | start => simp [table]
  | create t d ih =>
    intro c hc
    simp only [table, PeriodHandles.create, List.mem_append, List.mem_singleton, List.length_append,
      List.length_singleton] at hc ⊢
    rcases hc with old | newest
    · have := ih c old
      omega
    · omega
  | clone t handle ih =>
    obtain ⟨c, cell⟩ := t.exists_cell handle
    rw [table, PeriodHandles.clone_eq cell]
    intro c' hc
    rcases List.mem_append.1 hc with old | newest
    · exact ih c' old
    · rw [List.mem_singleton.1 newest]
      exact ih c (List.mem_of_getElem? cell)
  | set t handle d ih =>
    obtain ⟨c, cell⟩ := t.exists_cell handle
    rw [table, PeriodHandles.handles_set, PeriodHandles.cells_set cell, List.length_set]
    exact ih
  | get t handle ih => exact ih

theorem lt_of_mem_given (t : PeriodTrace n) : ∀ x ∈ t.given, x.1 < n := by
  induction t with
  | start => simp [given]
  | create t d ih =>
    intro x hx
    rcases List.mem_append.1 hx with old | newest
    · exact Nat.lt_succ_of_lt (ih x old)
    · rw [List.mem_singleton.1 newest]
      exact Nat.lt_succ_self _
  | clone t handle ih => exact fun x hx => Nat.lt_succ_of_lt (ih x hx)
  | set t handle d ih =>
    intro x hx
    rcases List.mem_append.1 hx with old | newest
    · exact ih x old
    · rw [List.mem_singleton.1 newest]
      exact handle.isLt
  | get t handle ih => exact ih

/-! ## Families -/

theorem lt_of_cloned (t : PeriodTrace n) {g h : Nat} (cloned : t.Cloned g h) : g < n ∧ h < n := by
  induction t with
  | start => cases cloned
  | create t d ih =>
    have := ih cloned
    omega
  | clone t handle ih =>
    rcases cloned with old | ⟨rfl, rfl⟩
    · have := ih old
      omega
    · have := handle.isLt
      omega
  | set t handle d ih => exact ih cloned
  | get t handle ih => exact ih cloned

theorem getElem?_handles_append (t : PeriodTrace n) {g : Nat} (inside : g < n) (c : Nat) :
    (t.table.handles ++ [c])[g]? = t.table.handles[g]? := by
  apply List.getElem?_append_left
  rwa [t.length_handles]

theorem eq_of_cloned (t : PeriodTrace n) {g h : Nat} (cloned : t.Cloned g h) :
    t.table.handles[g]? = t.table.handles[h]? := by
  induction t with
  | start => cases cloned
  | create t d ih =>
    obtain ⟨hg, hh⟩ := t.lt_of_cloned cloned
    simp only [table, PeriodHandles.create, t.getElem?_handles_append hg, t.getElem?_handles_append hh, ih cloned]
  | clone t handle ih =>
    obtain ⟨c, cell⟩ := t.exists_cell handle
    rw [table, PeriodHandles.clone_eq cell]
    rcases cloned with old | ⟨atHandle, newest⟩
    · obtain ⟨hg, hh⟩ := t.lt_of_cloned old
      simp only [t.getElem?_handles_append hg, t.getElem?_handles_append hh, ih old]
    · have found : (t.table.handles ++ [c])[h]? = some c :=
        getElem?_concat_eq_some_iff.2 (.inr ⟨newest.trans t.length_handles.symm, rfl⟩)
      rw [found, atHandle, t.getElem?_handles_append handle.isLt, cell]
  | set t handle d ih =>
    rw [table, PeriodHandles.handles_set]
    exact ih cloned
  | get t handle ih => exact ih cloned

/-- A family has one cell. -/
theorem eq_of_kin (t : PeriodTrace n) {g h : Nat} (kin : t.Kin g h) : t.table.handles[g]? = t.table.handles[h]? := by
  induction kin with
  | rel g h cloned => exact t.eq_of_cloned cloned
  | refl => rfl
  | symm g h _ ih => exact ih.symm
  | trans g h i _ _ first second => exact first.trans second

/-- Two families have two cells. -/
theorem kin_of_eq (t : PeriodTrace n) {g h c : Nat} (first : t.table.handles[g]? = some c)
    (second : t.table.handles[h]? = some c) : t.Kin g h := by
  induction t generalizing g h c with
  | start => simp [table] at first
  | create t d ih =>
    -- No older handle is on the cell of the new one.
    have fresh {g : Nat} : t.table.handles[g]? ≠ some t.table.cells.length := fun same =>
      absurd (t.lt_of_mem_handles _ (List.mem_of_getElem? same)) (Nat.lt_irrefl _)
    rcases getElem?_concat_eq_some_iff.1 first with old | ⟨rfl, newest⟩ <;>
      rcases getElem?_concat_eq_some_iff.1 second with old' | ⟨rfl, newest'⟩
    · exact ih old old'
    · exact absurd (newest' ▸ old) fresh
    · exact absurd (newest ▸ old') fresh
    · exact .refl _
  | @clone n t handle ih =>
    have older {g h : Nat} (kin : t.Kin g h) : (t.clone handle).Kin g h :=
      Relation.EqvGen.mono (fun _ _ => Or.inl) _ _ kin
    obtain ⟨c', cell⟩ := t.exists_cell handle
    have cloned : (t.clone handle).Kin handle n := .rel _ _ (.inr ⟨rfl, rfl⟩)
    rw [table, PeriodHandles.clone_eq cell] at first second
    rcases getElem?_concat_eq_some_iff.1 first with old | ⟨rfl, rfl⟩ <;>
      rcases getElem?_concat_eq_some_iff.1 second with old' | ⟨rfl, newest'⟩
    · exact older (ih old old')
    · rw [t.length_handles]
      exact (older (ih old (newest' ▸ cell))).trans _ _ _ cloned
    · rw [t.length_handles]
      exact ((older (ih old' cell)).trans _ _ _ cloned).symm
    · exact .refl _
  | set t handle d ih =>
    rw [table, PeriodHandles.handles_set] at first second
    exact ih first second
  | get t handle ih => exact ih first second

/-! ## What a handle gets -/

/-- A cell keeps the last duration that was given to a handle on it. -/
theorem latest_of_cell (t : PeriodTrace n) {c : Nat} {p : LoopPeriod} (cell : t.table.cells[c]? = some p) :
    ∃ d, Latest (fun g => t.table.handles[g]? = some c) t.given d ∧ p = .ofDuration d := by
  induction t generalizing c p with
  | start => simp [table] at cell
  | @create n t d ih =>
    -- The handles that are older than the new one are where they were.
    have same (c : Nat) : ∀ x ∈ t.given, t.table.handles[x.1]? = some c ↔
        (t.table.handles ++ [t.table.cells.length])[x.1]? = some c := by
      intro x hx
      rw [t.getElem?_handles_append (t.lt_of_mem_given x hx)]
    have newest : (t.table.handles ++ [t.table.cells.length])[n]? = some t.table.cells.length :=
      getElem?_concat_eq_some_iff.2 (.inr ⟨t.length_handles.symm, rfl⟩)
    rcases getElem?_concat_eq_some_iff.1 cell with old | ⟨rfl, rfl⟩
    · obtain ⟨d', latest, kept⟩ := ih old
      refine ⟨d', (latest.congr (same c)).given_other ?_ d, kept⟩
      intro this
      have inside : c < t.table.cells.length := (List.getElem?_eq_some_iff.1 old).1
      have : t.table.cells.length = c := Option.some.inj (newest.symm.trans this)
      omega
    · exact ⟨d, .given_last newest t.given d, rfl⟩
  | clone t handle ih =>
    obtain ⟨c', atHandle⟩ := t.exists_cell handle
    rw [table, PeriodHandles.clone_eq atHandle] at cell ⊢
    obtain ⟨d, latest, kept⟩ := ih cell
    refine ⟨d, latest.congr ?_, kept⟩
    intro x hx
    rw [t.getElem?_handles_append (t.lt_of_mem_given x hx)]
  | set t handle d ih =>
    obtain ⟨c', atHandle⟩ := t.exists_cell handle
    rw [table, PeriodHandles.cells_set atHandle, List.getElem?_set] at cell
    simp only [table, PeriodHandles.handles_set, given]
    split at cell
    · rename_i same
      subst same
      split at cell
      · exact ⟨d, .given_last atHandle t.given d, (Option.some.inj cell).symm⟩
      · cases cell
    · rename_i differ
      obtain ⟨d', latest, kept⟩ := ih cell
      refine ⟨d', latest.given_other ?_ d, kept⟩
      intro this
      exact differ (Option.some.inj (atHandle.symm.trans this))
  | get t handle ih => exact ih cell

theorem exists_period (t : PeriodTrace n) (h : Fin n) :
    ∃ c p, t.table.handles[h.val]? = some c ∧ t.table.cells[c]? = some p := by
  obtain ⟨c, atHandle⟩ := t.exists_cell h
  have inside : c < t.table.cells.length := t.lt_of_mem_handles c (List.mem_of_getElem? atHandle)
  exact ⟨c, _, atHandle, List.getElem?_eq_getElem inside⟩

/-- What it is for a handle to share its period with its family and with nobody else. -/
structure Shares (t : PeriodTrace n) (h : Fin n) : Prop where
  latest : ∃ d, Latest (t.Kin · h) t.given d ∧ t.table.get? h = some (LoopPeriod.kept d)
  others : ∀ (g : Fin n) d, ¬ t.Kin g h → (t.set g d).table.get? h = t.table.get? h
  create : ∀ d, (t.create d).table.get? h = t.table.get? h
  clone : ∀ g : Fin n, (t.clone g).table.get? h = t.table.get? h
  again : ∀ d, t.table.get? h = some d → (t.set h d).table = t.table

theorem shares (t : PeriodTrace n) (h : Fin n) : t.Shares h := by
  obtain ⟨c, p, atHandle, cell⟩ := t.exists_period h
  have got : t.table.get? h = some p.duration := PeriodHandles.get?_eq atHandle cell
  constructor
  case latest =>
    obtain ⟨d, latest, rfl⟩ := t.latest_of_cell cell
    refine ⟨d, latest.congr ?_, got⟩
    intro x _
    constructor
    · intro this
      exact t.kin_of_eq this atHandle
    · intro kin
      rw [t.eq_of_kin kin, atHandle]
  case others =>
    intro g d apart
    obtain ⟨c', atOther⟩ := t.exists_cell g
    have differ : c' ≠ c := by
      rintro rfl
      exact apart (t.kin_of_eq atOther atHandle)
    have sameCell : (t.set g d).table.cells[c]? = some p := by
      rw [table, PeriodHandles.cells_set atOther, List.getElem?_set_ne differ, cell]
    have sameHandle : (t.set g d).table.handles[h.val]? = some c := by
      rw [table, PeriodHandles.handles_set, atHandle]
    rw [got, PeriodHandles.get?_eq sameHandle sameCell]
  case create =>
    intro d
    have sameHandle : (t.create d).table.handles[h.val]? = some c := getElem?_concat_eq_some_iff.2 (.inl atHandle)
    have sameCell : (t.create d).table.cells[c]? = some p := getElem?_concat_eq_some_iff.2 (.inl cell)
    rw [got, PeriodHandles.get?_eq sameHandle sameCell]
  case clone =>
    intro g
    obtain ⟨c', atOther⟩ := t.exists_cell g
    have sameHandle : (t.clone g).table.handles[h.val]? = some c := by
      rw [table, PeriodHandles.clone_eq atOther]
      exact getElem?_concat_eq_some_iff.2 (.inl atHandle)
    have sameCell : (t.clone g).table.cells[c]? = some p := by
      rw [table, PeriodHandles.clone_eq atOther, cell]
    rw [got, PeriodHandles.get?_eq sameHandle sameCell]
  case again =>
    intro d now
    obtain rfl : p.duration = d := Option.some.inj (got.symm.trans now)
    obtain ⟨_, rfl⟩ := List.getElem?_eq_some_iff.1 cell
    rw [table, PeriodHandles.set_eq atHandle, LoopPeriod.ofDuration_duration, List.set_getElem_self]

/-- Whatever was done, a handle gets the last duration that its family was given, rounded down. -/
theorem shared_and_rounded :
    (∀ d, LoopPeriod.RoundsDown d) ∧ ∀ (n : Nat) (t : PeriodTrace n) (h : Fin n), t.Shares h :=
  ⟨LoopPeriod.roundsDown, fun _ => shares⟩

/-- Two and a half microseconds, set on a clone. -/
example :
    (((PeriodTrace.start.create ⟨7000, by decide⟩).clone 0).set 1 ⟨2500, by decide⟩).table.get? 0 =
      some ⟨2000, by decide⟩ := rfl

end PeriodTrace

end VesselBus
