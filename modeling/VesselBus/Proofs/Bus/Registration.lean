import VesselBus.Proofs.Bus.Marks

/-!
# What a registry remembers

Registrations are told apart by the object they mention. The first mention of an object gives it a place and
the identity and name it has from then on; every mention may add a kind. No other registration matters to it.
-/

namespace VesselBus

/-- The registrations that mention their object for the first time. -/
def firstMentions : List Enrollment → List Enrollment
  | [] => []
  | call :: later => call :: (firstMentions later).filter (·.ref != call.ref)

/-- The kinds that an object was subscribed to, each where it came first. -/
def kindsOf (calls : List Enrollment) (ref : NodeRef) : List MessageKind :=
  (calls.filterMap fun call => if call.ref = ref then call.kind else none).eraseDups

def recordOf (calls : List Enrollment) (first : Enrollment) : Record :=
  { ref := first.ref, id := first.id, name := first.name, subscriptions := kindsOf calls first.ref }

def Registry.of (calls : List Enrollment) : Registry := ⟨(firstMentions calls).map (recordOf calls)⟩

variable (calls : List Enrollment) (call : Enrollment)

/-! ## First mentions -/

theorem any_firstMentions (ref : NodeRef) :
    (firstMentions calls).any (·.ref == ref) = calls.any (·.ref == ref) := by
  induction calls with
  | nil => rfl
  | cons c later ih =>
    by_cases h : c.ref = ref
    · simp [firstMentions, h]
    · have other (x : Enrollment) : (x.ref != c.ref && x.ref == ref) = (x.ref == ref) := by
        by_cases hx : x.ref = ref <;> simp [hx, Ne.symm h]
      simp only [firstMentions, List.any_cons, List.any_filter, other, ih]

theorem firstMentions_concat :
    firstMentions (calls ++ [call]) =
      firstMentions calls ++ if calls.any (·.ref == call.ref) then [] else [call] := by
  induction calls with
  | nil => rfl
  | cons c later ih =>
    rw [List.cons_append, firstMentions, ih, List.filter_append, firstMentions, List.cons_append]
    congr 2
    by_cases h : c.ref = call.ref
    · simp only [List.any_cons, h, beq_self_eq_true, Bool.true_or, if_true]
      split <;> simp
    · by_cases hl : later.any (·.ref == call.ref) = true <;> simp [hl, h, Ne.symm h]

theorem nodup_firstMentions : ((firstMentions calls).map (·.ref)).Nodup := by
  induction calls with
  | nil => exact List.nodup_nil
  | cons c later ih =>
    refine List.nodup_cons.2 ⟨?_, ih.sublist (List.filter_sublist.map _)⟩
    simp

/-! ## One more registration -/

theorem kindsOf_concat (ref : NodeRef) :
    kindsOf (calls ++ [call]) ref =
      match (if call.ref = ref then call.kind else none) with
      | none => kindsOf calls ref
      | some kind => if kind ∈ kindsOf calls ref then kindsOf calls ref else kindsOf calls ref ++ [kind] := by
  unfold kindsOf
  rw [List.filterMap_append, List.eraseDups_append]
  cases h : (if call.ref = ref then call.kind else none) with
  | none => simp [h]
  | some kind =>
    simp only [List.mem_eraseDups, List.filterMap_cons, h, List.filterMap_nil]
    generalize calls.filterMap (fun call => if call.ref = ref then call.kind else none) = kinds
    by_cases known : kind ∈ kinds <;> simp [List.removeAll, List.eraseDups_cons, known]

theorem kindsOf_of_unmentioned (ref : NodeRef) (h : calls.any (·.ref == ref) = false) :
    kindsOf calls ref = [] := by
  have none_kept : calls.filterMap (fun call => if call.ref = ref then call.kind else none) = [] := by
    refine List.filterMap_eq_nil_iff.2 fun call hc => if_neg ?_
    simpa using List.any_eq_false.1 h call hc
  rw [kindsOf, none_kept, List.eraseDups_nil]

theorem recordOf_concat (first : Enrollment) :
    recordOf (calls ++ [call]) first =
      match call.kind with
      | none => recordOf calls first
      | some kind =>
        if (recordOf calls first).ref == call.ref then (recordOf calls first).subscribe kind
        else recordOf calls first := by
  unfold recordOf
  rw [kindsOf_concat]
  by_cases same : call.ref = first.ref
  · cases call.kind with
    | none => simp
    | some kind =>
      simp only [same, if_true, beq_self_eq_true, Record.subscribe, Record.isInterested, List.contains_iff_mem]
      split <;> rfl
  · have other : (first.ref == call.ref) = false := by simpa using Ne.symm same
    cases call.kind <;> simp [same, other]

theorem Registry.knows_of (ref : NodeRef) : (Registry.of calls).knows ref = calls.any (·.ref == ref) := by
  rw [← any_firstMentions]
  simp [Registry.knows, Registry.of, recordOf, Function.comp_def]

/-- To register is to append to the registrations that the registry stands for. -/
theorem Registry.enroll_of : (Registry.of calls).enroll call = Registry.of (calls ++ [call]) := by
  have placed :
      (if (Registry.of calls).knows call.ref then Registry.of calls
        else (Registry.of calls).add { ref := call.ref, id := call.id, name := call.name }) =
      ⟨(firstMentions (calls ++ [call])).map (recordOf calls)⟩ := by
    rw [firstMentions_concat, Registry.knows_of]
    cases h : calls.any (·.ref == call.ref) with
    | true => simp [Registry.of]
    | false =>
      have none_yet := kindsOf_of_unmentioned calls call.ref h
      simp [Registry.of, Registry.add, recordOf, none_yet]
  unfold Registry.enroll
  rw [placed, Registry.of]
  cases h : call.kind with
  | none =>
    refine congrArg Registry.mk (List.map_congr_left fun first _ => ?_)
    rw [recordOf_concat, h]
  | some kind =>
    simp only [Registry.subscribe, List.map_map]
    refine congrArg Registry.mk (List.map_congr_left fun first _ => ?_)
    rw [recordOf_concat, h]
    rfl

/-! ## Registrations of a live bus -/

namespace Mark

@[simp] def enrolling? : Mark → Option Enrollment
  | .enrolling call => some call
  | _ => none

def isEntry : Mark → Bool
  | .entered => true
  | _ => false

@[simp] theorem isEntry_entered : entered.isEntry = true := rfl

theorem isEntry_iff {m : Mark} : m.isEntry = true ↔ m = .entered := by cases m <;> simp [isEntry]

@[simp] theorem isEntry_enrolling (call : Enrollment) : (enrolling call).isEntry = false := rfl

end Mark

namespace LiveBus

variable {ω : Type} {crew : Crew ω} {trace marks : List Mark} {s t : LiveBus ω}

/-- The registrations that were asked for before the first run. -/
def enrollments (trace : List Mark) : List Enrollment :=
  (trace.takeWhile (!·.isEntry)).filterMap Mark.enrolling?

theorem enrollments_of_entered (h : trace.any (·.isEntry) = true) (marks : List Mark) :
    enrollments (trace ++ marks) = enrollments trace := by
  induction trace with
  | nil => simp at h
  | cons m rest ih =>
    cases entry : m.isEntry with
    | true => simp [enrollments, entry]
    | false =>
      have later := ih (by simpa [entry] using h)
      simp only [enrollments, List.cons_append, List.takeWhile_cons, entry, Bool.not_false, if_true,
        List.filterMap_cons] at later ⊢
      rw [later]

theorem enrollments_of_open (h : trace.any (·.isEntry) = false) (marks : List Mark) :
    enrollments (trace ++ marks) = enrollments trace ++ enrollments marks := by
  have all_open : ∀ m ∈ trace, (!m.isEntry) = true := by simpa using h
  simp only [enrollments, List.takeWhile_append_of_pos all_open, List.filterMap_append,
    List.takeWhile_eq_self_iff.2 all_open]

@[simp] theorem enrollments_entered (marks : List Mark) : enrollments (.entered :: marks) = [] := rfl

@[simp] theorem enrollments_enrolling (call : Enrollment) (marks : List Mark) :
    enrollments (.enrolling call :: marks) = call :: enrollments marks := rfl

@[simp] theorem any_isEntry_said {α : Type} (x : Traced BusEvent α) :
    (said x).any (·.isEntry) = false := by
  simp [said, Mark.isEntry]

@[simp] theorem enrollments_said {α : Type} (x : Traced BusEvent α) : enrollments (said x) = [] := by
  simp [enrollments, said, List.takeWhile_map, List.filterMap_map, Function.comp_def]

/-- A step registers somebody, or it begins a run, or it has nothing to do with registration. Only the
first two can be taken while nobody is inside. -/
theorem Step.registration (h : Step crew s marks t) :
    (∃ ref kind, s.stage = .idle ∧ t = s.enrolled crew ref kind ∧
      marks = .enrolling (crew.enrollment ref kind s.world) :: said (s.bus.register crew ref kind s.world)) ∨
    (∃ host, s.stage = .idle ∧ t = { s with bus := (s.bus.prepare host).result, stage := .checking } ∧
      marks = .entered :: said (s.bus.prepare host)) ∨
    (t.bus.registry = s.bus.registry ∧ t.bus.started = s.bus.started ∧ (s.stage = .idle → t.stage = .idle) ∧
      marks.any (·.isEntry) = false ∧ enrollments marks = []) := by
  cases h with
  | register ref kind idle => exact .inl ⟨ref, kind, idle, rfl, rfl⟩
  | enter host idle => exact .inr (.inl ⟨host, idle, rfl, rfl⟩)
  | send | stop | disturb => exact .inr (.inr ⟨rfl, rfl, id, rfl, rfl⟩)
  | take host last e rest at_ =>
    refine .inr (.inr ⟨?_, ?_, by simp [at_], any_isEntry_said _, enrollments_said _⟩)
    · exact Bus.registry_transcribe _ _
    · exact Bus.started_transcribe _ _
  | flush last e at_ =>
    exact .inr (.inr ⟨Bus.registry_transcribe _ _, Bus.started_transcribe _ _, by simp [at_],
      any_isEntry_said _, enrollments_said _⟩)
  | finish host last e r rest world outcome at_ =>
    exact .inr (.inr ⟨Bus.registry_settle .., Bus.started_settle .., by simp [at_], any_isEntry_said _,
      enrollments_said _⟩)
  | leave => exact .inr (.inr ⟨rfl, rfl, fun _ => rfl, rfl, rfl⟩)
  | proceed at_ | heed at_ | elapse at_ | swap _ at_ | close at_ | again at_ | call _ _ _ _ at_
  | note _ _ _ _ _ _ at_ | reply _ _ _ _ _ _ _ at_ | halt _ _ _ _ _ at_ | askPending _ _ _ _ _ at_
  | askStopped _ _ _ _ _ at_ => exact .inr (.inr ⟨rfl, rfl, by simp [at_], rfl, rfl⟩)

structure Registered (trace : List Mark) (s : LiveBus ω) : Prop where
  registry : s.bus.registry = .of (enrollments trace)
  started : s.bus.started = trace.any (·.isEntry)
  idle : s.bus.started = false → s.stage = .idle

theorem Registered.step (inv : Registered trace s) (h : Step crew s marks t) : Registered (trace ++ marks) t := by
  rcases h.registration with ⟨ref, kind, idle, rfl, rfl⟩ | ⟨host, -, rfl, rfl⟩ | ⟨same, started, stays, noEntry, none⟩
  · cases open_ : s.bus.started with
    | false =>
      have notYet : trace.any (·.isEntry) = false := by rw [← inv.started, open_]
      refine ⟨?_, ?_, fun _ => idle⟩
      · rw [enrolled_of_open open_, enrollments_of_open notYet, inv.registry, Registry.enroll_of]
        rw [enrollments_enrolling, enrollments_said]
      · rw [enrolled_of_open open_, List.any_append, notYet]
        simp [open_]
    | true =>
      have entered : trace.any (·.isEntry) = true := by rw [← inv.started, open_]
      refine ⟨?_, ?_, fun _ => idle⟩
      · rw [enrolled_of_started open_, enrollments_of_entered entered, inv.registry]
      · rw [enrolled_of_started open_, List.any_append, entered, open_, Bool.true_or]
  · refine ⟨?_, ?_, fun h => by simp at h⟩
    · rw [Bus.registry_prepare, inv.registry]
      cases entered : trace.any (·.isEntry) with
      | false => rw [enrollments_of_open entered, enrollments_entered, List.append_nil]
      | true => rw [enrollments_of_entered entered]
    · simp
  · refine ⟨?_, ?_, fun h => stays (inv.idle (by rw [← started, h]))⟩
    · rw [same, inv.registry]
      cases entered : trace.any (·.isEntry) with
      | false => rw [enrollments_of_open entered, none, List.append_nil]
      | true => rw [enrollments_of_entered entered]
    · rw [started, List.any_append, noEntry, Bool.or_false, inv.started]

theorem Reachable.registered (h : Reachable crew trace s) : Registered trace s := by
  induction h with
  | new => exact ⟨rfl, rfl, fun _ => rfl⟩
  | step _ taken inv => exact inv.step taken

end LiveBus

end VesselBus
