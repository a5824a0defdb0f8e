import VesselBus.Proofs.Number.Equality
import VesselBus.Vessel.WindEstimate
import Mathlib.Logic.Relation

/-!
# What an estimator reacts to

An estimator answers each reading with one estimate and lets everything else pass, whatever else is in the message. So
two sequences of messages with the same readings in them are answered alike.
-/

namespace VesselBus

/-- Only the two words themselves stand in for a number that is missing. -/
theorem Single.isReading_iff {x : Single} : x.isReading = true ↔ x ≠ dataOutOfRange ∧ x ≠ noCommand := by
  unfold isReading
  rw [Bool.and_eq_true, Bool.not_eq_true', Bool.not_eq_true', Bool.eq_false_iff, Bool.eq_false_iff]
  rw [Ne, numEq_iff_eq (by decide) (by decide), Ne, numEq_iff_eq (by decide) (by decide)]

namespace Wind

/-- The message carries this wind, and none of its numbers is missing. -/
def IsReadIn (w : Wind) (m : Message) : Prop :=
  ∃ temperature, m.payload = some (.windData w.direction w.speed temperature) ∧
    (Payload.windData w.direction w.speed temperature).hasData = true

theorem ofMessage?_eq_some_iff {m : Message} {w : Wind} : ofMessage? m = some w ↔ w.IsReadIn m := by
  constructor
  · intro heard
    unfold ofMessage? at heard
    split at heard
    next payload carried =>
      split at heard
      next direction speed temperature =>
        obtain ⟨data, same⟩ := Option.ite_none_right_eq_some.1 heard
        cases same
        exact ⟨temperature, carried, data⟩
      next => cases heard
    next => cases heard
  · rintro ⟨temperature, carried, data⟩
    unfold ofMessage?
    rw [carried]
    exact if_pos data

theorem ofMessage?_eq_none_iff {m : Message} : ofMessage? m = none ↔ ∀ w : Wind, ¬ w.IsReadIn m := by
  simp only [Option.eq_none_iff_forall_ne_some, ne_eq, ofMessage?_eq_some_iff]

theorem isSome_ofMessage?_iff {m : Message} : (ofMessage? m).isSome = true ↔ ∃ w : Wind, w.IsReadIn m := by
  simp only [Option.isSome_iff_exists, ofMessage?_eq_some_iff]

instance decidableExistsIsReadIn (m : Message) : Decidable (∃ w : Wind, w.IsReadIn m) :=
  decidable_of_iff _ isSome_ofMessage?_iff

theorem hasData_windData_iff {direction speed temperature : Single} :
    (Payload.windData direction speed temperature).hasData = true ↔
      ∀ x ∈ [direction, speed, temperature], x ≠ dataOutOfRange ∧ x ≠ noCommand := by
  simp only [Payload.hasData, Payload.readings, List.all_eq_true, Single.isReading_iff]

end Wind

namespace WindEstimate

/-! ## One message -/

theorem result_receive (m : Message) (estimate : WindEstimate) :
    (estimate.receive m).result =
      ((Wind.ofMessage? m).elim estimate fun reading => some (estimate.next reading),
        (Wind.ofMessage? m).map fun reading => (estimate.next reading).publication) := by
  unfold receive
  cases heard : Wind.ofMessage? m with
  | some reading => rfl
  | none =>
    cases m.payload with
    | none => rfl
    | some payload => cases h : payload.hasData <;> simp [h, logLine, Traced.report]

theorem receive_of_reading {m : Message} {w : Wind} (read : w.IsReadIn m) (estimate : WindEstimate) :
    (estimate.receive m).result = (some (estimate.next w), some (estimate.next w).publication) := by
  rw [result_receive, Wind.ofMessage?_eq_some_iff.2 read]
  rfl

theorem receive_of_other {m : Message} (other : ∀ w : Wind, ¬ w.IsReadIn m) (estimate : WindEstimate) :
    (estimate.receive m).result = (estimate, none) := by
  rw [result_receive, Wind.ofMessage?_eq_none_iff.2 other]
  rfl

/-! ## Many messages -/

/-- Hears messages one after the other; what is sent comes in their order. -/
def receiveEach : List Message → WindEstimate → Logged (WindEstimate × List Message)
  | [], estimate => return (estimate, [])
  | m :: rest, estimate => do
    let (estimate, sent) ← estimate.receive m
    let (estimate, later) ← receiveEach rest estimate
    return (estimate, sent.toList ++ later)

def after (estimate : WindEstimate) (readings : List Wind) : WindEstimate :=
  readings.foldl (fun estimate reading => some (estimate.next reading)) estimate

/-- The estimates that come of readings, one after the other. -/
def course : WindEstimate → List Wind → List Wind
  | _, [] => []
  | estimate, reading :: rest => estimate.next reading :: course (some (estimate.next reading)) rest

theorem length_course (estimate : WindEstimate) (readings : List Wind) :
    (estimate.course readings).length = readings.length := by
  induction readings generalizing estimate with
  | nil => rfl
  | cons reading rest ih => rw [course, List.length_cons, ih, List.length_cons]

theorem result_receiveEach (ms : List Message) (estimate : WindEstimate) :
    (receiveEach ms estimate).result =
      (estimate.after (ms.filterMap Wind.ofMessage?),
        (estimate.course (ms.filterMap Wind.ofMessage?)).map Wind.publication) := by
  induction ms generalizing estimate with
  | nil => rfl
  | cons m rest ih =>
    simp only [receiveEach, Traced.result_bind, Traced.result_pure, result_receive, ih]
    cases heard : Wind.ofMessage? m with
    | none =>
      rw [List.filterMap_cons_none heard]
      rfl
    | some reading =>
      rw [List.filterMap_cons_some heard]
      rfl

/-! ## Edits -/

/-- One message is changed in a way that no reading shows. To move a message is to delete it and to insert it again. -/
inductive Edit : List Message → List Message → Prop where
  | insert (before after : List Message) {m : Message} (other : ∀ w : Wind, ¬ w.IsReadIn m) :
    Edit (before ++ after) (before ++ m :: after)
  | delete (before after : List Message) {m : Message} (other : ∀ w : Wind, ¬ w.IsReadIn m) :
    Edit (before ++ m :: after) (before ++ after)
  | readdress (before after : List Message) (m : Message) (source destination : NodeId) :
    Edit (before ++ m :: after) (before ++ { m with source, destination } :: after)
  | warm (before after : List Message) {m : Message} {direction speed temperature temperature' : Single}
    (carried : m.payload = some (.windData direction speed temperature))
    (data : (Payload.windData direction speed temperature).hasData = true)
    (data' : (Payload.windData direction speed temperature').hasData = true) :
    Edit (before ++ m :: after)
      (before ++ { m with payload := some (.windData direction speed temperature') } :: after)

theorem filterMap_replace {α β : Type} {f : α → Option β} {a b : α} (same : f a = f b) (before after : List α) :
    (before ++ a :: after).filterMap f = (before ++ b :: after).filterMap f := by
  rw [List.filterMap_append, List.filterMap_append, List.filterMap_cons, List.filterMap_cons, same]

theorem filterMap_remove {α β : Type} {f : α → Option β} {a : α} (nothing : f a = none) (before after : List α) :
    (before ++ a :: after).filterMap f = (before ++ after).filterMap f := by
  rw [List.filterMap_append, List.filterMap_append, List.filterMap_cons_none nothing]

theorem Edit.readings {ms ms' : List Message} (edit : Edit ms ms') :
    ms.filterMap Wind.ofMessage? = ms'.filterMap Wind.ofMessage? := by
  cases edit with
  | insert before after other => exact (filterMap_remove (Wind.ofMessage?_eq_none_iff.2 other) before after).symm
  | delete before after other => exact filterMap_remove (Wind.ofMessage?_eq_none_iff.2 other) before after
  | readdress before after m source destination =>
    have same : Wind.ofMessage? m = Wind.ofMessage? { m with source, destination } := rfl
    exact filterMap_replace same before after
  | @warm before after m direction speed temperature temperature' carried data data' =>
    have read : Wind.IsReadIn ⟨direction, speed⟩ m := ⟨temperature, carried, data⟩
    have read' : Wind.IsReadIn ⟨direction, speed⟩
        { m with payload := some (.windData direction speed temperature') } := ⟨temperature', rfl, data'⟩
    apply filterMap_replace
    rw [Wind.ofMessage?_eq_some_iff.2 read, Wind.ofMessage?_eq_some_iff.2 read']

/-! ## The result -/

/-- An estimator, whatever it has heard so far, has an ear for readings alone. -/
structure HeedsReadings (estimate : WindEstimate) : Prop where
  answered : ∀ (m : Message) (w : Wind), w.IsReadIn m → ∃ direction speed,
    estimate.next w = ⟨direction, speed⟩ ∧ (estimate.receive m).result = (some ⟨direction, speed⟩,
      some { kind := .windState, source := .windState, destination := .none,
             payload := some (.windState speed direction speed direction), valid := true })
  passed : ∀ m : Message, (∀ w : Wind, ¬ w.IsReadIn m) → (estimate.receive m).result = (estimate, none)
  sent : ∀ ms : List Message, (receiveEach ms estimate).result.2 =
    (estimate.course (ms.filterMap Wind.ofMessage?)).map Wind.publication
  /-- Two sequences that differ in no reading are answered alike. -/
  alike : ∀ ms ms' : List Message, Relation.ReflTransGen Edit ms ms' →
    (receiveEach ms estimate).result = (receiveEach ms' estimate).result

/-- A reading is a message that carries the three numbers of a wind, none of them one of the two that stand in for a
missing number. -/
theorem heedsReadings :
    (∀ m : Message, (∃ w : Wind, w.IsReadIn m) ↔ ∃ direction speed temperature,
      m.payload = some (.windData direction speed temperature) ∧
        ∀ x ∈ [direction, speed, temperature], x ≠ dataOutOfRange ∧ x ≠ noCommand) ∧
    (∀ (m : Message) (w : Wind), Wind.ofMessage? m = some w ↔ w.IsReadIn m) ∧
    ∀ estimate : WindEstimate, estimate.HeedsReadings := by
  refine ⟨fun m => ?_, fun m w => Wind.ofMessage?_eq_some_iff, fun estimate => ?_⟩
  · constructor
    · rintro ⟨w, temperature, carried, data⟩
      exact ⟨w.direction, w.speed, temperature, carried, Wind.hasData_windData_iff.1 data⟩
    · rintro ⟨direction, speed, temperature, carried, data⟩
      exact ⟨⟨direction, speed⟩, temperature, carried, Wind.hasData_windData_iff.2 data⟩
  constructor
  case answered =>
    intro m w read
    exact ⟨_, _, rfl, receive_of_reading read estimate⟩
  case passed =>
    intro m other
    exact receive_of_other other estimate
  case sent =>
    intro ms
    rw [result_receiveEach]
  case alike =>
    intro ms ms' edits
    have same : ms.filterMap Wind.ofMessage? = ms'.filterMap Wind.ofMessage? := by
      induction edits with
      | refl => rfl
      | tail _ edit ih => exact ih.trans edit.readings
    rw [result_receiveEach, result_receiveEach, same]

end WindEstimate

end VesselBus
