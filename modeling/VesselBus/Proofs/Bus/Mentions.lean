import VesselBus.Proofs.Bus.Closing
import Mathlib.Data.List.Nodup

/-!
# What a registry stands for

A registry is what the calls that mention objects have made of it. The first call that mentions an object gives it a
record, with the identity and the name that the object gives at that moment. Nobody asks the object again, whatever has
become of it since, and a later call can only add a kind to its record.
-/

namespace VesselBus

variable {ω : Type}

/-- A call that registers an object, and subscribes it if there is a kind. Anything may happen to the objects before. -/
structure Mention (ω : Type) where
  ref : NodeRef
  kind : Option MessageKind := none
  meanwhile : ω → ω := id

/-! ## First mentions of enrollments -/

theorem map_ref_firstMentions (calls : List Enrollment) :
    (firstMentions calls).map (·.ref) = (calls.map (·.ref)).eraseDups := by
  induction calls using List.reverseRecOn with
  | nil => rfl
  | append_singleton calls call ih =>
    have known : calls.any (·.ref == call.ref) = (calls.map (·.ref)).contains call.ref := by
      rw [← List.any_beq', List.any_map]
      rfl
    have fresh : ([call.ref].removeAll (calls.map (·.ref))) =
        if calls.any (·.ref == call.ref) then [] else [call.ref] := by
      rw [known, List.removeAll, List.filter_cons, List.filter_nil, List.elem_eq_contains]
      cases (calls.map (·.ref)).contains call.ref <;> rfl
    rw [firstMentions_concat, List.map_append, List.map_append, List.eraseDups_append, ih, List.map_singleton, fresh]
    split
    · rfl
    · rfl

theorem mem_firstMentions (before after : List Enrollment) (call : Enrollment)
    (first : ∀ c ∈ before, c.ref ≠ call.ref) : call ∈ firstMentions (before ++ call :: after) := by
  induction before with
  | nil => exact List.mem_cons_self
  | cons c rest ih =>
    rw [List.forall_mem_cons] at first
    refine List.mem_cons_of_mem _ (List.mem_filter.2 ⟨ih first.2, ?_⟩)
    simpa using Ne.symm first.1

theorem eq_recordOf (calls : List Enrollment) {r : Record} (h : r ∈ (Registry.of calls).records) :
    ∃ first ∈ firstMentions calls, r = recordOf calls first := by
  obtain ⟨first, hfirst, rfl⟩ := List.mem_map.1 h
  exact ⟨first, hfirst, rfl⟩

theorem map_ref_of (calls : List Enrollment) :
    (Registry.of calls).records.map (·.ref) = (calls.map (·.ref)).eraseDups := by
  rw [← map_ref_firstMentions, Registry.of, List.map_map]
  rfl

theorem nodup_ref_of (calls : List Enrollment) : ((Registry.of calls).records.map (·.ref)).Nodup := by
  rw [map_ref_of, ← map_ref_firstMentions]
  exact nodup_firstMentions calls

theorem recordOf_of_ref (before after : List Enrollment) (call : Enrollment)
    (first : ∀ c ∈ before, c.ref ≠ call.ref) {r : Record}
    (h : r ∈ (Registry.of (before ++ call :: after)).records) (same : r.ref = call.ref) :
    r = recordOf (before ++ call :: after) call := by
  have there : recordOf (before ++ call :: after) call ∈ (Registry.of (before ++ call :: after)).records :=
    List.mem_map_of_mem (mem_firstMentions before after call first)
  exact List.inj_on_of_nodup_map (nodup_ref_of _) h there same

theorem Registry.subscribe_eq_self (g : Registry) (ref : NodeRef) (kind : MessageKind)
    (h : ∀ r ∈ g.records, r.ref = ref → r.isInterested kind = true) : g.subscribe ref kind = g := by
  have kept : ∀ r ∈ g.records, (if r.ref == ref then r.subscribe kind else r) = r := by
    intro r hr
    by_cases same : r.ref = ref
    · rw [if_pos (beq_iff_eq.2 same), Record.subscribe, if_pos (h r hr same)]
    · rw [if_neg (mt beq_iff_eq.1 same)]
  rw [subscribe, List.map_congr_left kept, List.map_id']

namespace Bus

variable {crew : Crew ω} {bus : Bus}

/-! ## Calls -/

def mentionEach (crew : Crew ω) : List (Mention ω) → Bus → ω → Traced BusEvent (Bus × ω)
  | [], bus, world => pure (bus, world)
  | call :: rest, bus, world => do
    let (answer, world) ← bus.register crew call.ref call.kind (call.meanwhile world)
    mentionEach crew rest (answer.toOption.getD bus) world

/-- The calls, each with what the object would answer at that moment. -/
def heard (crew : Crew ω) : List (Mention ω) → Bus → ω → List Enrollment
  | [], _, _ => []
  | call :: rest, bus, world =>
    let x := (bus.register crew call.ref call.kind (call.meanwhile world)).result
    crew.enrollment call.ref call.kind (call.meanwhile world) :: heard crew rest (x.1.toOption.getD bus) x.2

theorem heard_append (first later : List (Mention ω)) (bus : Bus) (world : ω) :
    heard crew (first ++ later) bus world = heard crew first bus world ++
      heard crew later (mentionEach crew first bus world).result.1 (mentionEach crew first bus world).result.2 := by
  induction first generalizing bus world with
  | nil => rfl
  | cons call rest ih => exact congrArg (_ :: ·) (ih _ _)

theorem map_heard (crew : Crew ω) (calls : List (Mention ω)) (bus : Bus) (world : ω) :
    (heard crew calls bus world).map (fun e => (e.ref, e.kind)) = calls.map fun call => (call.ref, call.kind) := by
  induction calls generalizing bus world with
  | nil => rfl
  | cons call rest ih => exact congrArg (_ :: ·) (ih _ _)

theorem map_ref_heard (crew : Crew ω) (calls : List (Mention ω)) (bus : Bus) (world : ω) :
    (heard crew calls bus world).map (·.ref) = calls.map (·.ref) := by
  have pairs := congrArg (List.map Prod.fst) (map_heard crew calls bus world)
  rwa [List.map_map, List.map_map] at pairs

theorem result_mentionEach (calls : List (Mention ω)) (bus : Bus) (world : ω) (open_ : bus.started = false) :
    (mentionEach crew calls bus world).result.1 =
      { bus with registry := (heard crew calls bus world).foldl Registry.enroll bus.registry } := by
  induction calls generalizing bus world with
  | nil => rfl
  | cons call rest ih =>
    have registered := register_of_open open_ crew call.ref call.kind (call.meanwhile world)
    rw [mentionEach, Traced.result_bind, heard, List.foldl_cons]
    dsimp only
    rw [registered]
    exact ih _ _ open_

/-- An object that is known is not asked anything. -/
theorem register_of_known (open_ : bus.started = false) {ref : NodeRef} (known : bus.registry.knows ref = true)
    (crew : Crew ω) (kind : Option MessageKind) (world : ω) :
    bus.register crew ref kind world = pure (.ok
      { bus with registry := kind.elim bus.registry (bus.registry.subscribe ref) }, world) := by
  have enrolled : enroll crew ref bus world = pure (bus, world) := by
    unfold enroll
    rw [if_pos known]
  unfold register
  rw [if_neg (by simp [open_]), enrolled]
  cases kind <;> rfl

/-! ## The result -/

/-- What a bus that was new has in its registry after some calls, told by the calls. -/
structure Remembers (crew : Crew ω) (new : Bus) (world : ω) (calls : List (Mention ω)) (bus : Bus) : Prop where
  refs : bus.registry.records.map (·.ref) = (calls.map (·.ref)).eraseDups
  distinct : (bus.registry.records.map (·.ref)).Nodup
  /-- An object is asked who it is, and then for its name, when it is first mentioned. -/
  answers : ∀ before call after, calls = before ++ call :: after → (∀ c ∈ before, c.ref ≠ call.ref) →
    ∀ r ∈ bus.registry.records, r.ref = call.ref →
      let asked := call.meanwhile (mentionEach crew before new world).result.2
      r.id = (crew.id call.ref asked).1 ∧ r.name = (crew.name call.ref (crew.id call.ref asked).2).1
  subscriptions : ∀ r ∈ bus.registry.records, r.subscriptions =
    (calls.filterMap fun call => if call.ref = r.ref then call.kind else none).eraseDups
  found : ∀ id r, bus.registry.find? id = some r ↔ r.id = id ∧
    ∃ earlier later, bus.registry.records = earlier ++ r :: later ∧ ∀ q ∈ earlier, q.id ≠ id
  interested : ∀ kind, bus.registry.interested kind = bus.registry.records.filter fun r =>
    calls.any fun call => call.ref = r.ref ∧ call.kind = some kind
  /-- What another call for a known object comes to does not depend on what any object would answer, and leaves the
  objects as they are. -/
  unasked : ∀ call ∈ calls, ∀ kind, ∃ registry, ∀ (others : Crew ω) w,
    bus.register others call.ref kind w = pure (.ok { bus with registry }, w)
  repeated : ∀ call ∈ calls, ∀ (others : Crew ω) w, bus.register others call.ref call.kind w = pure (.ok bus, w)

/-- A registry represents the calls that were made, whatever the objects answer and however they change meanwhile. -/
theorem remembers_mentionEach (crew : Crew ω) (config : BusConfig) (queue : Queue) (transcript : Transcript)
    (calls : List (Mention ω)) (world : ω) :
    let new : Bus := { config, queue, transcript }
    Remembers crew new world calls (mentionEach crew calls new world).result.1 := by
  intro new
  have result : (mentionEach crew calls new world).result.1 =
      { new with registry := Registry.of (heard crew calls new world) } := by
    rw [result_mentionEach calls new world rfl, ← Registry.foldl_enroll]
  have known : ∀ call ∈ calls, (Registry.of (heard crew calls new world)).knows call.ref = true := by
    intro call hcall
    have there : call.ref ∈ (heard crew calls new world).map (·.ref) := by
      rw [map_ref_heard]
      exact List.mem_map_of_mem hcall
    obtain ⟨e, he, same⟩ := List.mem_map.1 there
    rw [Registry.knows_of, List.any_eq_true]
    exact ⟨e, he, beq_iff_eq.2 same⟩
  have interested : ∀ r ∈ (Registry.of (heard crew calls new world)).records, ∀ kind,
      r.isInterested kind = calls.any fun call => call.ref = r.ref ∧ call.kind = some kind := by
    intro r hr kind
    obtain ⟨first, -, rfl⟩ := eq_recordOf _ hr
    have pairs := congrArg (List.any · fun p => decide (p.1 = first.ref ∧ p.2 = some kind))
      (map_heard crew calls new world)
    rw [List.any_map, List.any_map] at pairs
    rw [isInterested_recordOf]
    exact pairs
  rw [result]
  refine ⟨?_, nodup_ref_of _, ?_, ?_, ?_, ?_, ?_, ?_⟩
  · rw [map_ref_of, map_ref_heard]
  · intro before call after split first r hr same
    subst split
    have unmentioned : ∀ e ∈ heard crew before new world, e.ref ≠ call.ref := by
      intro e he hsame
      have there : call.ref ∈ before.map (·.ref) := by
        rw [← map_ref_heard crew before new world, ← hsame]
        exact List.mem_map_of_mem he
      obtain ⟨c, hc, h⟩ := List.mem_map.1 there
      exact first c hc h
    dsimp only at hr
    rw [heard_append, heard] at hr
    rw [recordOf_of_ref _ _ _ unmentioned hr same]
    exact ⟨rfl, rfl⟩
  · intro r hr
    obtain ⟨first, -, rfl⟩ := eq_recordOf _ hr
    have pairs := congrArg (List.filterMap fun p => if p.1 = first.ref then p.2 else none)
      (map_heard crew calls new world)
    rw [List.filterMap_map, List.filterMap_map] at pairs
    exact congrArg List.eraseDups pairs
  · intro id r
    rw [Registry.find?, List.find?_eq_some_iff_append]
    simp
  · intro kind
    exact List.filter_congr fun r hr => interested r hr kind
  · intro call hcall kind
    exact ⟨_, fun others w => register_of_known rfl (known call hcall) others kind w⟩
  · intro call hcall others w
    rw [register_of_known rfl (known call hcall)]
    cases hkind : call.kind with
    | none => rfl
    | some kind =>
      have same : (Registry.of (heard crew calls new world)).subscribe call.ref kind =
          Registry.of (heard crew calls new world) := by
        refine Registry.subscribe_eq_self _ _ _ fun r hr here => ?_
        rw [interested r hr kind, List.any_eq_true]
        exact ⟨call, hcall, decide_eq_true ⟨here.symm, hkind⟩⟩
      simp only [Option.elim_some, same]

/-- Two objects claim one identity, and the first has changed its mind by the time it is subscribed again. -/
example :
    let calls : List (Mention Nat) :=
      [⟨0, some .windData, id⟩, ⟨1, none, fun _ => 0⟩, ⟨0, some .gpsData, (· + 5)⟩, ⟨0, some .windData, id⟩]
    (mentionEach LiveBus.restless calls {} 0).result.1.registry =
      ⟨[⟨0, .windState, "Mast", [.windData, .gpsData]⟩, ⟨1, .windState, "Mast", []⟩]⟩ := by decide

end Bus

end VesselBus
