import VesselBus.Proofs.Bus.Draining
import VesselBus.Proofs.Bus.Faults
import VesselBus.Proofs.Bus.Sequential

/-!
# The registration closes once

The first run closes the registration, and nothing opens it again: not that the run comes to its end, and not that a
stop was asked for before it. Whoever comes later is turned away and changes nothing, be it known already or not. So
the registry of every later dispatch is the one that the registrations before the first run have built.
-/

namespace VesselBus

variable {ω : Type} {crew : Crew ω}

namespace Bus

/-- The object is asked for its name first, which is in the warning, and only then who it is. -/
theorem register_eq_error_iff {bus : Bus} {ref : NodeRef} {kind : Option MessageKind} {world : ω}
    {e : RegistrationClosed} : (bus.register crew ref kind world).result.1 = .error e ↔
      bus.started = true ∧ e.node = (crew.id ref (crew.name ref world).2).1 := by
  cases started : bus.started with
  | false =>
    rw [register_of_open started]
    simp
  | true =>
    have answer : (bus.register crew ref kind world).result.1 =
        .error ⟨(crew.id ref (crew.name ref world).2).1⟩ := by
      unfold register
      rw [if_pos started]
      rfl
    rw [answer]
    constructor
    · rintro ⟨⟩
      exact ⟨rfl, rfl⟩
    · rintro ⟨-, same⟩
      rw [← same]

end Bus

theorem Registry.foldl_enroll (calls : List Enrollment) : calls.foldl Registry.enroll {} = Registry.of calls := by
  induction calls using List.reverseRecOn with
  | nil => rfl
  | append_singleton calls call ih => rw [List.foldl_concat, ih, Registry.enroll_of]

/-- It is a run of the bus. -/
def Command.isRun : Command → Bool
  | .run .. => true
  | _ => false

namespace LiveBus

variable {trace : List Mark} {s : LiveBus ω} {bus : Bus} {world : ω}

theorem enrollments_of_split {before after : List Mark} (split : trace = before ++ .entered :: after)
    (first : .entered ∉ before) : enrollments trace = before.filterMap Mark.enrolling? := by
  have none_entered : ∀ m ∈ before, (!m.isEntry) = true := by
    intro m hm
    rw [Bool.not_eq_true', ← Bool.not_eq_true, Mark.isEntry_iff]
    rintro rfl
    exact first hm
  rw [enrollments, split, List.takeWhile_append_of_pos none_entered]
  simp

theorem Reachable.started_iff (h : Reachable crew trace s) : s.bus.started = true ↔ .entered ∈ trace := by
  rw [h.registered.started, List.any_eq_true]
  constructor
  · rintro ⟨m, hm, entry⟩
    exact Mark.isEntry_iff.1 entry ▸ hm
  · exact fun hm => ⟨_, hm, rfl⟩

/-! ## Commands of an owner -/

/-- What the owner of a bus has it do is a way in which the steps can go. -/
theorem Reachable.perform (h : Reachable crew trace ⟨bus, world, .idle⟩) (create : String → Except String Sink)
    (command : Command) :
    let x := bus.perform crew create world command
    ∃ more, Reachable crew (trace ++ more) ⟨x.result.1, x.result.2, .idle⟩ := by
  cases command with
  | register ref kind => exact ⟨_, h.step (.register _ ref kind rfl)⟩
  | send now m => exact ⟨_, h.step (.send _ ⟨now, create⟩ m)⟩
  | stop => exact ⟨_, h.step (.stop _)⟩
  | run now patience =>
    obtain ⟨more, reached, -⟩ := h.run rfl ⟨now, create⟩ patience
    exact ⟨more, reached⟩

theorem Reachable.performEach (h : Reachable crew trace ⟨bus, world, .idle⟩) (create : String → Except String Sink)
    (commands : List Command) :
    let x := bus.performEach crew create commands world
    ∃ more, Reachable crew (trace ++ more) ⟨x.result.1, x.result.2, .idle⟩ := by
  induction commands generalizing trace bus world with
  | nil => exact ⟨[], by rwa [List.append_nil]⟩
  | cons command rest ih =>
    obtain ⟨first, reached⟩ := h.perform create command
    obtain ⟨later, reached⟩ := ih reached
    exact ⟨first ++ later, by rwa [← List.append_assoc]⟩

/-- A run closes the registration before it does anything else, and leaves it closed. -/
theorem started_run (crew : Crew ω) (host : Host) (patience : Nat) (bus : Bus) (world : ω) :
    (Bus.run crew host patience bus world).result.1.started = true := by
  obtain ⟨⟨looping, looped, -⟩, -⟩ : Reports crew _ _ _ ∧ _ :=
    reports_turns host patience (bus.prepare host).result world
  have started := (journal_of_started looped (Bus.started_prepare host bus)).2.1
  obtain ⟨⟨draining, drained, -⟩, -⟩ : Reports crew _ _ _ ∧ _ := reports_turn host
    (Bus.turns crew host patience (bus.prepare host).result world).result.1
    (Bus.turns crew host patience (bus.prepare host).result world).result.2 true
  exact (journal_of_started drained started).2.1

theorem started_perform (crew : Crew ω) (create : String → Except String Sink) (bus : Bus) (world : ω)
    (command : Command) :
    (bus.perform crew create world command).result.1.started = (bus.started || command.isRun) := by
  cases command with
  | register ref kind =>
    cases started : bus.started with
    | false =>
      simp [Bus.perform, Bus.register_of_open started, Except.toOption, Command.isRun, started]
    | true =>
      obtain ⟨e, refused⟩ := Bus.register_of_started started crew ref kind world
      simp [Bus.perform, refused, Except.toOption, Command.isRun, started]
  | run now patience =>
    rw [Command.isRun, Bool.or_true]
    exact started_run crew ⟨now, create⟩ patience bus world
  | send | stop => exact (Bool.or_false _).symm

theorem started_performEach (crew : Crew ω) (create : String → Except String Sink) (commands : List Command)
    (bus : Bus) (world : ω) : (bus.performEach crew create commands world).result.1.started =
      (bus.started || commands.any Command.isRun) := by
  induction commands generalizing bus world with
  | nil => exact (Bool.or_false _).symm
  | cons command rest ih =>
    rw [List.any_cons, ← Bool.or_assoc, ← started_perform crew create bus world command]
    exact ih _ _

/-! ## The result -/

/-- When the registration closes, and what that comes to. -/
structure ClosesOnce (crew : Crew ω) (trace : List Mark) (s : LiveBus ω) : Prop where
  /-- Whoever registers is turned away exactly if a run has begun, and as the one that it then says it is. -/
  refused_iff : ∀ ref kind e, (s.bus.register crew ref kind s.world).result.1 = .error e ↔
    .entered ∈ trace ∧ e.node = (crew.id ref (crew.name ref s.world).2).1
  refused : .entered ∈ trace → ∀ ref kind, (s.enrolled crew ref kind).bus = s.bus
  accepted : .entered ∉ trace → ∀ ref kind, (s.enrolled crew ref kind).bus =
    { s.bus with registry := s.bus.registry.enroll (crew.enrollment ref kind s.world) }
  /-- The registry stays what the registrations before the first run have built, and all that is dispatched is
  delivered by it. -/
  fixed : ∀ before after, trace = before ++ .entered :: after → .entered ∉ before →
    let registry := (before.filterMap Mark.enrolling?).foldl Registry.enroll {}
    ∀ later t, Steps (Step crew) s later t → t.bus.registry = registry ∧
      journal (trace ++ later) ++ t.stage.owed = (dispatched (trace ++ later)).flatMap registry.deliveries
  /-- The same of commands that the owner of the bus gives one after the other. -/
  commands : s.stage = .idle → ∀ create commands, let x := s.bus.performEach crew create commands s.world
    (∀ ref kind e, (x.result.1.register crew ref kind x.result.2).result.1 = .error e ↔
      (.entered ∈ trace ∨ ∃ command ∈ commands, command.isRun = true) ∧
        e.node = (crew.id ref (crew.name ref x.result.2).2).1) ∧
    (.entered ∈ trace → x.result.1.registry = s.bus.registry)

theorem Reachable.fixed (h : Reachable crew trace s) {before after : List Mark}
    (split : trace = before ++ .entered :: after) (first : .entered ∉ before) :
    let registry := (before.filterMap Mark.enrolling?).foldl Registry.enroll {}
    s.bus.registry = registry ∧
      journal trace ++ s.stage.owed = (dispatched trace).flatMap registry.deliveries := by
  have built : s.bus.registry = (before.filterMap Mark.enrolling?).foldl Registry.enroll {} := by
    rw [h.registered.registry, enrollments_of_split split first, Registry.foldl_enroll]
  refine ⟨built, ?_⟩
  rw [← built]
  exact h.routed.journal

/-- The first run closes the registration for good, whatever else is done with the bus and in whatever order. -/
theorem closesOnce_of_reachable (h : Reachable crew trace s) : ClosesOnce crew trace s where
  refused_iff ref kind e := by rw [Bus.register_eq_error_iff, h.started_iff]
  refused entered := enrolled_of_started (h.started_iff.2 entered)
  accepted open_ := enrolled_of_open (Bool.eq_false_iff.2 (mt h.started_iff.1 open_))
  fixed before after split first later t run := by
    have split : trace ++ later = before ++ .entered :: (after ++ later) := by
      rw [split, List.append_assoc, List.cons_append]
    exact (h.append run).fixed split first
  commands idle create commands := by
    obtain ⟨bus, world, stage⟩ := s
    subst idle
    constructor
    · intro ref kind e
      rw [Bus.register_eq_error_iff, started_performEach, Bool.or_eq_true, List.any_eq_true, h.started_iff]
    · intro entered
      obtain ⟨before, after, split, first⟩ := List.eq_append_cons_of_mem entered
      obtain ⟨more, reached⟩ := h.performEach create commands
      have now := (h.fixed split first).1
      have split : trace ++ more = before ++ .entered :: (after ++ more) := by
        rw [split, List.append_assoc, List.cons_append]
      have later := (reached.fixed split first).1
      exact later.trans now.symm

/-- Objects that say something else each time they are asked. -/
def restless : Crew Nat where
  id _ asked := (if asked = 0 then .windState else .compass, asked + 1)
  name _ asked := (if asked < 2 then "Mast" else "Keel", asked + 1)
  isActive _ := false
  react _ _ asked := .returning asked

/-- A stop is asked for before the run. The object that is known since then is turned away after it as the one that it
calls itself by now, and keeps the identity and the name that it gave first. -/
theorem closesOnce_of_reachable_restless : ∃ trace s, Reachable restless trace s ∧ .entered ∈ trace ∧
    s.stage = .idle ∧ (s.bus.register restless 0 (some .gpsData) s.world).result.1 = .error ⟨.compass⟩ ∧
    s.bus.registry = ⟨[⟨0, .windState, "Mast", [.windData]⟩]⟩ ∧ ClosesOnce restless trace s := by
  have stopping := ((Reachable.new {} .absent 0 : Reachable restless [] _).step
    (.register _ 0 (some .windData) rfl)).step (.stop _)
  have closed := ((stopping.step (.enter _ midnight rfl)).step (.heed _ rfl rfl)).step (.close _ rfl)
  have returned := closed.step (.leave _ rfl rfl)
  have later := returned.step (.register _ 0 (some .gpsData) rfl)
  exact ⟨_, _, later, by simp, rfl, rfl, rfl, closesOnce_of_reachable later⟩

end LiveBus

end VesselBus
