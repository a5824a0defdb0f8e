import VesselBus.Proofs.Bus.Order
import VesselBus.Proofs.Bus.Registration

/-!
# Who is given what

The deliveries that a bus begins are told by its registrations and by the messages it dispatches, and by
nothing else: what the nodes do with a message, and whether they panic, is not among it.
-/

namespace VesselBus

/-- The objects that are to see a message after these registrations, in that order. -/
def audience (calls : List Enrollment) (m : Message) : List NodeRef :=
  if m.destination = .none then
    ((firstMentions calls).filter fun first =>
      calls.any fun call => call.ref = first.ref ∧ call.kind = some m.kind).map (·.ref)
  else (((firstMentions calls).find? (·.id == m.destination)).map (·.ref)).toList

def deliveriesTo (calls : List Enrollment) (e : Envelope) : List (NodeRef × Message) :=
  (audience calls e.message).map (·, e.message)

/-- The deliveries of the message in hand that have not begun. -/
def Stage.owed {ω : Type} : Stage ω → List (NodeRef × Message)
  | .delivering _ e rest | .reacting _ e _ rest _ => rest.map fun r => (r.ref, e.message)
  | _ => []

def Registry.deliveries (g : Registry) (e : Envelope) : List (NodeRef × Message) :=
  (g.receivers e.message).map fun r => (r.ref, e.message)

/-! ## Receivers -/

theorem mem_kindsOf (calls : List Enrollment) (ref : NodeRef) (kind : MessageKind) :
    kind ∈ kindsOf calls ref ↔ ∃ call ∈ calls, call.ref = ref ∧ call.kind = some kind := by
  rw [kindsOf, List.mem_eraseDups, List.mem_filterMap]
  constructor
  · rintro ⟨call, hc, h⟩
    obtain ⟨same, h⟩ := Option.ite_none_right_eq_some.1 h
    exact ⟨call, hc, same, h⟩
  · rintro ⟨call, hc, same, h⟩
    exact ⟨call, hc, by rw [if_pos same, h]⟩

theorem isInterested_recordOf (calls : List Enrollment) (first : Enrollment) (kind : MessageKind) :
    (recordOf calls first).isInterested kind =
      calls.any fun call => call.ref = first.ref ∧ call.kind = some kind := by
  rw [Bool.eq_iff_iff, Record.isInterested, List.contains_iff_mem, recordOf, mem_kindsOf]
  simp

/-- The receivers that a registry names are the audience of its registrations. -/
theorem receivers_of (calls : List Enrollment) (m : Message) :
    ((Registry.of calls).receivers m).map (·.ref) = audience calls m := by
  unfold Registry.receivers audience
  have broadcast : m.isBroadcast = true ↔ m.destination = .none := NodeId.isNone_iff
  by_cases h : m.destination = .none
  · rw [if_pos (broadcast.2 h), if_pos h]
    simp only [Registry.interested, Registry.of, List.filter_map, List.map_map, Function.comp_def,
      isInterested_recordOf]
    rfl
  · rw [if_neg (mt broadcast.1 h), if_neg h]
    simp only [Registry.find?, Registry.of, List.find?_map, Function.comp_def]
    show ((firstMentions calls).find? (·.id == m.destination) |>.map (recordOf calls)).toList.map (·.ref) = _
    cases (firstMentions calls).find? (·.id == m.destination) <;> rfl

theorem nodup_audience (calls : List Enrollment) (m : Message) : (audience calls m).Nodup := by
  unfold audience
  split
  · exact (nodup_firstMentions calls).sublist (List.filter_sublist.map _)
  · cases (firstMentions calls).find? (·.id == m.destination) <;> simp

namespace LiveBus

variable {ω : Type} {crew : Crew ω} {trace marks : List Mark} {s t : LiveBus ω}

/-- A step that dispatches a message owes its deliveries, and one that begins a delivery owes one less. -/
theorem Step.journal (h : Step crew s marks t) :
    journal marks ++ t.stage.owed = s.stage.owed ++ (dispatched marks).flatMap s.bus.registry.deliveries := by
  have keep (noneGiven : LiveBus.journal marks = []) (noneTaken : dispatched marks = [])
      (same : t.stage.owed = s.stage.owed) :
      LiveBus.journal marks ++ t.stage.owed =
        s.stage.owed ++ (dispatched marks).flatMap s.bus.registry.deliveries := by
    rw [noneGiven, noneTaken, same, List.flatMap_nil, List.append_nil, List.nil_append]
  cases h with
  | take host last e rest at_ =>
    rw [dispatched_announce, journal_announce, at_]
    simp [Stage.owed, Registry.deliveries]
  | call last e r rest at_ =>
    rw [at_]
    exact (List.append_nil _).symm
  | register ref kind =>
    have quiet := Bus.isQuiet_register crew ref kind s.bus s.world
    exact keep (journal_said quiet) (dispatched_said quiet) rfl
  | enter host idle =>
    have quiet := Bus.isQuiet_prepare host s.bus
    exact keep (journal_said quiet) (dispatched_said quiet) (by rw [idle]; rfl)
  | flush last e at_ =>
    have quiet := Bus.isQuiet_transcribe (·.flush) s.bus
    exact keep (journal_said quiet) (dispatched_said quiet) (by rw [at_]; rfl)
  | finish host last e r rest world outcome at_ =>
    have quiet := Bus.isQuiet_settle host e.message r outcome s.bus
    exact keep (journal_said quiet) (dispatched_said quiet) (by rw [at_]; rfl)
  | send | stop | disturb => exact keep rfl rfl rfl
  | proceed at_ | heed at_ | elapse at_ | swap _ at_ | close at_ | again at_ | leave at_
  | note _ _ _ _ _ _ at_ | reply _ _ _ _ _ _ _ at_ | halt _ _ _ _ _ at_ | askPending _ _ _ _ _ at_
  | askStopped _ _ _ _ _ at_ => exact keep rfl rfl (by rw [at_]; rfl)

theorem Step.dispatched_of_idle (h : Step crew s marks t) (idle : s.stage = .idle) : dispatched marks = [] := by
  cases h with
  | register ref kind => exact dispatched_said (Bus.isQuiet_register crew ref kind s.bus s.world)
  | enter host => exact dispatched_said (Bus.isQuiet_prepare host s.bus)
  | take host last e rest at_ => simp [idle] at at_
  | flush last e at_ => simp [idle] at at_
  | finish host last e r rest world outcome at_ => simp [idle] at at_
  | _ => rfl

theorem Step.started_mono (h : Step crew s marks t) (started : s.bus.started = true) : t.bus.started = true := by
  rcases h.registration with ⟨ref, kind, -, rfl, -⟩ | ⟨host, -, rfl, -⟩ | ⟨-, same, -⟩
  · rw [enrolled_of_started started, started]
  · exact Bus.started_prepare host s.bus
  · rw [same, started]

theorem Step.registry_of_started (h : Step crew s marks t) (started : s.bus.started = true) :
    t.bus.registry = s.bus.registry := by
  rcases h.registration with ⟨ref, kind, -, rfl, -⟩ | ⟨host, -, rfl, -⟩ | ⟨same, -⟩
  · rw [enrolled_of_started started]
  · exact Bus.registry_prepare host s.bus
  · exact same

/-! ## The result -/

structure Routed (trace : List Mark) (s : LiveBus ω) : Prop where
  unopened : s.bus.started = false → dispatched trace = []
  journal : journal trace ++ s.stage.owed = (dispatched trace).flatMap s.bus.registry.deliveries

/-- Nothing is dispatched before the registration closes, and nothing changes the registry after it. -/
theorem Reachable.routed (h : Reachable crew trace s) : Routed trace s := by
  induction h with
  | new => exact ⟨fun _ => rfl, rfl⟩
  | @step trace marks s t before taken inv =>
    have journal : LiveBus.journal (trace ++ marks) ++ t.stage.owed =
        (dispatched (trace ++ marks)).flatMap s.bus.registry.deliveries := by
      rw [journal_append, List.append_assoc, taken.journal, ← List.append_assoc, inv.journal,
        dispatched_append, List.flatMap_append]
    cases started : s.bus.started with
    | true => exact ⟨fun h => by simp [taken.started_mono started] at h,
        by rw [taken.registry_of_started started]; exact journal⟩
    | false =>
      have none : dispatched (trace ++ marks) = [] := by
        rw [dispatched_append, inv.unopened started, taken.dispatched_of_idle (before.registered.idle started)]
        rfl
      exact ⟨fun _ => none, by rw [journal, none]; rfl⟩

/-- The deliveries that were begun, then those that are owed, are those of each dispatched message to its
audience, in the order of dispatch. Nobody is in an audience twice. -/
theorem journal_append_owed (h : Reachable crew trace s) :
    journal trace ++ s.stage.owed = (dispatched trace).flatMap (deliveriesTo (enrollments trace)) ∧
      (s.stage = .idle → journal trace = (dispatched trace).flatMap (deliveriesTo (enrollments trace))) ∧
      ∀ m, (audience (enrollments trace) m).Nodup := by
  have all : journal trace ++ s.stage.owed = (dispatched trace).flatMap (deliveriesTo (enrollments trace)) := by
    rw [h.routed.journal, h.registered.registry]
    refine congrArg (List.flatMap · _) (funext fun e => ?_)
    rw [deliveriesTo, ← receivers_of, List.map_map]
    rfl
  refine ⟨all, fun idle => ?_, nodup_audience _⟩
  rw [← all, idle]
  exact (List.append_nil _).symm

/-- Two objects that claim one identity, and one of them registered twice. Each panics at whatever it is
given; a broadcast reaches both all the same, and a directed message the first. -/
theorem journal_append_owed_echo : ∃ trace s, Reachable echo trace s ∧
    enrollments trace = [⟨0, some .windData, .windState, "WindState"⟩, ⟨1, some .windData, .windState, "WindState"⟩,
      ⟨0, some .gpsData, .windState, "WindState"⟩] ∧
    journal trace = [(0, .anonymous .windData), (1, .anonymous .windData),
      (0, .directed .unknown .none .windState)] ∧
    journal trace ++ s.stage.owed = (dispatched trace).flatMap (deliveriesTo (enrollments trace)) ∧
    (s.stage = .idle → journal trace = (dispatched trace).flatMap (deliveriesTo (enrollments trace))) ∧
    ∀ m, (audience (enrollments trace) m).Nodup := by
  have registered := (((Reachable.new {} .absent () : Reachable echo [] _).step
    (.register _ 0 (some .windData) rfl)).step (.register _ 1 (some .windData) rfl)).step
    (.register _ 0 (some .gpsData) rfl)
  have sent := (registered.step (.send _ midnight (.anonymous .windData))).step
    (.send _ midnight (.directed .unknown .none .windState))
  have swapped := ((sent.step (.enter _ midnight rfl)).step (.proceed _ rfl rfl)).step (.swap _ false rfl rfl)
  have first := (((swapped.step (.take _ midnight false _ _ rfl rfl)).step (.call _ false _ _ _ rfl)).step
    (.reply _ midnight false _ _ _ _ _ rfl)).step (.finish _ midnight false _ _ _ _ _ rfl)
  have second := ((first.step (.call _ false _ _ _ rfl)).step (.reply _ midnight false _ _ _ _ _ rfl)).step
    (.finish _ midnight false _ _ _ _ _ rfl)
  have directed := ((second.step (.flush _ false _ rfl)).step (.take _ midnight false _ _ rfl rfl)).step
    (.call _ false _ _ _ rfl)
  exact ⟨_, _, directed, rfl, rfl, journal_append_owed directed⟩

end LiveBus

end VesselBus
