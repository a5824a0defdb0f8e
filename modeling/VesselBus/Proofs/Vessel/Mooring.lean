import VesselBus.Proofs.Bus.Closing
import VesselBus.Vessel.Assembly

/-!
# A bus before its first run

Until a run begins, registrations, messages and requests to stop do not get in each other's way, in whatever order they
come. For the nodes of a vessel this tells who will be given what.
-/

namespace VesselBus

variable {ω : Type}

/-! ## Histories without a run -/

namespace Command

@[simp] def registration? : Command → Option (NodeRef × Option MessageKind)
  | .register ref kind => some (ref, kind)
  | _ => none

@[simp] def sent? : Command → Option Envelope
  | .send now m => some ⟨m, now⟩
  | _ => none

@[simp] def isStop : Command → Bool
  | .stop => true
  | _ => false

end Command

/-- Objects that are not changed by being asked who they are. -/
def Crew.Discreet (crew : Crew ω) : Prop := ∀ ref world, (crew.id ref world).2 = world ∧ (crew.name ref world).2 = world

namespace Bus

variable {crew : Crew ω}

theorem world_register (discreet : crew.Discreet) (ref : NodeRef) (kind : Option MessageKind) (bus : Bus) (world : ω) :
    (bus.register crew ref kind world).result.2 = world := by
  have id := (discreet ref world).1
  have name := (discreet ref world).2
  unfold register
  by_cases started : bus.started = true
  · rw [if_pos started]
    simp [id, name]
  · have enrolled : (enroll crew ref bus world).result.2 = world := by
      unfold enroll
      by_cases known : bus.registry.knows ref = true
      · simp [known]
      · by_cases shared : (bus.registry.find? (crew.id ref world).1).isSome = true <;> simp [known, shared, id, name]
    rw [if_neg started]
    cases kind <;> simpa using enrolled

/-- The bus after a history in which there was no run. -/
def after (crew : Crew ω) (world : ω) (commands : List Command) (bus : Bus) : Bus :=
  { bus with
    queue := { bus.queue with
      front := bus.queue.front ++ commands.filterMap Command.sent?
      stopRequested := bus.queue.stopRequested || commands.any Command.isStop }
    registry := (commands.filterMap Command.registration?).foldl
      (fun g call => g.enroll (crew.enrollment call.1 call.2 world)) bus.registry }

theorem result_performEach (discreet : crew.Discreet) (create : String → Except String Sink) (commands : List Command)
    (noRun : ∀ command ∈ commands, command.isRun = false) (bus : Bus) (world : ω) (open_ : bus.started = false) :
    (performEach crew create commands bus world).result = (bus.after crew world commands, world) := by
  induction commands generalizing bus with
  | nil => simp [performEach, after]
  | cons command rest ih =>
    rw [List.forall_mem_cons] at noRun
    have performed : (bus.perform crew create world command).result = (bus.after crew world [command], world) := by
      cases command with
      | register ref kind =>
        simp [perform, register_of_open open_, world_register discreet, Except.toOption, after, List.filterMap_cons]
      | send now m => simp [perform, send, Queue.push, after, List.filterMap_cons]
      | stop => simp [perform, stop, Queue.requestStop, after, List.filterMap_cons]
      | run now patience => simp [Command.isRun] at noRun
    have later := ih noRun.2 (bus.after crew world [command]) open_
    rw [performEach, Traced.result_bind, performed]
    refine later.trans ?_
    cases command <;> simp [after, List.filterMap_cons]

end Bus

/-! ## Who hears what -/

/-- It comes to a node of some identity: as a broadcast of a kind that the node hears of, or else by its destination. -/
def Message.reaches (m : Message) (id : NodeId) (hears : MessageKind → Bool) : Bool :=
  if m.isBroadcast then hears m.kind else id == m.destination

theorem toList_find?_of_nodup {α β : Type} [DecidableEq β] (f : α → β) (target : β) (xs : List α)
    (distinct : (xs.map f).Nodup) : (xs.find? (f · == target)).toList = xs.filter (f · == target) := by
  induction xs with
  | nil => rfl
  | cons x rest ih =>
    obtain ⟨fresh, distinct⟩ := List.nodup_cons.1 distinct
    by_cases found : f x = target
    · have none_later : rest.filter (f · == target) = [] := by
        refine List.filter_eq_nil_iff.2 fun y hy same => fresh ?_
        rw [found, ← eq_of_beq same]
        exact List.mem_map_of_mem hy
      simp [found, none_later]
    · simp [found, ih distinct]

/-- Where no two objects claim one identity, a message comes to each object by itself. -/
theorem audience_of_distinct (calls : List Enrollment) (m : Message)
    (distinct : ((firstMentions calls).map (·.id)).Nodup) :
    audience calls m = ((firstMentions calls).filter fun first => m.reaches first.id fun kind =>
      calls.any fun call => call.ref = first.ref ∧ call.kind = some kind).map (·.ref) := by
  unfold audience Message.reaches
  have broadcast : m.isBroadcast = true ↔ m.destination = .none := NodeId.isNone_iff
  by_cases h : m.destination = .none
  · simp only [if_pos h, if_pos (broadcast.2 h)]
  · simp only [if_neg h, if_neg (mt broadcast.1 h)]
    rw [Option.toList_map, toList_find?_of_nodup Enrollment.id _ _ distinct]

namespace Vessel

/-- The registrations of a vessel, in their order. The recorder may be registered for any kinds, for none, or not at
all. -/
def stations (kept : List (Option MessageKind)) : List (NodeRef × Option MessageKind) :=
  (sensorRef, some .serverConfigsReceived) :: (estimatorRef, some .windData) :: kept.map (recorderRef, ·)

def isForSensor (m : Message) : Bool := m.reaches .canWindSensor (· == .serverConfigsReceived)

def isForEstimator (m : Message) : Bool := m.reaches .windState (· == .windData)

def isForRecorder (kept : List (Option MessageKind)) (m : Message) : Bool :=
  !kept.isEmpty && m.reaches .dbLogger fun kind => kept.contains (some kind)

def audience (kept : List (Option MessageKind)) (m : Message) : List NodeRef :=
  (if isForSensor m then [sensorRef] else []) ++ (if isForEstimator m then [estimatorRef] else []) ++
    if isForRecorder kept m then [recorderRef] else []

variable {now : TimeOfDay} {v : Vessel} {kept : List (Option MessageKind)}

theorem discreet_crew (now : TimeOfDay) : (crew now).Discreet := fun _ _ => ⟨rfl, rfl⟩

theorem firstMentions_same (ref : NodeRef) (id : NodeId) (name : String) (kinds : List (Option MessageKind)) :
    firstMentions (kinds.map fun kind => ⟨ref, kind, id, name⟩) =
      (kinds.head?.map fun kind => (⟨ref, kind, id, name⟩ : Enrollment)).toList := by
  induction kinds with
  | nil => rfl
  | cons kind rest ih =>
    rw [List.map_cons, firstMentions, ih]
    cases rest <;> simp

def enrollments (now : TimeOfDay) (v : Vessel) (kept : List (Option MessageKind)) : List Enrollment :=
  (stations kept).map fun call => (crew now).enrollment call.1 call.2 v

theorem firstMentions_enrollments : firstMentions (enrollments now v kept) =
    (crew now).enrollment sensorRef (some .serverConfigsReceived) v ::
      (crew now).enrollment estimatorRef (some .windData) v ::
        (kept.head?.map fun kind => (crew now).enrollment recorderRef kind v).toList := by
  have recorder := firstMentions_same recorderRef .dbLogger NodeId.dbLogger.name kept
  have enrolled : (kept.map (recorderRef, ·)).map (fun call => (crew now).enrollment call.1 call.2 v) =
      kept.map fun kind => ⟨recorderRef, kind, .dbLogger, NodeId.dbLogger.name⟩ := by
    rw [List.map_map]
    rfl
  rw [enrollments, stations, List.map_cons, List.map_cons, firstMentions, firstMentions, enrolled, recorder]
  cases kept <;> rfl

def subscribes (kept : List (Option MessageKind)) (ref : NodeRef) (kind : MessageKind) : Bool :=
  if ref = sensorRef then kind == .serverConfigsReceived
  else if ref = estimatorRef then kind == .windData
  else ref == recorderRef && kept.contains (some kind)

theorem any_enrollments (ref : NodeRef) (kind : MessageKind) :
    ((enrollments now v kept).any fun call => call.ref = ref ∧ call.kind = some kind) = subscribes kept ref kind := by
  have asked : ((enrollments now v kept).any fun call => call.ref = ref ∧ call.kind = some kind) = true ↔
      (ref, some kind) ∈ stations kept := by
    rw [enrollments, List.any_map, List.any_eq_true]
    constructor
    · rintro ⟨⟨ref', kind'⟩, hm, same⟩
      obtain ⟨rfl, rfl⟩ := of_decide_eq_true same
      exact hm
    · exact fun hm => ⟨_, hm, decide_eq_true ⟨rfl, rfl⟩⟩
  rw [Bool.eq_iff_iff, asked]
  unfold stations subscribes
  by_cases sensor : ref = sensorRef
  · simp [sensor, sensorRef, estimatorRef, recorderRef]
  · by_cases estimator : ref = estimatorRef
    · simp [estimator, sensorRef, estimatorRef, recorderRef]
    · by_cases recorder : ref = recorderRef
      · simp [recorder, sensorRef, estimatorRef, recorderRef]
      · simp [sensor, estimator, recorder, Ne.symm recorder]

theorem ref_enrollment (ref : NodeRef) (kind : Option MessageKind) : ((crew now).enrollment ref kind v).ref = ref := rfl

theorem audience_enrollments (sensor : v.sensor.id = .canWindSensor) (m : Message) :
    VesselBus.audience (enrollments now v kept) m = audience kept m := by
  have distinct : ((firstMentions (enrollments now v kept)).map (·.id)).Nodup := by
    rw [firstMentions_enrollments]
    cases kept <;> simp [Crew.enrollment, crew, idOf, sensorRef, estimatorRef, recorderRef, sensor, Recorder.id]
  have toSensor : (m.reaches ((crew now).enrollment sensorRef (some .serverConfigsReceived) v).id fun kind =>
      subscribes kept sensorRef kind) = isForSensor m := congrArg (m.reaches · _) sensor
  have toEstimator : (m.reaches ((crew now).enrollment estimatorRef (some .windData) v).id fun kind =>
      subscribes kept estimatorRef kind) = isForEstimator m := rfl
  rw [audience_of_distinct _ _ distinct, firstMentions_enrollments]
  simp only [any_enrollments, List.filter_cons, ref_enrollment, toSensor, toEstimator, audience]
  cases kept with
  | nil => cases isForSensor m <;> cases isForEstimator m <;> rfl
  | cons kind rest =>
    have toRecorder : (m.reaches ((crew now).enrollment recorderRef kind v).id fun kind' =>
        subscribes (kind :: rest) recorderRef kind') = isForRecorder (kind :: rest) m := rfl
    simp only [List.head?_cons, Option.map_some, Option.toList_some, List.filter_cons, ref_enrollment, toRecorder]
    cases isForSensor m <;> cases isForEstimator m <;> cases isForRecorder (kind :: rest) m <;> rfl

theorem deliveries_enrollments (sensor : v.sensor.id = .canWindSensor) (e : Envelope) :
    (Registry.of (enrollments now v kept)).deliveries e = (audience kept e.message).map (·, e.message) := by
  rw [← audience_enrollments sensor, ← receivers_of, List.map_map]
  rfl

/-- The registry that a history leaves, if its registrations are those of a vessel. -/
theorem registry_after {history : List Command} (mooring : history.filterMap Command.registration? = stations kept)
    {bus : Bus} (new : bus.registry = {}) :
    (bus.after (crew now) v history).registry = Registry.of (enrollments now v kept) := by
  rw [Bus.after, mooring, new, ← Registry.foldl_enroll, enrollments, List.foldl_map]

end Vessel

end VesselBus
