import VesselBus.Proofs.Bus.Answering
import VesselBus.Proofs.Recorder.Conservation
import VesselBus.Proofs.Vessel.Estimating
import VesselBus.Proofs.Vessel.Mooring

/-!
# The vessel comes to rest

On board only the estimator answers, and nobody answers the estimator. So two runs after a stop are enough, and what the
recorder was given in them is in its buffer until it is stopped.
-/

namespace VesselBus

variable {ω α : Type}

/-! ## Answers -/

namespace Reaction.Answers

theorem ofLogged {x : Logged α} {next : α → Reaction ω} {sent : List Message} {world : ω}
    (h : (next x.result).Answers sent world) : (Reaction.ofLogged x next).Answers sent world := by
  unfold Reaction.ofLogged
  induction x.reports with
  | nil => exact h
  | cons line rest ih => exact .log line ih

theorem sendEach {next : Reaction ω} {later : List Message} {world : ω} (ms : List Message)
    (h : next.Answers later world) : (ms.foldr .send next).Answers (ms ++ later) world := by
  induction ms with
  | nil => exact h
  | cons m rest ih => exact .send m ih

end Reaction.Answers

namespace Vessel

variable {now : TimeOfDay} {v : Vessel} {kept : List (Option MessageKind)}

/-- What the nodes of a vessel do with a message, but for what they log. -/
def answer (now : TimeOfDay) : Answer Vessel := fun ref m v =>
  if ref = sensorRef then ([], { v with sensor := (v.sensor.receive v.settings m).result })
  else if ref = estimatorRef then
    ((v.estimate.receive m).result.2.toList, { v with estimate := (v.estimate.receive m).result.1 })
  else ([], { v with recorder := v.recorder.receive v.settings now m })

theorem answers_crew (now : TimeOfDay) : (crew now).Answers (answer now) := by
  intro ref m v
  show (react now ref m v).Answers _ _
  unfold react answer
  by_cases sensor : ref = sensorRef
  · rw [if_pos sensor, if_pos sensor]
    exact .ofLogged (.returning _)
  · rw [if_neg sensor, if_neg sensor]
    by_cases estimator : ref = estimatorRef
    · rw [if_pos estimator, if_pos estimator]
      refine .ofLogged ?_
      have answered := Reaction.Answers.sendEach (v.estimate.receive m).result.2.toList
        (.returning { v with estimate := (v.estimate.receive m).result.1 })
      rwa [List.append_nil] at answered
    · rw [if_neg estimator, if_neg estimator]
      exact .returning _

/-! ## Deliveries -/

def reading? (delivery : NodeRef × Message) : Option Wind :=
  if delivery.1 = estimatorRef then Wind.ofMessage? delivery.2 else none

def logged? (now : TimeOfDay) (delivery : NodeRef × Message) : Option LogEntry :=
  if delivery.1 = sensorRef ∨ delivery.1 = estimatorRef then none else LogEntry.of? now delivery.2

theorem answer_of_reading (now : TimeOfDay) (ref : NodeRef) (m : Message) (v : Vessel) :
    (answer now ref m v).1 = ((reading? (ref, m)).map fun reading => (v.estimate.next reading).publication).toList ∧
      (answer now ref m v).2.estimate =
        (reading? (ref, m)).elim v.estimate fun reading => some (v.estimate.next reading) := by
  unfold answer reading?
  by_cases estimator : ref = estimatorRef
  · have other : ref ≠ sensorRef := by rw [estimator]; nofun
    rw [if_neg other, if_pos estimator, if_pos estimator, WindEstimate.result_receive]
    exact ⟨rfl, rfl⟩
  · rw [if_neg estimator, if_neg estimator]
    split <;> exact ⟨rfl, rfl⟩

theorem answer_of_entry (now : TimeOfDay) (ref : NodeRef) (m : Message) (v : Vessel) :
    (answer now ref m v).2.recorder.buffer.pending =
        v.recorder.buffer.pending ++ (logged? now (ref, m)).toList ∧
      (answer now ref m v).2.recorder.slot = v.recorder.slot := by
  unfold answer logged?
  by_cases sensor : ref = sensorRef
  · rw [if_pos sensor, if_pos (.inl sensor)]
    exact ⟨(List.append_nil _).symm, rfl⟩
  · rw [if_neg sensor]
    by_cases estimator : ref = estimatorRef
    · rw [if_pos estimator, if_pos (.inr estimator)]
      exact ⟨(List.append_nil _).symm, rfl⟩
    · rw [if_neg estimator, if_neg (not_or.2 ⟨sensor, estimator⟩)]
      exact ⟨LiveRecorder.pending_receive v.settings now m v.recorder,
        LiveRecorder.slot_receive v.settings now m v.recorder⟩

/-- What deliveries bring about: the estimates are sent, and the entries are buffered. -/
structure Brings (now : TimeOfDay) (deliveries : List (NodeRef × Message)) (v : Vessel) : Prop where
  sent : ((answer now).each deliveries v).1 = (v.estimate.course (deliveries.filterMap reading?)).map Wind.publication
  pending : ((answer now).each deliveries v).2.recorder.buffer.pending =
    v.recorder.buffer.pending ++ deliveries.filterMap (logged? now)
  slot : ((answer now).each deliveries v).2.recorder.slot = v.recorder.slot

theorem brings (now : TimeOfDay) (deliveries : List (NodeRef × Message)) (v : Vessel) : Brings now deliveries v := by
  induction deliveries generalizing v with
  | nil => exact ⟨rfl, (List.append_nil _).symm, rfl⟩
  | cons delivery rest ih =>
    obtain ⟨ref, m⟩ := delivery
    obtain ⟨sent, pending, slot⟩ := ih (answer now ref m v).2
    obtain ⟨reply, estimate⟩ := answer_of_reading now ref m v
    obtain ⟨entry, same⟩ := answer_of_entry now ref m v
    refine ⟨?_, ?_, slot.trans same⟩
    · rw [Answer.each_cons, sent, reply, estimate, List.filterMap_cons]
      cases reading? (ref, m) <;> rfl
    · rw [Answer.each_cons, pending, entry, List.filterMap_cons]
      cases logged? now (ref, m) <;> simp

/-! ## Batches -/

/-- The reading that the estimator takes from a message. -/
def heard? (m : Message) : Option Wind := if isForEstimator m then Wind.ofMessage? m else none

/-- It is for the estimator and has a reading in it. -/
def isReport (m : Message) : Bool := isForEstimator m && decide (∃ w : Wind, w.IsReadIn m)

def reports (batch : List Envelope) : List Envelope := batch.filter fun e => isReport e.message

def estimates (estimate : WindEstimate) (batch : List Envelope) : List Message :=
  (estimate.course (batch.filterMap fun e => heard? e.message)).map Wind.publication

/-- The entries of a batch: kind, sender and payload of what is for the recorder and not news of settings. -/
def entries (now : TimeOfDay) (kept : List (Option MessageKind)) (batch : List Envelope) : List LogEntry :=
  ((batch.map (·.message)).filter fun m => isForRecorder kept m && m.kind != .serverConfigsReceived).map fun m =>
    { loggedAt := now, kind := m.kind, source := m.source, payload := m.payload }

theorem filterMap_reading (kept : List (Option MessageKind)) (m : Message) :
    ((audience kept m).map (·, m)).filterMap reading? = (heard? m).toList := by
  unfold audience heard?
  cases isForSensor m <;> cases isForEstimator m <;> cases isForRecorder kept m <;>
    simp [reading?, sensorRef, estimatorRef, recorderRef, List.filterMap_cons]
  all_goals cases Wind.ofMessage? m <;> rfl

theorem filterMap_entry (now : TimeOfDay) (kept : List (Option MessageKind)) (m : Message) :
    ((audience kept m).map (·, m)).filterMap (logged? now) =
      if isForRecorder kept m && m.kind != .serverConfigsReceived then
        [{ loggedAt := now, kind := m.kind, source := m.source, payload := m.payload }]
      else [] := by
  unfold audience
  by_cases news : m.kind = .serverConfigsReceived <;>
    cases isForSensor m <;> cases isForEstimator m <;> cases isForRecorder kept m <;>
      simp [logged?, LogEntry.of?, news, sensorRef, estimatorRef, recorderRef]

/-- A registry by which a message comes to those for whom it is. -/
def IsRegistry (kept : List (Option MessageKind)) (g : Registry) : Prop :=
  ∀ e, g.deliveries e = (audience kept e.message).map (·, e.message)

variable {g : Registry}

theorem IsRegistry.readings (moored : IsRegistry kept g) (batch : List Envelope) :
    (batch.flatMap g.deliveries).filterMap reading? = batch.filterMap fun e => heard? e.message := by
  induction batch with
  | nil => rfl
  | cons e rest ih =>
    rw [List.flatMap_cons, List.filterMap_append, moored, filterMap_reading, ih, List.filterMap_cons]
    cases heard? e.message <;> rfl

theorem IsRegistry.entries (moored : IsRegistry kept g) (now : TimeOfDay) (batch : List Envelope) :
    (batch.flatMap g.deliveries).filterMap (logged? now) = entries now kept batch := by
  induction batch with
  | nil => rfl
  | cons e rest ih =>
    rw [List.flatMap_cons, List.filterMap_append, moored, filterMap_entry, ih]
    unfold Vessel.entries
    rw [List.map_cons, List.filter_cons]
    split <;> rfl

/-- A run after a stop gives out the batch that was pending, and leaves the estimates. -/
structure OneRun (kept : List (Option MessageKind)) (now : TimeOfDay) (bus bus' : Bus) (v v' : Vessel) : Prop where
  queue : bus'.queue = { front := (estimates v.estimate bus.queue.front).map (⟨·, now⟩), stopRequested := true }
  registry : bus'.registry = bus.registry
  pending : v'.recorder.buffer.pending = v.recorder.buffer.pending ++ entries now kept bus.queue.front
  slot : v'.recorder.slot = v.recorder.slot

theorem oneRun {bus : Bus} (moored : IsRegistry kept bus.registry) (stopping : bus.queue.stopRequested = true)
    (back : bus.queue.back = []) (host : Host) (patience : Nat) (v : Vessel) :
    let x := (bus.run (crew host.now) host patience v).result
    OneRun kept host.now bus x.1 v x.2 := by
  obtain ⟨queue, registry, remembered⟩ :=
    Bus.result_run (answers_crew host.now) host patience bus v stopping back
  obtain ⟨sent, pending, slot⟩ := brings host.now (bus.queue.front.flatMap bus.registry.deliveries) v
  rw [moored.readings] at sent
  rw [moored.entries, ← remembered] at pending
  rw [← remembered] at slot
  exact ⟨by rw [queue, sent]; rfl, registry, pending, slot⟩

/-- Nobody answers an estimate. -/
theorem heard?_publication (wind : Wind) : heard? wind.publication = none := rfl

theorem estimates_of_estimates (estimate estimate' : WindEstimate) (batch : List Envelope) (now : TimeOfDay) :
    estimates estimate' ((estimates estimate batch).map (⟨·, now⟩)) = [] := by
  have unheard : ((estimates estimate batch).map fun m => (⟨m, now⟩ : Envelope)).filterMap
      (fun e => heard? e.message) = [] := by
    refine List.filterMap_eq_nil_iff.2 fun e he => ?_
    obtain ⟨m, hm, rfl⟩ := List.mem_map.1 he
    obtain ⟨wind, -, rfl⟩ := List.mem_map.1 hm
    exact heard?_publication wind
  rw [estimates, unheard]
  rfl

end Vessel

/-! ## The last batch of a recorder -/

/-- It stores whatever it is given. -/
def LogStore.Accepts {σ : Type} (store : LogStore σ) : Prop :=
  ∀ batch memory, (store.store batch memory).result.1 = .stored

/-- To stop the recorder hands a store just this batch, if there is anything in it, and leaves nothing behind. -/
def Recorder.Leaves (r : Recorder) (batch : List LogEntry) : Prop :=
  ∀ (σ : Type) (store : LogStore σ) (memory : σ), store.Accepts →
    (r.stop store memory).result = ({ r with buffer := { r.buffer with pending := [] } }, none,
      if batch = [] then memory else (store.store batch memory).result.2)

theorem Recorder.leaves_pending {r : Recorder} (unstarted : r.slot.tracked = none) : r.Leaves r.buffer.pending := by
  intro σ store memory accepts
  have stopped : (r.slot.stop (Recorder.body store) (r.buffer, memory)).result = (r.slot, r.buffer, memory) := by
    unfold WorkerSlot.stop WorkerSlot.requestStop
    rw [unstarted]
    rfl
  have handed : (Recorder.handOver store r.buffer.pending memory).result =
      (none, if r.buffer.pending = [] then memory else (store.store r.buffer.pending memory).result.2) := by
    unfold Recorder.handOver
    by_cases empty : r.buffer.pending = []
    · simp [empty]
    · rw [if_neg (by simpa using empty), if_neg empty, Recorder.write, Traced.result_bind]
      have outcome := accepts r.buffer.pending memory
      cases stored : (store.store r.buffer.pending memory).result with
      | mk outcome' after =>
        rw [stored] at outcome
        obtain rfl : outcome' = .stored := outcome
        rfl
  unfold Recorder.stop
  rw [Traced.result_bind, stopped]
  unfold Recorder.flush LogBuffer.take
  simp only [Traced.result_mapReports, Traced.result_bind, Traced.result_pure, handed]

/-! ## The result -/

namespace Vessel

/-- Two runs after a stop that found these messages pending. -/
structure ComesToRest (kept : List (Option MessageKind)) (v : Vessel) (batch : List Envelope) (now now' : TimeOfDay)
    (first second : Traced BusEvent (Bus × Vessel)) : Prop where
  dispatched : Bus.dispatches first = batch
  dispatched' : Bus.dispatches second = (estimates v.estimate batch).map (⟨·, now⟩)
  /-- The estimates come of the readings that the estimator was given, in their order. -/
  readings : ∃ readings, List.Forall₂ (fun (e : Envelope) (w : Wind) => w.IsReadIn e.message) (reports batch) readings ∧
    estimates v.estimate batch = (v.estimate.course readings).map Wind.publication
  /-- There is one for each of them. -/
  each : (estimates v.estimate batch).length = (reports batch).length
  broadcast : ∀ m ∈ estimates v.estimate batch, m.kind = .windState ∧ m.source = .windState ∧ m.isBroadcast = true
  /-- The first run leaves the estimates, and the second leaves nothing. -/
  pending : first.result.1.queue.contents = (estimates v.estimate batch).map (⟨·, now⟩)
  empty : second.result.1.queue.contents = []
  /-- What the recorder hands over when it is stopped after the last run that is needed. -/
  logged : let answers := (estimates v.estimate batch).map (⟨·, now⟩)
    let all := entries now kept batch ++ entries now' kept answers
    (answers = [] → first.result.2.recorder.Leaves all) ∧ second.result.2.recorder.Leaves all

theorem isReport_eq (m : Message) : isReport m = (heard? m).isSome := by
  unfold isReport heard?
  rw [Bool.eq_iff_iff, Bool.and_eq_true, decide_eq_true_iff, ← Wind.isSome_ofMessage?_iff]
  cases isForEstimator m <;> simp

theorem isReadIn_of_heard {m : Message} {w : Wind} (heard : heard? m = some w) : w.IsReadIn m :=
  Wind.ofMessage?_eq_some_iff.1 (Option.ite_none_right_eq_some.1 heard).2

theorem forall₂_reports (batch : List Envelope) :
    List.Forall₂ (fun (e : Envelope) (w : Wind) => w.IsReadIn e.message) (reports batch)
      (batch.filterMap fun e => heard? e.message) := by
  unfold reports
  induction batch with
  | nil => exact .nil
  | cons e rest ih =>
    rw [List.filter_cons, List.filterMap_cons, isReport_eq]
    cases heard : heard? e.message with
    | some w => exact .cons (isReadIn_of_heard heard) ih
    | none => exact ih

theorem length_estimates (estimate : WindEstimate) (batch : List Envelope) :
    (estimates estimate batch).length = (reports batch).length := by
  rw [estimates, List.length_map, WindEstimate.length_course, (forall₂_reports batch).length_eq]

/-- The nodes of a vessel are registered in their order; messages and a request to stop may come before, between or
after. Two runs then give out all that was sent and all that the estimator has to say to it, and a recorder that was
never started keeps what is for it until it is stopped. -/
theorem comesToRest_of_moored (config : BusConfig) (transcript : Transcript) (create : String → Except String Sink)
    (now : TimeOfDay) (history : List Command) (v : Vessel) (kept : List (Option MessageKind))
    (noRun : ∀ command ∈ history, command.isRun = false)
    (mooring : history.filterMap Command.registration? = stations kept)
    (stopping : history.any Command.isStop = true) (sensor : v.sensor.id = .canWindSensor)
    (fresh : v.recorder.buffer.pending = []) (unstarted : v.recorder.slot.tracked = none) (host host' : Host)
    (patience patience' : Nat) :
    let moored := (Bus.performEach (crew now) create history { config, transcript } v).result
    let first := Bus.run (crew host.now) host patience moored.1 moored.2
    let second := Bus.run (crew host'.now) host' patience' first.result.1 first.result.2
    ComesToRest kept v (history.filterMap Command.sent?) host.now host'.now first second := by
  intro moored first second
  have after : moored = (Bus.after (crew now) v history { config, transcript }, v) :=
    Bus.result_performEach (discreet_crew now) create history noRun _ v rfl
  have queue : moored.1.queue = { front := history.filterMap Command.sent?, stopRequested := true } := by
    rw [after]
    simp [Bus.after, stopping]
  have vessel : moored.2 = v := by rw [after]
  have isRegistry : IsRegistry kept moored.1.registry := by
    rw [after, registry_after mooring rfl]
    exact deliveries_enrollments sensor
  -- The first run takes the batch, and the second what the estimator has made of it.
  obtain ⟨queue', registry', pending', slot'⟩ : OneRun kept host.now moored.1 first.result.1 moored.2 first.result.2 :=
    oneRun isRegistry (by rw [queue]) (by rw [queue]) host patience moored.2
  obtain ⟨queue'', -, pending'', slot''⟩ :
      OneRun kept host'.now first.result.1 second.result.1 first.result.2 second.result.2 :=
    oneRun (registry' ▸ isRegistry) (by rw [queue']) (by rw [queue']) host' patience' first.result.2
  have taken : Bus.dispatches first = moored.1.queue.front :=
    Bus.dispatches_run _ host patience moored.1 moored.2 (by rw [queue]) (by rw [queue])
  have taken' : Bus.dispatches second = first.result.1.queue.front :=
    Bus.dispatches_run _ host' patience' first.result.1 first.result.2 (by rw [queue']) (by rw [queue'])
  rw [vessel, fresh, queue] at pending'
  rw [vessel, queue] at queue'
  rw [queue', estimates_of_estimates] at queue''
  rw [queue', pending'] at pending''
  rw [queue] at taken
  rw [queue'] at taken'
  have idle : first.result.2.recorder.slot.tracked = none := by rw [slot', vessel, unstarted]
  have idle' : second.result.2.recorder.slot.tracked = none := by rw [slot'', idle]
  refine ⟨taken, taken', ⟨_, forall₂_reports _, rfl⟩, length_estimates _ _, ?_, ?_, ?_, ?_, ?_⟩
  · intro m hm
    obtain ⟨wind, -, rfl⟩ := List.mem_map.1 hm
    exact ⟨rfl, rfl, rfl⟩
  · rw [queue']
    rfl
  · rw [queue'']
    rfl
  · intro unanswered
    have leaves := Recorder.leaves_pending idle
    rw [pending'] at leaves
    rw [unanswered]
    simpa [entries] using leaves
  · have leaves := Recorder.leaves_pending idle'
    rw [pending''] at leaves
    exact leaves

/-- A vessel is moored, a reading comes in, somebody asks the estimator for nothing in particular, and a heading is sent
to the recorder. -/
def breeze : List Command :=
  [.register sensorRef (some .serverConfigsReceived), .register estimatorRef (some .windData),
    .send ⟨0, 0, 0, 1⟩ (.carrying (.windData ⟨0x43340000⟩ ⟨0x40a00000⟩ ⟨0x41700000⟩) .canWindSensor .none),
    .register recorderRef (some .windState), .send ⟨0, 0, 0, 2⟩ (.directed .windData .none .windState),
    .send ⟨0, 0, 0, 3⟩ (.carrying (.compassData ⟨0x42b40000⟩ ⟨0⟩ ⟨0⟩) .compass .dbLogger), .stop]

theorem comesToRest_of_moored_breeze :
    let v := create 10 none
    let moored := (Bus.performEach (crew ⟨0, 0, 0, 0⟩) LiveBus.midnight.create breeze {} v).result
    let first := Bus.run (crew LiveBus.midnight.now) LiveBus.midnight 0 moored.1 moored.2
    let second := Bus.run (crew LiveBus.midnight.now) LiveBus.midnight 0 first.result.1 first.result.2
    (∀ command ∈ breeze, command.isRun = false) ∧
      breeze.filterMap Command.registration? = stations [some .windState] ∧ breeze.any Command.isStop = true ∧
      v.sensor.id = .canWindSensor ∧ v.recorder.buffer.pending = [] ∧ v.recorder.slot.tracked = none ∧
      entries LiveBus.midnight.now [some .windState] (breeze.filterMap Command.sent?) =
        [⟨LiveBus.midnight.now, .compassData, .compass, some (.compassData ⟨0x42b40000⟩ ⟨0⟩ ⟨0⟩)⟩] ∧
      estimates v.estimate (breeze.filterMap Command.sent?) = [⟨.windState, .windState, .none,
        some (.windState ⟨0x40a00000⟩ ⟨0x43340000⟩ ⟨0x40a00000⟩ ⟨0x43340000⟩), true⟩] ∧
      ComesToRest [some .windState] v (breeze.filterMap Command.sent?) LiveBus.midnight.now LiveBus.midnight.now
        first second := by
  have noRun : ∀ command ∈ breeze, command.isRun = false := by simp [breeze, Command.isRun]
  have rests := comesToRest_of_moored {} .absent LiveBus.midnight.create ⟨0, 0, 0, 0⟩ breeze (create 10 none)
    [some .windState] noRun rfl rfl rfl rfl rfl LiveBus.midnight LiveBus.midnight 0 0
  exact ⟨noRun, rfl, rfl, rfl, rfl, rfl, by decide, by decide +kernel, rests⟩

end Vessel

end VesselBus
