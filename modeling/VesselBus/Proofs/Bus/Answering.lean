import VesselBus.Proofs.Bus.Faults
import VesselBus.Proofs.Bus.Routing

/-!
# Nodes that only answer

A node may log and send, return, and do nothing else. What a run comes to among such nodes can be told without the
bus: they are given what is pending, one delivery after the other, and their answers are what is pending then.
-/

namespace VesselBus

variable {ω : Type}

/-- It sends these messages, leaves this world and returns. -/
inductive Reaction.Answers : Reaction ω → List Message → ω → Prop where
  | returning (world : ω) : Answers (.finish world .returned) [] world
  | log (line : Line) {next : Reaction ω} {sent : List Message} {world : ω} :
    Answers next sent world → Answers (.log line next) sent world
  | send (m : Message) {next : Reaction ω} {sent : List Message} {world : ω} :
    Answers next sent world → Answers (.send m next) (m :: sent) world

/-- What an object sends when it is given a message, and what is remembered then. -/
abbrev Answer (ω : Type) := NodeRef → Message → ω → List Message × ω

def Crew.Answers (crew : Crew ω) (answer : Answer ω) : Prop :=
  ∀ ref m world, (crew.react ref m world).Answers (answer ref m world).1 (answer ref m world).2

def Answer.each (answer : Answer ω) : List (NodeRef × Message) → ω → List Message × ω
  | [], world => ([], world)
  | (ref, m) :: rest, world =>
    let (sent, world) := answer ref m world
    let (later, world) := each answer rest world
    (sent ++ later, world)

theorem Answer.each_cons (answer : Answer ω) (ref : NodeRef) (m : Message) (rest : List (NodeRef × Message))
    (world : ω) : answer.each ((ref, m) :: rest) world =
      ((answer ref m world).1 ++ (answer.each rest (answer ref m world).2).1,
        (answer.each rest (answer ref m world).2).2) := rfl

theorem Answer.each_append (answer : Answer ω) (first second : List (NodeRef × Message)) (world : ω) :
    answer.each (first ++ second) world =
      ((answer.each first world).1 ++ (answer.each second (answer.each first world).2).1,
        (answer.each second (answer.each first world).2).2) := by
  induction first generalizing world with
  | nil => rfl
  | cons delivery rest ih =>
    obtain ⟨ref, m⟩ := delivery
    simp only [List.cons_append, each_cons, ih, List.append_assoc]

namespace Bus

variable {crew : Crew ω} {answer : Answer ω} {host : Host} {bus bus' bus'' : Bus} {sent later : List Message}

/-- One bus is the other with some messages sent, and whatever the transcript has come to. -/
def Sent (host : Host) (sent : List Message) (bus bus' : Bus) : Prop :=
  ∃ transcript, bus' =
    { bus with
      queue := { bus.queue with front := bus.queue.front ++ sent.map fun m => ⟨m, host.now⟩ }, transcript }

namespace Sent

theorem trans (first : Sent host sent bus bus') (second : Sent host later bus' bus'') :
    Sent host (sent ++ later) bus bus'' := by
  obtain ⟨_, rfl⟩ := first
  obtain ⟨transcript, rfl⟩ := second
  exact ⟨transcript, by simp⟩

theorem transcribe (sofar : Sent host sent bus bus') (act : Transcript → Transcript × Option String) :
    Sent host sent bus (bus'.transcribe act).result := by
  obtain ⟨_, rfl⟩ := sofar
  exact ⟨_, Bus.result_transcribe act _⟩

theorem popped (sofar : Sent host sent bus bus') (rest : List Envelope) :
    Sent host sent (bus.popped rest) (bus'.popped rest) := by
  obtain ⟨transcript, rfl⟩ := sofar
  exact ⟨transcript, rfl⟩

theorem registry (sofar : Sent host sent bus bus') : bus'.registry = bus.registry := by
  obtain ⟨transcript, rfl⟩ := sofar
  rfl

theorem back (sofar : Sent host sent bus bus') : bus'.queue.back = bus.queue.back := by
  obtain ⟨transcript, rfl⟩ := sofar
  rfl

theorem refl (host : Host) (bus : Bus) : Sent host [] bus bus := ⟨bus.transcript, by simp⟩

end Sent

/-! ## One message -/

theorem result_play {reaction : Reaction ω} {world : ω} (h : reaction.Answers sent world) (now : TimeOfDay)
    (q : Queue) : (play now reaction q).result =
      ({ q with front := q.front ++ sent.map fun m => ⟨m, now⟩ }, world, .returned) := by
  induction h generalizing q with
  | returning world => simp [play]
  | log line _ ih => exact ih q
  | send m _ ih => simpa [play, Queue.push] using ih (q.push ⟨m, now⟩)

theorem result_deliver (answers : crew.Answers answer) (host : Host) (m : Message) (bus : Bus) (world : ω)
    (r : Record) : Sent host (answer r.ref m world).1 bus (deliver crew host m bus world r).result.1 ∧
      (deliver crew host m bus world r).result.2 = (answer r.ref m world).2 := by
  have played := result_play (answers r.ref m world) host.now bus.queue
  simp only [deliver, Traced.result_bind, Traced.result_pure, played]
  obtain ⟨transcript, settled⟩ := result_settle host m r .returned
    { bus with queue := { bus.queue with front := bus.queue.front ++ (answer r.ref m world).1.map (⟨·, host.now⟩) } }
  exact ⟨⟨transcript, settled⟩, trivial⟩

theorem result_deliverEach (answers : crew.Answers answer) (host : Host) (m : Message) (records : List Record)
    (bus : Bus) (world : ω) :
    let x := (deliverEach crew host m records bus world).result
    let y := answer.each (records.map fun r => (r.ref, m)) world
    Sent host y.1 bus x.1 ∧ x.2 = y.2 := by
  induction records generalizing bus world with
  | nil => exact ⟨.refl host bus, rfl⟩
  | cons r rest ih =>
    obtain ⟨first, world'⟩ := result_deliver answers host m bus world r
    obtain ⟨others, world''⟩ := ih (deliver crew host m bus world r).result.1 (answer r.ref m world).2
    simp only [deliverEach, Traced.result_bind, world']
    exact ⟨first.trans others, world''⟩

theorem result_dispatch (answers : crew.Answers answer) (host : Host) (e : Envelope) (bus : Bus) (world : ω) :
    let x := (dispatch crew host e bus world).result
    let y := answer.each (bus.registry.deliveries e) world
    Sent host y.1 bus x.1 ∧ x.2 = y.2 := by
  have announced := (Sent.refl host bus).transcribe (·.write host.now (.dispatched e))
  rw [← result_announce] at announced
  obtain ⟨delivered, world'⟩ := result_deliverEach answers host e.message
    ((bus.announce host e).result.registry.receivers e.message) (bus.announce host e).result world
  rw [Registry.deliveries, ← announced.registry]
  exact ⟨(announced.trans delivered).transcribe _, world'⟩

/-! ## Batches and runs -/

theorem result_dispatchEach (answers : crew.Answers answer) (host : Host) (batch : List Envelope) (bus : Bus)
    (world : ω) (back : bus.queue.back = batch) :
    let x := (dispatchEach crew host batch bus world).result
    let y := answer.each (batch.flatMap bus.registry.deliveries) world
    Sent host y.1 (bus.popped []) x.1 ∧ x.2 = y.2 := by
  induction batch generalizing bus world with
  | nil =>
    have emptied : bus.popped [] = bus := by
      rw [popped, ← back]
    rw [emptied]
    exact ⟨.refl host bus, rfl⟩
  | cons e rest ih =>
    obtain ⟨first, remembered⟩ : Sent host (answer.each (bus.registry.deliveries e) world).1 _ _ ∧
        _ = (answer.each (bus.registry.deliveries e) world).2 :=
      result_dispatch answers host e (bus.popped rest) world
    -- The answers have gone to the front, so the back is what is left of the batch.
    have registry : (dispatch crew host e (bus.popped rest) world).result.1.registry = bus.registry := first.registry
    obtain ⟨others, after⟩ := ih (dispatch crew host e (bus.popped rest) world).result.1
      (dispatch crew host e (bus.popped rest) world).result.2 first.back
    rw [registry] at others after
    rw [List.flatMap_cons, Answer.each_append, ← remembered]
    exact ⟨(first.popped []).trans others, after⟩

/-- The batch of a turn is what was pending, and all that is pending after it are the answers. -/
theorem result_turn (answers : crew.Answers answer) (host : Host) (bus : Bus) (world : ω)
    (back : bus.queue.back = []) :
    let x := (turn crew host bus world).result
    let y := answer.each (bus.queue.front.flatMap bus.registry.deliveries) world
    Sent host y.1 { bus with queue := { bus.queue with front := [] } } x.1 ∧ x.2 = y.2 := by
  have batch : bus.swapped.queue.back = bus.queue.front := by rw [swapped, Queue.swap_of_back_nil back]
  have emptied : bus.swapped.popped [] = { bus with queue := { bus.queue with front := [] } } := by
    simp [popped, swapped, Queue.swap_of_back_nil back, back]
  have course := result_dispatchEach answers host bus.queue.front bus.swapped world batch
  rw [emptied] at course
  unfold turn
  rw [batch]
  exact course

theorem turns_of_stopping (crew : Crew ω) (host : Host) (patience : Nat) (bus : Bus) (world : ω)
    (stopping : bus.queue.stopRequested = true) : turns crew host patience bus world = pure (bus, world) := by
  cases patience with
  | zero =>
    rw [turns, stop, Queue.requestStop, ← stopping]
  | succ patience => rw [turns, if_pos stopping]

/-- A run of a bus that was asked to stop is one turn. -/
theorem result_run (answers : crew.Answers answer) (host : Host) (patience : Nat) (bus : Bus) (world : ω)
    (stopping : bus.queue.stopRequested = true) (back : bus.queue.back = []) :
    let x := (run crew host patience bus world).result
    let y := answer.each (bus.queue.front.flatMap bus.registry.deliveries) world
    x.1.queue = { front := y.1.map fun m => ⟨m, host.now⟩, stopRequested := true } ∧ x.1.registry = bus.registry ∧
      x.2 = y.2 := by
  have looped := turns_of_stopping crew host patience (bus.prepare host).result world (by rwa [queue_prepare])
  have turned :
      (run crew host patience bus world).result = (turn crew host (bus.prepare host).result world).result := by
    simp only [run, Traced.result_bind, Traced.result_pure, looped]
  have course := result_turn answers host (bus.prepare host).result world (by rwa [queue_prepare])
  rw [← turned, queue_prepare, registry_prepare] at course
  obtain ⟨⟨_, sent⟩, remembered⟩ := course
  refine ⟨?_, ?_, remembered⟩
  · simp [sent, stopping, back]
  · simp [sent]

/-! ## What is dispatched -/

variable {α : Type}

def dispatches (x : Traced BusEvent α) : List Envelope := x.reports.filterMap BusEvent.dispatched?

@[simp] theorem dispatches_bind {β : Type} (x : Traced BusEvent α) (f : α → Traced BusEvent β) :
    dispatches (x >>= f) = dispatches x ++ dispatches (f x.result) := by
  simp [dispatches]

theorem dispatches_of_quiet {x : Traced BusEvent α} (quiet : x.IsQuiet) : dispatches x = [] := quiet.dispatched

theorem dispatches_play (now : TimeOfDay) (reaction : Reaction ω) (q : Queue) :
    dispatches (play now reaction q) = [] := by
  induction reaction generalizing q with
  | finish world outcome => rfl
  | log line next ih => exact ih q
  | send m next ih => exact ih (q.push ⟨m, now⟩)
  | stop next ih => exact ih q.requestStop
  | askPending next ih => exact ih q.pending q
  | askStopped next ih => exact ih q.stopRequested q

theorem dispatches_deliver (crew : Crew ω) (host : Host) (m : Message) (bus : Bus) (world : ω) (r : Record) :
    dispatches (deliver crew host m bus world r) = [] := by
  have settled (outcome : Outcome) (bus : Bus) := dispatches_of_quiet (isQuiet_settle host m r outcome bus)
  simp only [deliver, dispatches_bind, dispatches_play, settled]
  rfl

theorem dispatches_deliverEach (crew : Crew ω) (host : Host) (m : Message) (records : List Record) (bus : Bus)
    (world : ω) : dispatches (deliverEach crew host m records bus world) = [] := by
  induction records generalizing bus world with
  | nil => rfl
  | cons r rest ih => rw [deliverEach, dispatches_bind, dispatches_deliver, ih, List.append_nil]

theorem dispatches_dispatch (crew : Crew ω) (host : Host) (e : Envelope) (bus : Bus) (world : ω) :
    dispatches (dispatch crew host e bus world) = [e] := by
  have written (act : Transcript → Transcript × Option String) (bus : Bus) :=
    dispatches_of_quiet (isQuiet_transcribe act bus)
  have announced : dispatches (bus.announce host e) = [e] := by
    rw [dispatches, reports_announce]
    exact congrArg (e :: ·) (written _ bus)
  simp only [dispatch, dispatches_bind, announced, dispatches_deliverEach, written]
  rfl

theorem dispatches_dispatchEach (crew : Crew ω) (host : Host) (batch : List Envelope) (bus : Bus) (world : ω) :
    dispatches (dispatchEach crew host batch bus world) = batch := by
  induction batch generalizing bus world with
  | nil => rfl
  | cons e rest ih => rw [dispatchEach, dispatches_bind, dispatches_dispatch, ih, List.singleton_append]

theorem dispatches_run (crew : Crew ω) (host : Host) (patience : Nat) (bus : Bus) (world : ω)
    (stopping : bus.queue.stopRequested = true) (back : bus.queue.back = []) :
    dispatches (run crew host patience bus world) = bus.queue.front := by
  have looped := turns_of_stopping crew host patience (bus.prepare host).result world (by rwa [queue_prepare])
  have prepared := dispatches_of_quiet (isQuiet_prepare host bus)
  simp only [run, dispatches_bind, prepared, looped, turn, dispatches_dispatchEach, swapped, queue_prepare,
    Traced.result_pure, Queue.swap_of_back_nil back]
  simp [dispatches, Traced.report]

end Bus

end VesselBus
