import VesselBus.Proofs.Bus.Marks

/-!
# Faults stay where they are

Two executions take the same commands, and differ in two things only. One may have no transcript, or one that cannot
be created, or one that fails at some write or flush, where the other has another. And a node may panic where its
counterpart returns, once both have done the same. Then both make the same calls in the same order, and leave the same
world and the same bus, but for the transcript.
-/

namespace VesselBus

variable {ω : Type}

/-! ## What the two executions share -/

namespace Reaction

/-- The same but for the outcome. -/
inductive Alike : Reaction ω → Reaction ω → Prop where
  | finish (world : ω) (outcome outcome' : Outcome) : Alike (.finish world outcome) (.finish world outcome')
  | log {next next' : Reaction ω} (line : Line) : Alike next next' → Alike (.log line next) (.log line next')
  | send {next next' : Reaction ω} (m : Message) : Alike next next' → Alike (.send m next) (.send m next')
  | stop {next next' : Reaction ω} : Alike next next' → Alike (.stop next) (.stop next')
  | askPending {next next' : Nat → Reaction ω} :
    (∀ n, Alike (next n) (next' n)) → Alike (.askPending next) (.askPending next')
  | askStopped {next next' : Bool → Reaction ω} :
    (∀ b, Alike (next b) (next' b)) → Alike (.askStopped next) (.askStopped next')

end Reaction

/-- Any of the deliveries may panic on one side and not on the other, for a world may count them. -/
structure Crew.Alike (crew crew' : Crew ω) : Prop where
  id : crew.id = crew'.id
  name : crew.name = crew'.name
  react : ∀ ref m world, (crew.react ref m world).Alike (crew'.react ref m world)

/-- Equal but for the transcript and what the configuration says of it. -/
structure Bus.Agrees (bus bus' : Bus) : Prop where
  queue : bus.queue = bus'.queue
  registry : bus.registry = bus'.registry
  started : bus.started = bus'.started

def Together (x y : Bus × ω) : Prop := x.1.Agrees y.1 ∧ x.2 = y.2

namespace Traced

/-- The same deliveries were begun, and the results are related. -/
structure Agree {α : Type} (R : α → α → Prop) (x y : Traced BusEvent α) : Prop where
  calls : x.reports.filterMap BusEvent.delivery? = y.reports.filterMap BusEvent.delivery?
  result : R x.result y.result

namespace Agree

variable {α β : Type} {R : α → α → Prop} {S : β → β → Prop} {x y : Traced BusEvent α}

theorem pure {a b : α} (h : R a b) : Agree R (Pure.pure a) (Pure.pure b) := ⟨rfl, h⟩

theorem report (event : BusEvent) : Agree Eq (Traced.report event) (Traced.report event) := ⟨rfl, rfl⟩

theorem bind {f g : α → Traced BusEvent β} (h : Agree R x y) (next : ∀ a b, R a b → Agree S (f a) (g b)) :
    Agree S (x >>= f) (y >>= g) := by
  have after := next x.result y.result h.result
  refine ⟨?_, after.result⟩
  rw [reports_bind, reports_bind, List.filterMap_append, List.filterMap_append, h.calls, after.calls]

theorem of_isQuiet (hx : x.IsQuiet) (hy : y.IsQuiet) (h : R x.result y.result) : Agree R x y :=
  ⟨hx.deliveries.trans hy.deliveries.symm, h⟩

end Agree

end Traced

namespace Bus

open Traced (Agree)

variable {crew crew' : Crew ω} {bus bus' : Bus} (now : TimeOfDay) (create create' : String → Except String Sink)

/-! ## One message -/

theorem Agrees.transcripts (agree : bus.Agrees bus') (transcript transcript' : Transcript) :
    Agrees { bus with transcript } { bus' with transcript := transcript' } :=
  ⟨agree.queue, agree.registry, agree.started⟩

/-- Whatever is tried on a transcript, the bus is as it was. -/
theorem agree_transcribe (agree : bus.Agrees bus') (act act' : Transcript → Transcript × Option String) :
    Agree Agrees (bus.transcribe act) (bus'.transcribe act') := by
  refine .of_isQuiet (isQuiet_transcribe act bus) (isQuiet_transcribe act' bus') ?_
  rw [result_transcribe, result_transcribe]
  exact agree.transcripts _ _

theorem agree_settle (agree : bus.Agrees bus') (host host' : Host) (m : Message) (r : Record)
    (outcome outcome' : Outcome) :
    Agree Agrees (bus.settle host m r outcome) (bus'.settle host' m r outcome') := by
  obtain ⟨transcript, h⟩ := result_settle host m r outcome bus
  obtain ⟨transcript', h'⟩ := result_settle host' m r outcome' bus'
  refine .of_isQuiet (isQuiet_settle host m r outcome bus) (isQuiet_settle host' m r outcome' bus') ?_
  rw [h, h']
  exact agree.transcripts transcript transcript'

theorem agree_play {reaction reaction' : Reaction ω} (alike : reaction.Alike reaction') (q : Queue) :
    Agree (fun x y => x.1 = y.1 ∧ x.2.1 = y.2.1) (play now reaction q) (play now reaction' q) := by
  induction alike generalizing q with
  | finish world outcome outcome' => exact .pure ⟨rfl, rfl⟩
  | log line _ ih => exact (Agree.report (.noted line)).bind fun _ _ _ => ih q
  | send m _ ih => exact ih (q.push ⟨m, now⟩)
  | stop _ ih => exact ih q.requestStop
  | askPending _ ih => exact ih q.pending q
  | askStopped _ ih => exact ih q.stopRequested q

theorem agree_deliver (alike : crew.Alike crew') (agree : bus.Agrees bus') (m : Message) (world : ω) (r : Record) :
    Agree Together (deliver crew ⟨now, create⟩ m bus world r) (deliver crew' ⟨now, create'⟩ m bus' world r) := by
  unfold deliver
  refine (Agree.report _).bind fun _ _ _ => ?_
  rw [agree.queue]
  refine (agree_play now (alike.react r.ref m world) bus'.queue).bind ?_
  -- Only the outcomes of the two reactions may differ.
  rintro ⟨queue, after, outcome⟩ ⟨queue', after', outcome'⟩ ⟨hqueue, hafter⟩
  dsimp only at hqueue hafter ⊢
  subst hqueue hafter
  have played : Agrees { bus with queue } { bus' with queue } := ⟨rfl, agree.registry, agree.started⟩
  exact (agree_settle played _ _ m r outcome outcome').bind fun _ _ settled => .pure ⟨settled, rfl⟩

theorem agree_deliverEach (alike : crew.Alike crew') (agree : bus.Agrees bus') (m : Message) (records : List Record)
    (world : ω) :
    Agree Together (deliverEach crew ⟨now, create⟩ m records bus world)
      (deliverEach crew' ⟨now, create'⟩ m records bus' world) := by
  induction records generalizing bus bus' world with
  | nil => exact .pure ⟨agree, rfl⟩
  | cons r rest ih =>
    refine (agree_deliver now create create' alike agree m world r).bind ?_
    rintro ⟨bus, world⟩ ⟨bus', _⟩ ⟨delivered, rfl⟩
    exact ih delivered world

theorem agree_dispatch (alike : crew.Alike crew') (agree : bus.Agrees bus') (e : Envelope) (world : ω) :
    Agree Together (dispatch crew ⟨now, create⟩ e bus world) (dispatch crew' ⟨now, create'⟩ e bus' world) := by
  unfold dispatch announce
  refine ((Agree.report _).bind fun _ _ _ => agree_transcribe agree _ _).bind fun bus bus' announced => ?_
  -- The receivers are looked up once, before any of them is called.
  rw [announced.registry]
  refine (agree_deliverEach now create create' alike announced e.message _ world).bind ?_
  rintro ⟨bus, world⟩ ⟨bus', _⟩ ⟨delivered, rfl⟩
  exact (agree_transcribe delivered _ _).bind fun _ _ flushed => .pure ⟨flushed, rfl⟩

/-! ## Batches and runs -/

theorem Agrees.popped (agree : bus.Agrees bus') (rest : List Envelope) :
    (bus.popped rest).Agrees (bus'.popped rest) :=
  ⟨by rw [Bus.popped, Bus.popped, agree.queue], agree.registry, agree.started⟩

theorem Agrees.swapped (agree : bus.Agrees bus') : bus.swapped.Agrees bus'.swapped :=
  ⟨congrArg Queue.swap agree.queue, agree.registry, agree.started⟩

theorem Agrees.stop (agree : bus.Agrees bus') : bus.stop.Agrees bus'.stop :=
  ⟨congrArg Queue.requestStop agree.queue, agree.registry, agree.started⟩

theorem agree_dispatchEach (alike : crew.Alike crew') (agree : bus.Agrees bus') (batch : List Envelope) (world : ω) :
    Agree Together (dispatchEach crew ⟨now, create⟩ batch bus world)
      (dispatchEach crew' ⟨now, create'⟩ batch bus' world) := by
  induction batch generalizing bus bus' world with
  | nil => exact .pure ⟨agree, rfl⟩
  | cons e rest ih =>
    refine (agree_dispatch now create create' alike (agree.popped rest) e world).bind ?_
    rintro ⟨bus, world⟩ ⟨bus', _⟩ ⟨dispatched, rfl⟩
    exact ih dispatched world

theorem agree_turn (alike : crew.Alike crew') (agree : bus.Agrees bus') (world : ω) :
    Agree Together (turn crew ⟨now, create⟩ bus world) (turn crew' ⟨now, create'⟩ bus' world) := by
  unfold turn
  rw [agree.swapped.queue]
  exact agree_dispatchEach now create create' alike agree.swapped _ world

theorem agree_turns (alike : crew.Alike crew') (agree : bus.Agrees bus') (patience : Nat) (world : ω) :
    Agree Together (turns crew ⟨now, create⟩ patience bus world) (turns crew' ⟨now, create'⟩ patience bus' world) := by
  induction patience generalizing bus bus' world with
  | zero => exact .pure ⟨agree.stop, rfl⟩
  | succ patience ih =>
    unfold turns
    rw [agree.queue]
    split
    · exact .pure ⟨agree, rfl⟩
    · refine (agree_turn now create create' alike agree world).bind ?_
      rintro ⟨bus, world⟩ ⟨bus', _⟩ ⟨taken, rfl⟩
      exact ih taken world

theorem agree_prepare (agree : bus.Agrees bus') (host host' : Host) :
    Agree Agrees (bus.prepare host) (bus'.prepare host') := by
  obtain ⟨transcript, h⟩ := result_prepare host bus
  obtain ⟨transcript', h'⟩ := result_prepare host' bus'
  refine .of_isQuiet (isQuiet_prepare host bus) (isQuiet_prepare host' bus') ?_
  rw [h, h']
  exact ⟨agree.queue, agree.registry, rfl⟩

theorem agree_run (alike : crew.Alike crew') (agree : bus.Agrees bus') (patience : Nat) (world : ω) :
    Agree Together (run crew ⟨now, create⟩ patience bus world) (run crew' ⟨now, create'⟩ patience bus' world) := by
  unfold run
  refine (agree_prepare agree _ _).bind fun bus bus' prepared => ?_
  refine (agree_turns now create create' alike prepared patience world).bind ?_
  rintro ⟨bus, world⟩ ⟨bus', _⟩ ⟨looped, rfl⟩
  refine (agree_turn now create create' alike looped world).bind ?_
  rintro ⟨bus, world⟩ ⟨bus', _⟩ ⟨closed, rfl⟩
  exact (Agree.report _).bind fun _ _ _ => .pure ⟨closed, rfl⟩

/-! ## Registration -/

theorem agree_enroll (alike : crew.Alike crew') (agree : bus.Agrees bus') (ref : NodeRef) (world : ω) :
    Agree Together (enroll crew ref bus world) (enroll crew' ref bus' world) := by
  unfold enroll
  rw [agree.registry, alike.id, alike.name]
  split
  · exact .pure ⟨agree, rfl⟩
  · have added (record : Record) : Agrees { bus with registry := bus'.registry.add record }
        { bus' with registry := bus'.registry.add record } := ⟨agree.queue, rfl, agree.started⟩
    dsimp only
    split
    · exact (Agree.report _).bind fun _ _ _ => (Agree.report _).bind fun _ _ _ => .pure ⟨added _, rfl⟩
    · exact (Agree.report _).bind fun _ _ _ => .pure ⟨added _, rfl⟩

/-- A registration is turned away on both sides or on neither. -/
theorem agree_register (alike : crew.Alike crew') (agree : bus.Agrees bus') (ref : NodeRef) (kind : Option MessageKind)
    (world : ω) :
    Agree (fun x y => (x.1.toOption.getD bus).Agrees (y.1.toOption.getD bus') ∧ x.2 = y.2)
      (register crew ref kind bus world) (register crew' ref kind bus' world) := by
  unfold register
  rw [agree.started, alike.id, alike.name]
  split
  · exact (Agree.report _).bind fun _ _ _ => .pure ⟨agree, rfl⟩
  · refine (agree_enroll alike agree ref world).bind ?_
    rintro ⟨bus, world⟩ ⟨bus', _⟩ ⟨enrolled, rfl⟩
    cases kind with
    | none => exact .pure ⟨enrolled, rfl⟩
    | some kind =>
      exact .pure ⟨⟨enrolled.queue, congrArg (·.subscribe ref kind) enrolled.registry, enrolled.started⟩, rfl⟩

end Bus

/-! ## Commands -/

/-- What the owner of a bus has it do, one thing after the other. -/
inductive Command where
  | register (ref : NodeRef) (kind : Option MessageKind)
  | send (now : TimeOfDay) (m : Message)
  | stop
  | run (now : TimeOfDay) (patience : Nat)

namespace Bus

open Traced (Agree)

variable {crew crew' : Crew ω} {bus bus' : Bus} (create create' : String → Except String Sink)

def perform (crew : Crew ω) (create : String → Except String Sink) (bus : Bus) (world : ω) :
    Command → Traced BusEvent (Bus × ω)
  | .register ref kind => do
    let (answer, world) ← bus.register crew ref kind world
    return (answer.toOption.getD bus, world)
  | .send now m => return (bus.send ⟨now, create⟩ m, world)
  | .stop => return (bus.stop, world)
  | .run now patience => bus.run crew ⟨now, create⟩ patience world

def performEach (crew : Crew ω) (create : String → Except String Sink) :
    List Command → Bus → ω → Traced BusEvent (Bus × ω)
  | [], bus, world => pure (bus, world)
  | command :: rest, bus, world => do
    let (bus, world) ← bus.perform crew create world command
    performEach crew create rest bus world

theorem agree_perform (alike : crew.Alike crew') (agree : bus.Agrees bus') (command : Command) (world : ω) :
    Agree Together (bus.perform crew create world command) (bus'.perform crew' create' world command) := by
  cases command with
  | register ref kind =>
    refine (agree_register alike agree ref kind world).bind ?_
    rintro ⟨answer, world⟩ ⟨answer', _⟩ ⟨answered, rfl⟩
    exact .pure ⟨answered, rfl⟩
  | send now m => exact .pure ⟨⟨congrArg (·.push ⟨m, now⟩) agree.queue, agree.registry, agree.started⟩, rfl⟩
  | stop => exact .pure ⟨agree.stop, rfl⟩
  | run now patience => exact agree_run now create create' alike agree patience world

theorem agree_performEach (alike : crew.Alike crew') (agree : bus.Agrees bus') (commands : List Command) (world : ω) :
    Agree Together (performEach crew create commands bus world) (performEach crew' create' commands bus' world) := by
  induction commands generalizing bus bus' world with
  | nil => exact .pure ⟨agree, rfl⟩
  | cons command rest ih =>
    refine (agree_perform create create' alike agree command world).bind ?_
    rintro ⟨bus, world⟩ ⟨bus', _⟩ ⟨performed, rfl⟩
    exact ih performed world

/-! ## The result -/

def calls (x : Traced BusEvent (Bus × ω)) : List (NodeRef × Message) := x.reports.filterMap BusEvent.delivery?

/-- Whatever becomes of the transcript, and whichever deliveries end in a panic: the calls are the same and in the
same order, the nodes end in the same world, and the bus with the same queue and registry, just as much of a message
pending, just as stopped and started. -/
theorem calls_and_result_of_alike (alike : crew.Alike crew') (agree : bus.Agrees bus') (commands : List Command)
    (world : ω) :
    let x := performEach crew create commands bus world
    let y := performEach crew' create' commands bus' world
    calls x = calls y ∧ x.result.2 = y.result.2 ∧ x.result.1.Agrees y.result.1 := by
  have course := agree_performEach create create' alike agree commands world
  exact ⟨course.calls, course.result.2, course.result.1⟩

/-- Objects that count the deliveries, send and ask for a stop; the count decides which of them panic. -/
def counted (outcome : Nat → Outcome) : Crew Nat where
  id _ n := (.windState, n)
  name _ n := ("WindState", n)
  isActive _ := false
  react _ _ n := .send (.anonymous .windState) (.stop (.finish (n + 1) (outcome n)))

theorem alike_counted (outcome outcome' : Nat → Outcome) : (counted outcome).Alike (counted outcome') :=
  ⟨rfl, rfl, fun _ _ n => .send _ (.stop (.finish (n + 1) _ _))⟩

/-- Two objects are registered and given a message, and a third comes too late. -/
def exercise : List Command :=
  [.register 0 (some .windData), .register 1 (some .windData), .register 0 (some .windState),
    .send ⟨0, 0, 0, 0⟩ (.anonymous .windData), .run ⟨0, 0, 0, 1⟩ 3, .register 2 none]

/-- On one side nothing is written and nobody panics. On the other the second delivery panics, and the transcript is
given up when it is flushed after the second message. -/
theorem calls_and_result_of_alike_counted :
    let crew := counted fun _ => .returned
    let crew' := counted fun n => if n = 1 then .panicked (some "no wind") else .returned
    let bus' : Bus := { config := { transcriptPath := some "log" } }
    let x := performEach crew (fun _ => .error "no file") exercise {} 0
    let y := performEach crew' (fun _ => .ok { flushFault := fun n => if n = 1 then some "full" else none })
      exercise bus' 0
    crew.Alike crew' ∧ Agrees {} bus' ∧
      calls x = [(0, .anonymous .windData), (1, .anonymous .windData), (0, .anonymous .windState),
        (0, .anonymous .windState)] ∧
      x.result.1.queue.pending = 2 ∧ x.result.1.transcript.isOpen = false ∧
      (∃ sink, y.result.1.transcript = .givenUp sink) ∧
      calls x = calls y ∧ x.result.2 = y.result.2 ∧ x.result.1.Agrees y.result.1 := by
  have alike := alike_counted (fun _ => .returned) fun n => if n = 1 then .panicked (some "no wind") else .returned
  have agree : Agrees {} { config := { transcriptPath := some "log" } } := ⟨rfl, rfl, rfl⟩
  exact ⟨alike, agree, rfl, rfl, rfl, ⟨_, rfl⟩, calls_and_result_of_alike _ _ alike agree exercise 0⟩

end Bus

end VesselBus
