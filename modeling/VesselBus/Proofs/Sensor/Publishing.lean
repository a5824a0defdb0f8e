import VesselBus.Node.Sensor
import VesselBus.Proofs.Worker.Passing
import Mathlib.Data.List.Basic
import Mathlib.Data.List.Induction

/-!
# What a sensor makes of its readings

The device answers a sensor's reads one after the other, whichever worker makes them. What the sensor sends is then a
matter of how many reads there have been: each payload is one message, and nothing else is sent. So it makes no
difference where one worker left off and the next one began, and a read that panicked is one without a payload.
-/

namespace VesselBus

variable {σ : Type}

namespace Device

/-- What the device remembers after so many reads. -/
def after (device : Device σ) (origin : σ) : Nat → σ
  | 0 => origin
  | n + 1 => (device.read (after device origin n)).2.2

def reading (device : Device σ) (origin : σ) (n : Nat) : Reading := (device.read (device.after origin n)).1

def stopsAt (device : Device σ) (origin : σ) (n : Nat) : Bool := (device.read (device.after origin n)).2.1

def readings (device : Device σ) (origin : σ) (n : Nat) : List Reading := (List.range n).map (device.reading origin)

theorem readings_succ (device : Device σ) (origin : σ) (n : Nat) :
    device.readings origin (n + 1) = device.readings origin n ++ [device.reading origin n] := by
  rw [readings, List.range_succ, List.map_append]
  rfl

end Device

namespace Reading

def message? (id destination : NodeId) : Reading → Option Message
  | .sample payload => some { kind := payload.kind, source := id, destination, payload := some payload, valid := true }
  | _ => none

def warning? (id : NodeId) : Reading → Option Line
  | .failed cause => some ⟨.warn, s!"{id}: sensor read failed: {cause.message}"⟩
  | _ => none

end Reading

inductive SensorCommand where
  /-- A message comes in, when the settings are these. -/
  | hear (settings : Option Settings) (m : Message)
  | start
  | iterate
  | stop

/-- A sensor with its device, and with all that it has sent and reported. -/
structure Lookout (σ : Type) where
  sensor : Sensor
  state : σ
  outbox : List Message := []
  reports : List ThreadReport := []

namespace Lookout

/-- A sensor whose readings were given some destinations, one after the other, before anybody started it. -/
def create (id : NodeId) (loopTime : Duration) (destinations : List NodeId) (state : σ) : Lookout σ where
  sensor := destinations.foldl (fun s destination => (s.redirect destination).result) (.create id loopTime)
  state

def perform (device : Device σ) (w : Lookout σ) : SensorCommand → Lookout σ
  | .hear settings m =>
    let x := w.sensor.receive settings m
    { w with sensor := x.result, reports := w.reports ++ x.reports.map .caller }
  | .start =>
    let x := w.sensor.start
    { w with sensor := x.result.toOption.getD w.sensor, reports := w.reports ++ x.reports }
  | .iterate =>
    let x := w.sensor.pass device (w.state, w.outbox)
    { sensor := x.result.1, state := x.result.2.1, outbox := x.result.2.2, reports := w.reports ++ x.reports }
  | .stop =>
    let x := w.sensor.stop device (w.state, w.outbox)
    { sensor := x.result.1, state := x.result.2.1, outbox := x.result.2.2, reports := w.reports ++ x.reports }

def after (device : Device σ) (w : Lookout σ) (commands : List SensorCommand) : Lookout σ :=
  commands.foldl (perform device) w

/-- How many reads there have been, by all workers together. -/
def reads (w : Lookout σ) : Nat := w.sensor.slot.calls

/-- A command lets a worker read: one that goes on, or one that is stopped before it has read anything. -/
def isRead (w : Lookout σ) : SensorCommand → Bool
  | .iterate => w.sensor.slot.goesOn
  | .stop => w.sensor.slot.isPoised
  | _ => false

end Lookout

/-! ## One read -/

namespace Sensor

variable (device : Device σ) (s : Sensor) (state : σ) (outbox : List Message)

theorem state_body : (s.body device (state, outbox)).state =
    ((device.read state).2.2, outbox ++ ((device.read state).1.message? s.id s.destination).toList) := by
  obtain ⟨_, read⟩ := device
  unfold body publication?
  dsimp only
  rcases read state with ⟨reading, stops, state'⟩
  cases reading <;> rfl

theorem stops_body : (s.body device (state, outbox)).stops = (device.read state).2.1 := by
  obtain ⟨_, read⟩ := device
  unfold body WorkerSlot.BodyCall.stops
  dsimp only
  rcases read state with ⟨reading, stops, state'⟩
  cases reading <;> cases stops <;> rfl

theorem panicked_body : (s.body device (state, outbox)).panicked = ((device.read state).1 == .panicked) := rfl

theorem warnings_body :
    (s.body device (state, outbox)).warnings = ((device.read state).1.warning? s.id).toList := by
  obtain ⟨_, read⟩ := device
  unfold body WorkerSlot.BodyCall.warnings
  dsimp only
  rcases read state with ⟨reading, stops, state'⟩
  cases reading <;> cases stops <;> rfl

theorem result_start (s : Sensor) : s.start.result =
    if s.slot.isRunning then .error (.alreadyRunning s.slot.id) else .ok { s with slot := s.slot.spawned } := by
  unfold start
  rw [Traced.result_bind, WorkerSlot.result_start]
  cases s.slot.isRunning <;> rfl

/-- The news that a sensor hears may change its period, and nothing else about it. -/
theorem result_receive (settings : Option Settings) (m : Message) (s : Sensor) :
    (s.receive settings m).result = { s with period := (s.receive settings m).result.period } ∧
      warnings ((s.receive settings m).reports.map .caller) = [] := by
  unfold receive refresh
  split
  · cases settings.bind (·.loopTime s.id) <;> exact ⟨rfl, rfl⟩
  · exact ⟨rfl, rfl⟩

theorem result_pass : (s.pass device (state, outbox)).result =
    ({ s with slot := s.slot.passed (device.read state).2.1 ((device.read state).1 == .panicked) },
      if s.slot.goesOn then
        ((device.read state).2.2, outbox ++ ((device.read state).1.message? s.id s.destination).toList)
      else (state, outbox)) := by
  unfold pass
  rw [Traced.result_bind, WorkerSlot.result_pass, stops_body, panicked_body, state_body]
  rfl

theorem warnings_pass : warnings (s.pass device (state, outbox)).reports =
    if s.slot.goesOn then ((device.read state).1.warning? s.id).toList else [] := by
  unfold pass
  rw [Traced.reports_bind, warnings_append, WorkerSlot.warnings_pass, warnings_body]
  exact List.append_nil _

theorem result_stop : (s.stop device (state, outbox)).result =
    ({ s with slot := s.slot.calledOff ((device.read state).1 == .panicked) },
      if s.slot.isPoised then
        ((device.read state).2.2, outbox ++ ((device.read state).1.message? s.id s.destination).toList)
      else (state, outbox)) := by
  unfold stop
  rw [Traced.result_bind, WorkerSlot.result_stop_eq, panicked_body, state_body]
  rfl

theorem warnings_stop : warnings (s.stop device (state, outbox)).reports =
    if s.slot.isPoised then ((device.read state).1.warning? s.id).toList else [] := by
  unfold stop
  rw [Traced.reports_bind, warnings_append, WorkerSlot.warnings_stop, warnings_body]
  exact List.append_nil _

theorem warnings_start (s : Sensor) : warnings s.start.reports = [] := by
  unfold start
  rw [Traced.reports_bind, warnings_append, WorkerSlot.warnings_start]
  rfl

end Sensor

namespace Lookout

variable {device : Device σ} {id destination : NodeId} {origin : σ} {w : Lookout σ}

def slotAfter (device : Device σ) (w : Lookout σ) : SensorCommand → WorkerSlot
  | .hear _ _ => w.sensor.slot
  | .start => if w.sensor.slot.isRunning then w.sensor.slot else w.sensor.slot.spawned
  | .iterate => w.sensor.slot.passed (device.read w.state).2.1 ((device.read w.state).1 == .panicked)
  | .stop => w.sensor.slot.calledOff ((device.read w.state).1 == .panicked)

/-- What one command does: the device is read once, and its answer goes where it belongs, or nothing of the kind
happens. -/
structure Does (device : Device σ) (w v : Lookout σ) (c : SensorCommand) : Prop where
  slot : v.sensor.slot = w.slotAfter device c
  id : v.sensor.id = w.sensor.id
  destination : v.sensor.destination = w.sensor.destination
  sent : (v.state, v.outbox) =
    if w.isRead c then
      ((device.read w.state).2.2,
        w.outbox ++ ((device.read w.state).1.message? w.sensor.id w.sensor.destination).toList)
    else (w.state, w.outbox)
  warnings : warnings v.reports = warnings w.reports ++
    if w.isRead c then ((device.read w.state).1.warning? w.sensor.id).toList else []

theorem does_perform (device : Device σ) (w : Lookout σ) (c : SensorCommand) :
    Does device w (w.perform device c) c := by
  cases c with
  | hear settings m =>
    obtain ⟨same, quiet⟩ := Sensor.result_receive settings m w.sensor
    have slot := congrArg Sensor.slot same
    have id := congrArg Sensor.id same
    have destination := congrArg Sensor.destination same
    refine ⟨slot, id, destination, rfl, ?_⟩
    rw [perform, warnings_append, quiet]
    rfl
  | start =>
    have sensor : (w.perform device .start).sensor = { w.sensor with slot := w.slotAfter device .start } := by
      rw [perform, slotAfter, Sensor.result_start]
      cases w.sensor.slot.isRunning <;> rfl
    constructor
    · rw [sensor]
    · rw [sensor]
    · rw [sensor]
    · rfl
    · rw [perform, warnings_append, Sensor.warnings_start]
      rfl
  | iterate =>
    have sensor := congrArg Prod.fst (Sensor.result_pass device w.sensor w.state w.outbox)
    have sent := congrArg Prod.snd (Sensor.result_pass device w.sensor w.state w.outbox)
    have slot := congrArg Sensor.slot sensor
    have id := congrArg Sensor.id sensor
    have destination := congrArg Sensor.destination sensor
    refine ⟨slot, id, destination, sent, ?_⟩
    rw [perform, warnings_append, Sensor.warnings_pass]
    rfl
  | stop =>
    have sensor := congrArg Prod.fst (Sensor.result_stop device w.sensor w.state w.outbox)
    have sent := congrArg Prod.snd (Sensor.result_stop device w.sensor w.state w.outbox)
    have slot := congrArg Sensor.slot sensor
    have id := congrArg Sensor.id sensor
    have destination := congrArg Sensor.destination sensor
    refine ⟨slot, id, destination, sent, ?_⟩
    rw [perform, warnings_append, Sensor.warnings_stop]
    rfl

/-! ## The slot after a command -/

theorem reads_slotAfter (device : Device σ) (w : Lookout σ) (c : SensorCommand) :
    (w.slotAfter device c).calls = w.reads + if w.isRead c then 1 else 0 := by
  cases c with
  | hear settings m => rfl
  | start =>
    rw [slotAfter]
    split
    · rfl
    · exact WorkerSlot.calls_spawned _
  | iterate => exact WorkerSlot.calls_passed ..
  | stop => exact WorkerSlot.calls_calledOff ..

theorem atRest_slotAfter (device : Device σ) {w : Lookout σ} (rest : w.sensor.slot.AtRest) (c : SensorCommand) :
    (w.slotAfter device c).AtRest := by
  cases c with
  | hear settings m => exact rest
  | start =>
    rw [slotAfter]
    split
    · exact rest
    · exact WorkerSlot.atRest_spawned _
  | iterate => exact WorkerSlot.atRest_passed _ _ rest
  | stop => exact WorkerSlot.atRest_of_untracked (WorkerSlot.tracked_calledOff _ _)

/-! ## Histories -/

/-- What the sensor has sent and reported, told from the number of reads alone. -/
structure Accounts (device : Device σ) (id destination : NodeId) (origin : σ) (w : Lookout σ) : Prop where
  identity : w.sensor.id = id
  directed : w.sensor.destination = destination
  rest : w.sensor.slot.AtRest
  state : w.state = device.after origin w.reads
  outbox : w.outbox = (device.readings origin w.reads).filterMap (·.message? id destination)
  warnings : warnings w.reports = (device.readings origin w.reads).filterMap (·.warning? id)

theorem reads_perform (device : Device σ) (w : Lookout σ) (c : SensorCommand) :
    (w.perform device c).reads = w.reads + if w.isRead c then 1 else 0 := by
  rw [reads, (does_perform device w c).slot, reads_slotAfter]

theorem Accounts.perform (inv : Accounts device id destination origin w) (c : SensorCommand) :
    Accounts device id destination origin (w.perform device c) := by
  have does := does_perform device w c
  have counted := reads_perform device w c
  have sent := does.sent
  have warned := does.warnings
  have identity := does.id.trans inv.identity
  have directed := does.destination.trans inv.directed
  have rest := atRest_slotAfter device inv.rest c
  rw [← does.slot] at rest
  by_cases read : w.isRead c = true
  · rw [if_pos read] at counted sent warned
    rw [inv.identity, inv.directed, inv.outbox, Prod.mk.injEq] at sent
    rw [inv.identity, inv.warnings] at warned
    have state : (w.perform device c).state = device.after origin (w.reads + 1) := by
      rw [sent.1, inv.state]
      rfl
    have last : (device.read w.state).1 = device.reading origin w.reads := by
      rw [inv.state]
      rfl
    refine ⟨identity, directed, rest, ?_, ?_, ?_⟩
    · rw [counted, state]
    · rw [counted, sent.2, last, Device.readings_succ, List.filterMap_append, filterMap_one]
    · rw [counted, warned, last, Device.readings_succ, List.filterMap_append, filterMap_one]
  · rw [if_neg read] at counted sent warned
    rw [Prod.mk.injEq] at sent
    rw [List.append_nil] at warned
    refine ⟨identity, directed, rest, ?_, ?_, ?_⟩
    · rw [sent.1, counted]
      exact inv.state
    · rw [sent.2, counted]
      exact inv.outbox
    · rw [warned, counted]
      exact inv.warnings

theorem after_concat (device : Device σ) (w : Lookout σ) (commands : List SensorCommand) (c : SensorCommand) :
    w.after device (commands ++ [c]) = (w.after device commands).perform device c := List.foldl_concat ..

theorem Accounts.after (inv : Accounts device id destination origin w) (commands : List SensorCommand) :
    Accounts device id destination origin (w.after device commands) := by
  induction commands using List.reverseRecOn with
  | nil => exact inv
  | append_singleton commands c ih =>
    rw [after_concat]
    exact ih.perform c

/-- Before the first start, the last destination that was given is the one that counts. -/
theorem sensor_create (id : NodeId) (loopTime : Duration) (destinations : List NodeId) (origin : σ) :
    (create id loopTime destinations origin).sensor =
      { Sensor.create id loopTime with destination := destinations.getLastD .none } := by
  unfold create
  dsimp only
  induction destinations using List.reverseRecOn with
  | nil => rfl
  | append_singleton destinations destination ih =>
    rw [List.foldl_concat, ih, List.getLastD_concat]
    rfl

theorem accounts_create (device : Device σ) (id : NodeId) (loopTime : Duration) (destinations : List NodeId)
    (origin : σ) :
    Accounts device id (destinations.getLastD .none) origin (create id loopTime destinations origin) := by
  have sensor := sensor_create id loopTime destinations origin
  have none : (create id loopTime destinations origin).reads = 0 := by
    rw [reads, sensor]
    rfl
  constructor
  · rw [sensor]
    rfl
  · rw [sensor]
  · rw [sensor]
    exact WorkerSlot.atRest_of_untracked rfl
  · rw [none]
    rfl
  · rw [none]
    rfl
  · rw [none]
    rfl

/-! ## The result -/

/-- A history of commands, and what can come next. -/
structure Publishes (device : Device σ) (id destination : NodeId) (origin : σ) (new : Lookout σ)
    (commands : List SensorCommand) : Prop where
  outbox : (new.after device commands).outbox =
    (device.readings origin (new.after device commands).reads).filterMap (·.message? id destination)
  warnings : warnings (new.after device commands).reports =
    (device.readings origin (new.after device commands).reads).filterMap (·.warning? id)
  state : (new.after device commands).state = device.after origin (new.after device commands).reads
  reads : ∀ c, (new.after device (commands ++ [c])).reads =
    (new.after device commands).reads + if (new.after device commands).isRead c then 1 else 0
  /-- Only a read that panics ends a worker. Another one may be its last, if the device stopped the node over it. -/
  turn : (new.after device commands).sensor.slot.goesOn = true →
    (new.after device (commands ++ [.iterate])).sensor.slot.isRunning =
      (device.reading origin (new.after device commands).reads != .panicked) ∧
    (new.after device (commands ++ [.iterate])).sensor.slot.goesOn =
      (device.reading origin (new.after device commands).reads != .panicked &&
        !device.stopsAt origin (new.after device commands).reads)
  start : (new.after device (commands ++ [.start])).sensor.slot =
    if (new.after device commands).sensor.slot.isRunning then (new.after device commands).sensor.slot
    else (new.after device commands).sensor.slot.spawned
  stop : (new.after device (commands ++ [.stop])).sensor.slot.isRunning = false
  resumes : (new.after device commands).sensor.slot.goesOn = true →
    device.reading origin (new.after device commands).reads = .panicked →
    (new.after device (commands ++ [.iterate, .start, .iterate])).outbox = (new.after device commands).outbox ++
      ((device.reading origin ((new.after device commands).reads + 1)).message? id destination).toList

theorem publishes_create (device : Device σ) (id : NodeId) (loopTime : Duration) (destinations : List NodeId)
    (origin : σ) (commands : List SensorCommand) :
    Publishes device id (destinations.getLastD .none) origin (create id loopTime destinations origin) commands := by
  have accounts := accounts_create device id loopTime destinations origin
  generalize destinations.getLastD .none = destination at accounts ⊢
  generalize create id loopTime destinations origin = new at accounts ⊢
  have inv := accounts.after commands
  have turn : (new.after device commands).sensor.slot.goesOn = true →
      (new.after device (commands ++ [.iterate])).sensor.slot.isRunning =
        (device.reading origin (new.after device commands).reads != .panicked) ∧
      (new.after device (commands ++ [.iterate])).sensor.slot.goesOn =
        (device.reading origin (new.after device commands).reads != .panicked &&
          !device.stopsAt origin (new.after device commands).reads) := by
    intro goes
    rw [after_concat, (does_perform device _ .iterate).slot, slotAfter, WorkerSlot.isRunning_passed _ _ goes,
      WorkerSlot.goesOn_passed _ _ inv.rest, goes, inv.state]
    exact ⟨rfl, rfl⟩
  constructor
  case outbox => exact inv.outbox
  case warnings => exact inv.warnings
  case state => exact inv.state
  case reads =>
    intro c
    rw [after_concat, reads_perform]
  case turn => exact turn
  case start =>
    rw [after_concat]
    exact (does_perform device _ .start).slot
  case stop =>
    rw [after_concat, (does_perform device _ .stop).slot]
    exact WorkerSlot.isRunning_of_untracked (WorkerSlot.tracked_calledOff _ _)
  case resumes =>
    intro goes panicked
    have idle := (turn goes).1
    rw [panicked, after_concat] at idle
    have first : (new.after device commands).isRead .iterate = true := goes
    have second : (((new.after device commands).perform device .iterate).perform device .start).isRead .iterate =
        true := by
      rw [isRead]
      rw [(does_perform device _ .start).slot, slotAfter, idle]
      exact WorkerSlot.goesOn_spawned _
    have three : new.after device (commands ++ [.iterate, .start, .iterate]) =
        (((new.after device commands).perform device .iterate).perform device .start).perform device .iterate :=
      List.foldl_append ..
    have twice : (new.after device (commands ++ [.iterate, .start, .iterate])).reads =
        (new.after device commands).reads + 1 + 1 := by
      rw [three, reads_perform, reads_perform, reads_perform, if_pos first, if_pos second]
      rfl
    rw [(accounts.after _).outbox, twice, Device.readings_succ, Device.readings_succ, List.filterMap_append,
      List.filterMap_append, filterMap_one, filterMap_one, ← inv.outbox, panicked]
    exact congrArg (· ++ _) (List.append_nil _)

end Lookout

end VesselBus
