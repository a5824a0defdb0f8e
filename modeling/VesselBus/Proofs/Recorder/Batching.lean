import VesselBus.Proofs.Recorder.Conservation
import VesselBus.Proofs.Worker.Passing

/-!
# How the entries are cut into batches

One thread delivers, lets the worker of a recorder take its turns, flushes and stops, while the settings change. What
the store is given is then the sequence of the entries, cut where somebody handed the buffer over. The answers of the
store have no part in it: a batch that it refuses is gone, and the next one is what it would have been.
-/

namespace VesselBus

variable {σ τ : Type}

inductive RecorderCommand where
  | deliver (now : TimeOfDay) (m : Message)
  /-- The settings change, and the recorder does not hear of it before it looks them up. -/
  | configure (settings : Option Settings)
  | refresh
  | start
  | iterate
  | flush
  | stop

namespace RecorderCommand

def entry? : RecorderCommand → Option LogEntry
  | .deliver now m => LogEntry.of? now m
  | _ => none

def settings (found : Option Settings) : RecorderCommand → Option Settings
  | .configure settings => settings
  | _ => found

def looksUp : RecorderCommand → Bool
  | .deliver _ m => m.kind == .serverConfigsReceived
  | .refresh => true
  | _ => false

end RecorderCommand

/-- A recorder with the settings that it looks up, and its store. -/
structure Desk (σ : Type) where
  recorder : Recorder
  settings : Option Settings
  store : σ

namespace Desk

def create (size : Nat) (loopTime : Duration) (settings : Option Settings) (state : σ) : Desk σ :=
  ⟨.create size loopTime, settings, state⟩

def perform (store : LogStore σ) (d : Desk σ) : RecorderCommand → Desk σ
  | .deliver now m => { d with recorder := d.recorder.receive d.settings now m }
  | .configure settings => { d with settings }
  | .refresh => { d with recorder := d.recorder.refresh d.settings }
  | .start =>
    match d.recorder.start.result with
    | .ok recorder => { d with recorder }
    | .error _ => d
  | .iterate =>
    let (recorder, state) := (d.recorder.pass store d.store).result
    { d with recorder, store := state }
  | .flush =>
    let (recorder, _, state) := (d.recorder.flush store d.store).result
    { d with recorder, store := state }
  | .stop =>
    let (recorder, _, state) := (d.recorder.stop store d.store).result
    { d with recorder, store := state }

def after (store : LogStore σ) (d : Desk σ) (commands : List RecorderCommand) : Desk σ :=
  commands.foldl (perform store) d

end Desk

/-! ## Stores -/

def StoreOutcome.panic? : StoreOutcome → Option String
  | .panicked cause => some cause
  | _ => none

/-- What a store is called with for a batch: it is not called for nothing. -/
def batches (batch : List LogEntry) : List (List LogEntry) := if batch.isEmpty then [] else [batch]

theorem flatten_batches (batch : List LogEntry) : (batches batch).flatten = batch := by
  cases batch with
  | nil => rfl
  | cons e rest => exact List.append_nil _

theorem nil_not_mem_batches (batch : List LogEntry) : [] ∉ batches batch := by
  cases batch <;> simp [batches]

namespace LogStore

/-- The same store, with a journal of all the batches that it is given. -/
def journaled (store : LogStore σ) : LogStore (σ × List (List LogEntry)) where
  opened x := ((store.opened x.1).1, (store.opened x.1).2, x.2)
  store batch x := do
    let (outcome, state) ← store.store batch x.1
    return (outcome, state, x.2 ++ [batch])

/-- Two stores that panic over the same batches. Apart from that they may answer what they like. -/
def Alike (store : LogStore σ) (other : LogStore τ) (R : σ → τ → Prop) : Prop :=
  ∀ batch state state', R state state' →
    (store.store batch state).result.1.panic?.isSome = (other.store batch state').result.1.panic?.isSome ∧
      R (store.store batch state).result.2 (other.store batch state').result.2

def panics (store : LogStore σ) (state : σ) (batch : List LogEntry) : Bool :=
  (Recorder.handOver store batch state).result.1.isSome

def given (store : LogStore σ) (state : σ) (batch : List LogEntry) : σ :=
  (Recorder.handOver store batch state).result.2

end LogStore

theorem Recorder.result_handOver (store : LogStore σ) (batch : List LogEntry) (state : σ) :
    (handOver store batch state).result =
      if batch.isEmpty then (none, state)
      else ((store.store batch state).result.1.panic?, (store.store batch state).result.2) := by
  unfold handOver
  split
  · rfl
  · rw [write, Traced.result_bind]
    rcases (store.store batch state).result with ⟨outcome, state'⟩
    cases outcome <;> rfl

theorem Recorder.handOver_of_ne_nil {batch : List LogEntry} (some : batch ≠ []) (store : LogStore σ) (state : σ) :
    handOver store batch state = write store batch state := if_neg (by simpa using some)

namespace LogStore

variable {store : LogStore σ} {other : LogStore τ} {R : σ → τ → Prop}

theorem given_nil (store : LogStore σ) (state : σ) : store.given state [] = state := rfl

theorem Alike.handOver (alike : store.Alike other R) {state : σ} {state' : τ} (related : R state state')
    (batch : List LogEntry) : store.panics state batch = other.panics state' batch ∧
      R (store.given state batch) (other.given state' batch) := by
  unfold panics given
  rw [Recorder.result_handOver, Recorder.result_handOver]
  by_cases empty : batch.isEmpty = true
  · rw [if_pos empty, if_pos empty]
    exact ⟨rfl, related⟩
  · rw [if_neg empty, if_neg empty]
    exact alike batch state state' related

theorem given_journaled (store : LogStore σ) (x : σ × List (List LogEntry)) (batch : List LogEntry) :
    store.journaled.given x batch = (store.given x.1 batch, x.2 ++ batches batch) := by
  unfold given batches
  rw [Recorder.result_handOver, Recorder.result_handOver]
  split
  · rw [List.append_nil]
  · rfl

theorem alike_journaled (store : LogStore σ) : store.Alike store.journaled fun state x => state = x.1 := by
  rintro batch state ⟨_, journal⟩ rfl
  exact ⟨rfl, rfl⟩

theorem Alike.journaled (alike : store.Alike other R) :
    store.journaled.Alike other.journaled fun x y => R x.1 y.1 ∧ x.2 = y.2 := by
  rintro batch ⟨state, journal⟩ ⟨state', _⟩ ⟨related, rfl⟩
  obtain ⟨same, related'⟩ := alike batch state state' related
  exact ⟨same, related', rfl⟩

end LogStore

/-! ## What a command does -/

namespace LogBuffer

/-- What a worker takes, and what it leaves. -/
def takeFull (b : LogBuffer) : List LogEntry × LogBuffer := if b.size ≤ b.pending.length then b.take else ([], b)

theorem takeFull_fst (b : LogBuffer) : b.takeFull.1 = if b.size ≤ b.pending.length then b.pending else [] :=
  apply_ite Prod.fst ..

theorem takeFull_snd (b : LogBuffer) : b.takeFull.2 = if b.size ≤ b.pending.length then b.take.2 else b :=
  apply_ite Prod.snd ..

/-- A batch has an entry at least. -/
theorem pending_ne_nil_of_full {b : LogBuffer} (full : b.size ≤ b.pending.length) : b.pending ≠ [] :=
  List.ne_nil_of_length_pos (Nat.lt_of_lt_of_le b.size_pos full)

end LogBuffer

namespace WorkerSlot

variable {s : WorkerSlot}

/-- Nobody has asked its worker to stop. -/
def IsSteady (s : WorkerSlot) : Prop := s.AtRest ∧ s.goesOn = s.isRunning

theorem isSteady_of_untracked (untracked : s.tracked = none) : s.IsSteady := by
  constructor
  · exact atRest_of_untracked untracked
  · rw [goesOn_of_untracked untracked, isRunning_of_untracked untracked]

theorem isSteady_spawned (s : WorkerSlot) : s.spawned.IsSteady := by
  constructor
  · exact atRest_spawned s
  · unfold goesOn isRunning
    rw [trackedWorker?_spawned]
    rfl

theorem IsSteady.passed (steady : s.IsSteady) (panicked : Bool) : (s.passed false panicked).IsSteady := by
  constructor
  · exact atRest_passed false panicked steady.1
  · cases running : s.isRunning with
    | true =>
      have goes : s.goesOn = true := steady.2.trans running
      rw [goesOn_passed false panicked steady.1, isRunning_passed false panicked goes, goes, Bool.true_and,
        Bool.not_false, Bool.and_true]
    | false =>
      rw [passed_of_idle false panicked running]
      exact steady.2

end WorkerSlot

namespace Recorder

/-- What a command hands over. The worker looks at the size first, and a flush or a stop does not. -/
def batch (r : Recorder) : RecorderCommand → List LogEntry
  | .iterate =>
    if r.slot.isRunning ∧ r.buffer.size ≤ r.buffer.pending.length then r.buffer.pending else []
  | .flush | .stop => r.buffer.pending
  | _ => []

/-- The recorder after a command. All that it learns of its store is whether the store panics. -/
def next (settings : Option Settings) (panics : List LogEntry → Bool) (r : Recorder) : RecorderCommand → Recorder
  | .deliver now m => r.receive settings now m
  | .configure _ => r
  | .refresh => r.refresh settings
  | .start => if r.slot.isRunning then r else { r with slot := r.slot.spawned }
  | .iterate =>
    { r with
      slot := r.slot.passed false (panics r.buffer.takeFull.1)
      buffer := if r.slot.isRunning then r.buffer.takeFull.2 else r.buffer }
  | .flush => { r with buffer := r.buffer.take.2 }
  | .stop => { r with slot := r.slot.calledOff (panics r.buffer.takeFull.1), buffer := r.buffer.take.2 }

variable {r : Recorder}

theorem body_of_few {b : LogBuffer} (few : b.pending.length < b.size) (store : LogStore σ) (state : σ) :
    body store (b, state) = { state := (b, state) } := if_pos few

theorem body_of_full {b : LogBuffer} (full : b.size ≤ b.pending.length) (store : LogStore σ) (state : σ) :
    body store (b, state) =
      { state := (b.take.2, (write store b.pending state).result.2)
        acts := (write store b.pending state).reports.map .log
        panicked := (write store b.pending state).result.1.isSome } := if_neg (Nat.not_lt.2 full)

/-- A worker never finds an empty batch, so it does as a flush would with what it takes. -/
theorem body_eq (store : LogStore σ) (b : LogBuffer) (state : σ) : body store (b, state) =
    { state := (b.takeFull.2, store.given state b.takeFull.1)
      acts := (handOver store b.takeFull.1 state).reports.map .log
      panicked := store.panics state b.takeFull.1 } := by
  unfold LogStore.given LogStore.panics
  rw [LogBuffer.takeFull_fst, LogBuffer.takeFull_snd]
  by_cases full : b.size ≤ b.pending.length
  · rw [body_of_full full, if_pos full, if_pos full, handOver_of_ne_nil (LogBuffer.pending_ne_nil_of_full full)]
  · rw [body_of_few (Nat.lt_of_not_le full), if_neg full, if_neg full]
    rfl

theorem stops_body (store : LogStore σ) (b : LogBuffer) (state : σ) : (body store (b, state)).stops = false := by
  rw [body_eq]
  simp [WorkerSlot.BodyCall.stops]

theorem state_body (store : LogStore σ) (b : LogBuffer) (state : σ) :
    (body store (b, state)).state = (b.takeFull.2, store.given state b.takeFull.1) := by rw [body_eq]

theorem panicked_body (store : LogStore σ) (b : LogBuffer) (state : σ) :
    (body store (b, state)).panicked = store.panics state b.takeFull.1 := by rw [body_eq]

theorem result_start (r : Recorder) : r.start.result =
    if r.slot.isRunning then .error (.alreadyRunning r.slot.id) else .ok { r with slot := r.slot.spawned } := by
  unfold start
  rw [Traced.result_bind, WorkerSlot.result_start]
  cases r.slot.isRunning <;> rfl

theorem result_pass (store : LogStore σ) (r : Recorder) (state : σ) : (r.pass store state).result =
    ({ r with
      slot := r.slot.passed false (store.panics state r.buffer.takeFull.1)
      buffer := if r.slot.goesOn then r.buffer.takeFull.2 else r.buffer },
      if r.slot.goesOn then store.given state r.buffer.takeFull.1 else state) := by
  unfold pass
  rw [Traced.result_bind, WorkerSlot.result_pass, stops_body, state_body, panicked_body]
  cases r.slot.goesOn <;> rfl

/-- A worker that has not looked at the buffer yet does so first. What it takes, the stop does not find. -/
theorem result_stop (store : LogStore σ) (r : Recorder) (state : σ) :
    ((r.stop store state).result.1, (r.stop store state).result.2.2) =
      ({ r with slot := r.slot.calledOff (store.panics state r.buffer.takeFull.1), buffer := r.buffer.take.2 },
        store.given state r.buffer.pending) := by
  have flushed : ((r.stop store state).result.1, (r.stop store state).result.2.2) =
      let x := (r.slot.stop (body store) (r.buffer, state)).result
      ({ r with slot := x.1, buffer := x.2.1.take.2 }, store.given x.2.2 x.2.1.pending) := rfl
  rw [flushed, WorkerSlot.result_stop_eq, state_body, panicked_body, LogBuffer.takeFull_snd]
  cases r.slot.isPoised with
  | false => rfl
  | true =>
    rw [if_pos rfl, LogBuffer.takeFull_fst]
    by_cases full : r.buffer.size ≤ r.buffer.pending.length
    · rw [if_pos full, if_pos full]
      rfl
    · rw [if_neg full, if_neg full]
      rfl

end Recorder

namespace Desk

theorem perform_eq (store : LogStore σ) (d : Desk σ) (steady : d.recorder.slot.IsSteady) (c : RecorderCommand) :
    d.perform store c =
      { recorder := d.recorder.next d.settings (store.panics d.store) c
        settings := c.settings d.settings
        store := store.given d.store (d.recorder.batch c) } := by
  cases c with
  | deliver now m => rfl
  | configure settings => rfl
  | refresh => rfl
  | start =>
    rw [perform, Recorder.result_start, Recorder.next]
    cases d.recorder.slot.isRunning <;> rfl
  | iterate =>
    rw [perform, Recorder.result_pass, steady.2, Recorder.next, Recorder.batch, LogBuffer.takeFull_fst]
    cases d.recorder.slot.isRunning <;> simp [RecorderCommand.settings, LogStore.given_nil]
  | flush => rfl
  | stop =>
    have stopped := Recorder.result_stop store d.recorder d.store
    rw [Prod.mk.injEq] at stopped
    have performed : d.perform store .stop =
        { d with
          recorder := (d.recorder.stop store d.store).result.1
          store := (d.recorder.stop store d.store).result.2.2 } := rfl
    rw [performed, stopped.1, stopped.2]
    rfl

end Desk

namespace Recorder

variable {settings : Option Settings} {panics : List LogEntry → Bool} {r : Recorder}

theorem isSteady_next (steady : r.slot.IsSteady) (c : RecorderCommand) :
    (r.next settings panics c).slot.IsSteady := by
  cases c with
  | deliver now m =>
    have same : (r.receive settings now m).slot = r.slot := LiveRecorder.slot_receive settings now m r
    rwa [next, same]
  | refresh =>
    have same : (r.refresh settings).slot = r.slot := LiveRecorder.slot_refresh settings r
    rwa [next, same]
  | configure settings' => exact steady
  | flush => exact steady
  | start =>
    rw [next]
    split
    · exact steady
    · exact WorkerSlot.isSteady_spawned r.slot
  | iterate => exact steady.passed _
  | stop => exact WorkerSlot.isSteady_of_untracked (WorkerSlot.tracked_calledOff _ _)

/-- What a command hands over was at the front of the buffer, and what it records goes to the end. -/
theorem batch_append_pending (settings : Option Settings) (panics : List LogEntry → Bool) (r : Recorder)
    (c : RecorderCommand) :
    r.batch c ++ (r.next settings panics c).buffer.pending = r.buffer.pending ++ c.entry?.toList := by
  cases c with
  | deliver now m => exact LiveRecorder.pending_receive settings now m r
  | refresh =>
    refine (LiveRecorder.pending_refresh settings r).trans ?_
    exact (List.append_nil _).symm
  | configure settings' => exact (List.append_nil _).symm
  | start =>
    rw [next]
    split <;> exact (List.append_nil _).symm
  | iterate =>
    rw [batch, next, LogBuffer.takeFull_snd]
    by_cases running : r.slot.isRunning = true
    · by_cases full : r.buffer.size ≤ r.buffer.pending.length
      · simp [running, full, LogBuffer.take, RecorderCommand.entry?]
      · simp [running, full, RecorderCommand.entry?]
    · simp [running, RecorderCommand.entry?]
  | flush => rfl
  | stop => rfl

theorem buffer_next_of_nothing (settings : Option Settings) (panics : List LogEntry → Bool)
    (nothing : r.batch .iterate = []) : (r.next settings panics .iterate).buffer = r.buffer := by
  rw [next, LogBuffer.takeFull_snd]
  by_cases whole : r.slot.isRunning = true ∧ r.buffer.size ≤ r.buffer.pending.length
  · rw [batch, if_pos whole] at nothing
    exact absurd nothing (LogBuffer.pending_ne_nil_of_full whole.2)
  · by_cases running : r.slot.isRunning = true
    · rw [if_pos running, if_neg fun full => whole ⟨running, full⟩]
    · rw [if_neg running]

end Recorder

/-! ## The size of a batch -/

namespace RecorderCommand

/-- The size that a recorder was told last, in the settings that it found. -/
def size (found : Option Settings) (size : Nat) (c : RecorderCommand) : Nat :=
  if c.looksUp then (found.bind (·.logQueueSize)).getD size else size

def sizeAfter (found : Option Settings) (size : Nat) : List RecorderCommand → Nat
  | [] => size
  | c :: rest => sizeAfter (c.settings found) (c.size found size) rest

end RecorderCommand

namespace Recorder

theorem size_refresh (settings : Option Settings) (r : Recorder) :
    (r.refresh settings).buffer.size =
      ((settings.bind (·.logQueueSize)).map (max · 1)).getD r.buffer.size := by
  cases settings with
  | none => rfl
  | some settings =>
    unfold refresh
    cases period : settings.loopTime id <;> cases told : settings.logQueueSize <;>
      simp [period, told, LogBuffer.resize]

theorem size_next (settings : Option Settings) (panics : List LogEntry → Bool) (r : Recorder) (c : RecorderCommand)
    {told : Nat} (h : r.buffer.size = max told 1) :
    (r.next settings panics c).buffer.size = max (c.size settings told) 1 := by
  have refreshed : (r.refresh settings).buffer.size =
      max ((settings.bind (·.logQueueSize)).getD told) 1 := by
    rw [size_refresh, h]
    cases settings.bind (·.logQueueSize) <;> rfl
  cases c with
  | deliver now m =>
    unfold next receive RecorderCommand.size RecorderCommand.looksUp
    by_cases news : m.kind = .serverConfigsReceived
    · simpa [news] using refreshed
    · simpa [news, LogBuffer.add] using h
  | refresh => exact refreshed
  | configure settings' => exact h
  | start =>
    rw [next]
    split <;> exact h
  | iterate =>
    have same : r.buffer.takeFull.2.size = r.buffer.size := by
      rw [LogBuffer.takeFull_snd]
      split <;> rfl
    rw [next]
    split
    · exact same.trans h
    · exact h
  | flush => exact h
  | stop => exact h

end Recorder

/-! ## Runs -/

namespace Desk

variable {store : LogStore σ} {other : LogStore τ} {R : σ → τ → Prop}

theorem after_concat (store : LogStore σ) (d : Desk σ) (commands : List RecorderCommand) (c : RecorderCommand) :
    d.after store (commands ++ [c]) = (d.after store commands).perform store c := List.foldl_concat ..

theorem isSteady_after (store : LogStore σ) {d : Desk σ} (steady : d.recorder.slot.IsSteady)
    (commands : List RecorderCommand) : (d.after store commands).recorder.slot.IsSteady := by
  induction commands using List.reverseRecOn with
  | nil => exact steady
  | append_singleton commands c ih =>
    rw [after_concat, perform_eq store _ ih]
    exact Recorder.isSteady_next ih c

/-- Two desks that differ in their stores alone. -/
structure Beside (R : σ → τ → Prop) (d : Desk σ) (e : Desk τ) : Prop where
  recorder : e.recorder = d.recorder
  settings : e.settings = d.settings
  store : R d.store e.store

theorem Beside.perform {d : Desk σ} {e : Desk τ} (beside : Beside R d e) (alike : store.Alike other R)
    (steady : d.recorder.slot.IsSteady) (c : RecorderCommand) :
    Beside R (d.perform store c) (e.perform other c) := by
  have panics : other.panics e.store = store.panics d.store :=
    funext fun batch => (alike.handOver beside.store batch).1.symm
  have steady' : e.recorder.slot.IsSteady := by rwa [beside.recorder]
  rw [perform_eq store d steady, perform_eq other e steady']
  constructor
  · rw [beside.recorder, beside.settings, panics]
  · rw [beside.settings]
  · rw [beside.recorder]
    exact (alike.handOver beside.store _).2

theorem Beside.after {d : Desk σ} {e : Desk τ} (beside : Beside R d e) (alike : store.Alike other R)
    (steady : d.recorder.slot.IsSteady) (commands : List RecorderCommand) :
    Beside R (d.after store commands) (e.after other commands) := by
  induction commands using List.reverseRecOn with
  | nil => exact beside
  | append_singleton commands c ih =>
    rw [after_concat, after_concat]
    exact ih.perform alike (isSteady_after store steady commands) c

def journaled (d : Desk σ) : Desk (σ × List (List LogEntry)) := ⟨d.recorder, d.settings, d.store, []⟩

def handed (store : LogStore σ) (d : Desk σ) (commands : List RecorderCommand) : List (List LogEntry) :=
  (d.journaled.after store.journaled commands).store.2

theorem beside_journaled (store : LogStore σ) {d : Desk σ} (steady : d.recorder.slot.IsSteady)
    (commands : List RecorderCommand) :
    Beside (fun state x => state = x.1) (d.after store commands) (d.journaled.after store.journaled commands) := by
  have beside : Beside (fun state (x : σ × List (List LogEntry)) => state = x.1) d d.journaled := ⟨rfl, rfl, rfl⟩
  exact beside.after store.alike_journaled steady commands

theorem handed_concat (store : LogStore σ) {d : Desk σ} (steady : d.recorder.slot.IsSteady)
    (commands : List RecorderCommand) (c : RecorderCommand) :
    d.handed store (commands ++ [c]) =
      d.handed store commands ++ batches ((d.after store commands).recorder.batch c) := by
  have beside := beside_journaled store steady commands
  have steady' := isSteady_after store.journaled (d := d.journaled) steady commands
  rw [handed, after_concat, perform_eq _ _ steady', LogStore.given_journaled, beside.recorder]
  rfl

theorem flatten_handed (store : LogStore σ) {d : Desk σ} (steady : d.recorder.slot.IsSteady)
    (commands : List RecorderCommand) :
    (d.handed store commands).flatten ++ (d.after store commands).recorder.buffer.pending =
      d.recorder.buffer.pending ++ commands.filterMap RecorderCommand.entry? := by
  induction commands using List.reverseRecOn with
  | nil => exact (List.append_nil _).symm
  | append_singleton commands c ih =>
    have performed := perform_eq store _ (isSteady_after store steady commands) c
    have moved := Recorder.batch_append_pending (d.after store commands).settings
      (store.panics (d.after store commands).store) (d.after store commands).recorder c
    rw [handed_concat store steady, after_concat, performed, List.flatten_append, flatten_batches, List.append_assoc,
      moved, ← List.append_assoc, ih, List.filterMap_append, filterMap_one, List.append_assoc]

theorem nil_not_mem_handed (store : LogStore σ) {d : Desk σ} (steady : d.recorder.slot.IsSteady)
    (commands : List RecorderCommand) : [] ∉ d.handed store commands := by
  induction commands using List.reverseRecOn with
  | nil => exact List.not_mem_nil
  | append_singleton commands c ih =>
    rw [handed_concat store steady, List.mem_append]
    rintro (before | now)
    · exact ih before
    · exact nil_not_mem_batches _ now

theorem size_after (store : LogStore σ) {d : Desk σ} (steady : d.recorder.slot.IsSteady) {told : Nat}
    (h : d.recorder.buffer.size = max told 1) (commands : List RecorderCommand) :
    (d.after store commands).recorder.buffer.size = max (RecorderCommand.sizeAfter d.settings told commands) 1 := by
  induction commands generalizing d told with
  | nil => exact h
  | cons c rest ih =>
    have performed := perform_eq store d steady c
    have steady' : (d.perform store c).recorder.slot.IsSteady := by
      rw [performed]
      exact Recorder.isSteady_next steady c
    have size : (d.perform store c).recorder.buffer.size = max (c.size d.settings told) 1 := by
      rw [performed]
      exact Recorder.size_next _ _ _ c h
    have later := ih steady' size
    rw [performed] at later
    rw [after, List.foldl_cons, performed]
    exact later

/-! ## The result -/

/-- How a history of commands cuts the entries of a recorder that was new. -/
structure Batched (store : LogStore σ) (size : Nat) (new : Desk σ) (commands : List RecorderCommand) : Prop where
  /-- The journal is all that keeping a journal adds. -/
  journal : new.journaled.after store.journaled commands =
    ⟨(new.after store commands).recorder, (new.after store commands).settings,
      (new.after store commands).store, new.handed store commands⟩
  entries : (new.handed store commands).flatten ++ (new.after store commands).recorder.buffer.pending =
    commands.filterMap RecorderCommand.entry?
  nonempty : [] ∉ new.handed store commands
  next : ∀ c, new.handed store (commands ++ [c]) =
    new.handed store commands ++ batches ((new.after store commands).recorder.batch c)
  /-- A turn of the worker that hands nothing over leaves the buffer and the store alone. -/
  idle : (new.after store commands).recorder.batch .iterate = [] →
    (new.after store (commands ++ [.iterate])).recorder.buffer = (new.after store commands).recorder.buffer ∧
      (new.after store (commands ++ [.iterate])).store = (new.after store commands).store
  size : (new.after store commands).recorder.buffer.size =
    max (RecorderCommand.sizeAfter new.settings size commands) 1
  size_pos : 1 ≤ (new.after store commands).recorder.buffer.size
  /-- Another store may refuse what this one takes: as long as it panics over the same batches, it is given them too. -/
  unswayed : ∀ (τ : Type) (other : LogStore τ) (R : σ → τ → Prop) (state : τ), store.Alike other R →
    R new.store state → handed other { new with store := state } commands = new.handed store commands

theorem batched_create (store : LogStore σ) (size : Nat) (loopTime : Duration) (settings : Option Settings) (state : σ)
    (commands : List RecorderCommand) : Batched store size (create size loopTime settings state) commands := by
  generalize created : create size loopTime settings state = new
  have steady : new.recorder.slot.IsSteady := by
    rw [← created]
    exact WorkerSlot.isSteady_of_untracked rfl
  constructor
  case journal =>
    have beside := beside_journaled store steady commands
    generalize same : new.journaled.after store.journaled commands = x at beside
    have whole : x = ⟨x.recorder, x.settings, x.store.1, x.store.2⟩ := rfl
    rw [whole, beside.recorder, beside.settings, ← beside.store, handed, same]
  case entries =>
    rw [flatten_handed store steady commands, ← created]
    rfl
  case nonempty => exact nil_not_mem_handed store steady commands
  case next => exact handed_concat store steady commands
  case idle =>
    intro nothing
    rw [after_concat, perform_eq store _ (isSteady_after store steady commands), nothing]
    exact ⟨Recorder.buffer_next_of_nothing (new.after store commands).settings _ nothing, rfl⟩
  case size =>
    have told : new.recorder.buffer.size = max size 1 := by
      rw [← created]
      rfl
    exact size_after store steady told commands
  case size_pos => exact LogBuffer.size_pos _
  case unswayed =>
    intro τ other R state' alike related
    have beside : Beside (fun (x : σ × List (List LogEntry)) (y : τ × List (List LogEntry)) => R x.1 y.1 ∧ x.2 = y.2)
        new.journaled ({ new with store := state' } : Desk τ).journaled := ⟨rfl, rfl, related, rfl⟩
    exact (beside.after alike.journaled steady commands).store.2.symm

/-- Three entries come while the worker waits for two, and the store refuses every other batch. -/
example : (create 2 .zero (some (Settings.empty.setLogQueueSize 0)) 0).handed LiveRecorder.counting
    [.start, .deliver ⟨0, 0, 0, 0⟩ (.anonymous .windData), .iterate, .deliver ⟨0, 0, 0, 1⟩ (.anonymous .windData),
      .iterate, .refresh, .iterate, .deliver ⟨0, 0, 0, 2⟩ (.anonymous .windData), .iterate, .flush] =
    [[LiveRecorder.sample 0, LiveRecorder.sample 1], [LiveRecorder.sample 2]] := rfl

end Desk

end VesselBus
