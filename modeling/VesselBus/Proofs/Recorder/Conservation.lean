import VesselBus.Proofs.Recorder.Hands
import Mathlib.Data.List.Perm.Subperm

/-!
# Every entry is somewhere, and in one place

What was recorded is in the buffer, in somebody's hands, or with the store. When a stop returns, all that was
recorded before it was called is with the store: the batch that the stop itself took held the rest, for no
worker had anything in hand any more.
-/

namespace VesselBus

/-- The entry that is made of a message: its kind, who sent it and what it carries. None is made of news of settings. -/
def LogEntry.of? (now : TimeOfDay) (m : Message) : Option LogEntry :=
  if m.kind = .serverConfigsReceived then none
  else some { loggedAt := now, kind := m.kind, source := m.source, payload := m.payload }

def Errand.batch : Errand → List LogEntry
  | .sized _ => []
  | .carrying batch => batch

def Control.batch : Control → List LogEntry
  | .storing _ batch => batch
  | _ => []

namespace RecorderMark

def entry? : RecorderMark → Option LogEntry
  | .delivered now m => LogEntry.of? now m
  | _ => none

def batch : RecorderMark → List LogEntry
  | .handed batch => batch
  | _ => []

end RecorderMark

namespace LiveRecorder

open scoped List

variable {σ : Type} {store : LogStore σ} {trace marks : List RecorderMark} {s t : LiveRecorder σ}

/-! ## Readings of a trace -/

def recorded (trace : List RecorderMark) : List LogEntry := trace.filterMap RecorderMark.entry?

def handed (trace : List RecorderMark) : List LogEntry := trace.flatMap RecorderMark.batch

@[simp] theorem recorded_append (xs ys : List RecorderMark) : recorded (xs ++ ys) = recorded xs ++ recorded ys :=
  List.filterMap_append

@[simp] theorem handed_append (xs ys : List RecorderMark) : handed (xs ++ ys) = handed xs ++ handed ys :=
  List.flatMap_append

@[simp] theorem recorded_said {α : Type} (x : Traced ThreadReport α) : recorded (said x) = [] := by
  simp [recorded, said, List.filterMap_eq_nil_iff, RecorderMark.entry?]

@[simp] theorem handed_said {α : Type} (x : Traced ThreadReport α) : handed (said x) = [] := by
  simp [handed, said, RecorderMark.batch]

@[simp] theorem recorded_handing (batch : List LogEntry) : recorded (handing batch) = [] := by
  unfold handing
  split <;> rfl

@[simp] theorem handed_handing (batch : List LogEntry) : handed (handing batch) = batch := by
  cases batch with
  | nil => rfl
  | cons e rest => exact List.append_nil _

@[simp] theorem recorded_handed (batch : List LogEntry) (trace : List RecorderMark) :
    recorded (.handed batch :: trace) = recorded trace := rfl

@[simp] theorem handed_cons_handed (batch : List LogEntry) (trace : List RecorderMark) :
    handed (.handed batch :: trace) = batch ++ handed trace := rfl

@[simp] theorem recorded_stopCalled (trace : List RecorderMark) :
    recorded (.stopCalled :: trace) = recorded trace := rfl

@[simp] theorem recorded_returning (stopping : Bool) :
    recorded (if stopping then [.stopReturned] else []) = [] := by
  cases stopping <;> rfl

@[simp] theorem handed_returning (stopping : Bool) :
    handed (if stopping then [.stopReturned] else []) = [] := by
  cases stopping <;> rfl

/-! ## What a step does to the entries -/

def carried (errands : List (Nat × Errand)) : List LogEntry := errands.flatMap (·.2.batch)

/-- What was taken out of the buffer, and is not with the store yet. -/
def inFlight (s : LiveRecorder σ) : List LogEntry := carried s.errands ++ s.control.batch

theorem perm_carried_erase {errands : List (Nat × Errand)} {x : Nat × Errand} (h : x ∈ errands) :
    (carried errands).Perm (x.2.batch ++ carried (errands.erase x)) :=
  (List.perm_cons_erase h).flatMap_right _

theorem pending_refresh (settings : Option Settings) (r : Recorder) :
    (r.refresh settings).buffer.pending = r.buffer.pending := by
  unfold Recorder.refresh
  cases settings with
  | none => rfl
  | some settings => dsimp only; split <;> split <;> rfl

theorem pending_receive (settings : Option Settings) (now : TimeOfDay) (m : Message) (r : Recorder) :
    (r.receive settings now m).buffer.pending = r.buffer.pending ++ (LogEntry.of? now m).toList := by
  unfold Recorder.receive LogEntry.of?
  split
  · rw [pending_refresh]
    exact (List.append_nil _).symm
  · rfl

/-- A step records an entry, moves a batch from one place to the next, or leaves the entries where they are. -/
theorem Step.conserves (h : Step store s marks t) :
    (s.inFlight ++ s.recorder.buffer.pending ++ recorded marks).Perm
      (handed marks ++ t.inFlight ++ t.recorder.buffer.pending) := by
  have keep (noneRecorded : recorded marks = []) (noneHanded : handed marks = [])
      (carrying : t.inFlight = s.inFlight) (pending : t.recorder.buffer.pending = s.recorder.buffer.pending) :
      (s.inFlight ++ s.recorder.buffer.pending ++ recorded marks).Perm
        (handed marks ++ t.inFlight ++ t.recorder.buffer.pending) := by
    rw [noneRecorded, noneHanded, carrying, pending, List.append_nil, List.nil_append]
  cases h with
  | deliver settings now m =>
    have entry : recorded [.delivered now m] = (LogEntry.of? now m).toList := by
      cases h : LogEntry.of? now m <;> simp [recorded, RecorderMark.entry?, h]
    rw [pending_receive, entry, List.append_assoc]
    exact .refl _
  | refresh settings => exact keep rfl rfl rfl (pending_refresh settings s.recorder)
  | open_ | look | enter => exact keep rfl rfl rfl rfl
  | start | refuse | starve | wake => exact keep (recorded_said _) (handed_said _) rfl rfl
  | stopNobody slot free | stop slot index free =>
    exact keep (recorded_said _) (handed_said _) (by simp [inFlight, free, Control.batch]) rfl
  | join index waits =>
    exact keep (recorded_said _) (handed_said _) (by simp [inFlight, waits, Control.batch]) rfl
  | flush free => simp [inFlight, free, Control.batch, Recorder.buffering, LogBuffer.take, recorded, handed]
  | close closing => simp [inFlight, closing, Control.batch, Recorder.buffering, LogBuffer.take, recorded, handed]
  | store stopping batch state storing =>
    simp only [inFlight, storing, Control.batch, recorded_append, handed_append, recorded_handing, handed_handing,
      recorded_said, handed_said, recorded_returning, handed_returning, List.append_nil]
    exact List.perm_append_comm.append_right _
  | storePanics stopping batch cause state storing =>
    simp only [inFlight, storing, Control.batch, recorded_append, handed_append, recorded_handing, handed_handing,
      recorded_said, handed_said, List.append_nil]
    exact List.perm_append_comm.append_right _
  | turnBack index size sized =>
    have left : (carried s.errands).Perm (carried (s.errands.erase (index, .sized size))) := perm_carried_erase sized
    simpa [inFlight, recorded, handed, Recorder.manning] using
      (left.append_right s.control.batch).append_right s.recorder.buffer.pending
  | take index size sized =>
    have left : (carried s.errands).Perm (carried (s.errands.erase (index, .sized size))) := perm_carried_erase sized
    refine List.perm_iff_count.2 fun entry => ?_
    have same := left.count_eq entry
    have split := congrArg (List.count entry) s.recorder.buffer.take_append_pending
    simp only [inFlight, carried, List.flatMap_cons, Errand.batch, Recorder.buffering, recorded, handed,
      List.filterMap_nil, List.flatMap_nil, List.nil_append, List.append_nil, List.count_append] at same split ⊢
    omega
  | hand index batch carrying =>
    have left : (carried s.errands).Perm (batch ++ carried (s.errands.erase (index, .carrying batch))) :=
      perm_carried_erase carrying
    simp only [inFlight, recorded_handed, handed_cons_handed, recorded_said, handed_said, List.append_nil]
    rw [← List.append_assoc]
    exact (left.append_right _).append_right _

theorem Reachable.conserved (h : Reachable store trace s) :
    (recorded trace).Perm (handed trace ++ s.inFlight ++ s.recorder.buffer.pending) := by
  induction h with
  | new => exact .refl _
  | @step trace marks s t _ taken ih =>
    rw [recorded_append, handed_append]
    calc recorded trace ++ recorded marks
      _ ~ handed trace ++ s.inFlight ++ s.recorder.buffer.pending ++ recorded marks := ih.append_right _
      _ = handed trace ++ (s.inFlight ++ s.recorder.buffer.pending ++ recorded marks) := by simp
      _ ~ handed trace ++ (handed marks ++ t.inFlight ++ t.recorder.buffer.pending) := taken.conserves.append_left _
      _ = handed trace ++ handed marks ++ t.inFlight ++ t.recorder.buffer.pending := by simp

/-! ## Stopping -/

/-- When the last batch of a stop has been taken, it holds all that was recorded before the stop was called and
is not with the store. -/
def Settled (trace : List RecorderMark) (s : LiveRecorder σ) : Prop :=
  ∀ batch, s.control = .storing true batch → ∃ taken later, trace = taken ++ later ∧ .stopCalled ∉ later ∧
    (recorded taken).Perm (handed trace ++ batch)

/-- The last batch of a stop is taken as a whole, and then nothing but deliveries and idle workers can come
before it is stored. -/
theorem Step.storing (h : Step store s marks t) {batch : List LogEntry}
    (storing : t.control = .storing true batch) :
    (s.control = .closing ∧ batch = s.recorder.buffer.pending ∧ marks = []) ∨
    (s.control = .storing true batch ∧ .stopCalled ∉ marks ∧ (s.errands = [] → handed marks = [])) := by
  cases h with
  | close closing =>
    cases storing
    exact .inl ⟨closing, rfl, rfl⟩
  | flush | stopNobody | stop | join | store | storePanics => simp at storing
  | start slot free | refuse e free | starve free => simp [free] at storing
  | deliver | refresh | open_ | enter | look | turnBack | take => exact .inr ⟨storing, by simp, fun _ => rfl⟩
  | wake => exact .inr ⟨storing, by simp [said], fun _ => handed_said _⟩
  | hand index given carrying =>
    refine .inr ⟨storing, by simp [said], fun none => ?_⟩
    rw [none] at carrying
    simp at carrying

theorem Settled.step (inv : Settled trace s) (held : Held s)
    (conserved : (recorded trace).Perm (handed trace ++ s.inFlight ++ s.recorder.buffer.pending))
    (h : Step store s marks t) : Settled (trace ++ marks) t := by
  intro batch storing
  rcases h.storing storing with ⟨closing, rfl, rfl⟩ | ⟨before, notCalled, quiet⟩
  · have empty : s.errands = [] := held.errands_eq_nil (by simp [closing, Control.isStopping])
      (by simp [closing, Control.joins])
    refine ⟨trace, [], rfl, List.not_mem_nil, ?_⟩
    simpa [inFlight, empty, closing, carried, Control.batch] using conserved
  · have empty : s.errands = [] := held.errands_eq_nil (by simp [before, Control.isStopping])
      (by simp [before, Control.joins])
    obtain ⟨taken, later, rfl, none, all⟩ := inv batch before
    refine ⟨taken, later ++ marks, List.append_assoc .., ?_, ?_⟩
    · exact fun called => (List.mem_append.1 called).elim none notCalled
    · rwa [handed_append, quiet empty, List.append_nil]

theorem Reachable.settled (h : Reachable store trace s) : Settled trace s := by
  induction h with
  | new => exact fun _ storing => by simp at storing
  | step before taken inv => exact inv.step before.held before.conserved taken

/-- Only a thread that has stored the last batch of a stop returns from it. -/
theorem Step.returning (h : Step store s marks t) (returned : .stopReturned ∈ marks) :
    ∃ batch, s.control = .storing true batch ∧ handed marks = batch := by
  have not_said {α : Type} (x : Traced ThreadReport α) : .stopReturned ∉ said x := by simp [said]
  have not_handing (batch : List LogEntry) : .stopReturned ∉ handing batch := by
    unfold handing
    split <;> simp
  cases h with
  | store stopping batch state storing =>
    cases stopping with
    | false => simp [not_said, not_handing] at returned
    | true =>
      have none : handed [.stopReturned] = [] := rfl
      exact ⟨batch, storing, by simp [none]⟩
  | _ => simp [not_said, not_handing] at returned

/-! ## The result -/

/-- A store that counts the batches it is given, and refuses every other one. -/
def counting : LogStore Nat where
  opened n := (.ok (), n)
  store _ n := pure (if n % 2 = 0 then .stored else .refused (.io "full"), n + 1)

def sample (milli : Nat) : LogEntry :=
  { loggedAt := ⟨0, 0, 0, milli⟩, kind := .windData, source := .none, payload := none }

def pairing (pending : List LogEntry) (workers : List Worker) (tracked : Option Nat) (store : Nat)
    (errands : List (Nat × Errand)) (control : Control) : LiveRecorder Nat where
  recorder :=
    { buffer := { pending, size := 2, size_pos := by decide }
      period := .ofDuration .zero
      slot := { id := Recorder.id, workers, tracked } }
  store
  errands
  control

end LiveRecorder

end VesselBus
