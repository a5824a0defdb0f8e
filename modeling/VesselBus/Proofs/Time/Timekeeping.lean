import VesselBus.Proofs.Places
import VesselBus.Time.Stopwatch
import Mathlib.Data.List.Induction

/-!
# Stopwatches keep time

What a stopwatch shows is told by the presses that took effect on it: every reset, a start on one that was stopped and a
stop on one that was running. It runs unless the last of them was a stop, and what has passed is counted from there. A
clone goes on from where the other one was, and from then on each heeds its own presses only.
-/

namespace VesselBus

namespace Stopwatch

/-! ## Presses -/

inductive Button where
  | start
  | reset
  | stop
  deriving DecidableEq, Repr

/-- A button, with the reading of the clock when it is pressed. -/
structure Press where
  button : Button
  reading : Nat
  deriving DecidableEq, Repr

def press (w : Stopwatch) (p : Press) : Stopwatch :=
  match p.button with
  | .start => w.start p.reading
  | .reset => w.reset p.reading
  | .stop => w.stop p.reading

theorem foldl_press_of_running {w : Stopwatch} (running : w.running = true) {ps : List Press}
    (starts : ∀ p ∈ ps, p.button ≠ .reset ∧ p.button ≠ .stop) : ps.foldl press w = w := by
  induction ps with
  | nil => rfl
  | cons p rest ih =>
    obtain ⟨noReset, noStop⟩ := starts p (by simp)
    have start : w.press p = w := by
      unfold press
      split
      · exact start_of_running running _
      · contradiction
      · contradiction
    rw [List.foldl_cons, start]
    exact ih fun q hq => starts q (by simp [hq])

/-! ## The presses that took effect -/

/-- A stopwatch by the presses that took effect on it, the last one first. -/
abbrev Log := List Press

namespace Log

variable {log : Log} {now passed : Nat}

/-- The last of them was no stop. -/
def runs (log : Log) : Bool := log.head?.any (·.button ≠ .stop)

def heeds (log : Log) : Button → Bool
  | .start => !log.runs
  | .reset => true
  | .stop => log.runs

def press (log : Log) (p : Press) : Log := if log.heeds p.button then p :: log else log

/-- What a log says has passed at a reading of the clock. It says so by sums, which a clock that goes back cannot meet. -/
inductive Shows (now : Nat) : Log → Nat → Prop where
  | unused : Shows now [] 0
  | running {since : Press} {earlier : Log} {passed : Nat} (ran : since.button ≠ .stop)
    (sum : since.reading + passed = now) : Shows now (since :: earlier) passed
  | stopped {last since : Press} {earlier : Log} {passed : Nat} (stop : last.button = .stop)
    (ran : since.button ≠ .stop) (sum : since.reading + passed = last.reading) :
    Shows now (last :: since :: earlier) passed

theorem runs_iff : log.runs = true ↔ ∃ last earlier, log = last :: earlier ∧ last.button ≠ .stop := by
  cases log with
  | nil => simp [runs]
  | cons last earlier => simp [runs]

theorem Shows.sum {since : Press} {earlier : Log} (h : Shows now (since :: earlier) passed)
    (ran : since.button ≠ .stop) : since.reading + passed = now := by
  cases h with
  | running _ sum => exact sum
  | stopped stop => exact absurd stop ran

end Log

/-- What a stopwatch shows, from a reading on, is what the log tells. -/
structure ToldBy (now : Nat) (w : Stopwatch) (log : Log) : Prop where
  running : w.running = log.runs
  passed : ∀ later, now ≤ later → log.Shows later (w.passed later)

namespace ToldBy

variable {now : Nat} {w : Stopwatch} {log : Log}

theorem create (now : Nat) : ToldBy now (.create now) [] := ⟨rfl, fun _ _ => .unused⟩

theorem mono (h : ToldBy now w log) {later : Nat} (le : now ≤ later) : ToldBy later w log :=
  ⟨h.running, fun _ le' => h.passed _ (Nat.le_trans le le')⟩

theorem exists_since (h : ToldBy now w log) (running : w.running = true) :
    ∃ since, ∀ later, now ≤ later → since + w.passed later = later := by
  obtain ⟨since, earlier, rfl, ran⟩ := Log.runs_iff.1 (h.running ▸ running)
  exact ⟨since.reading, fun later le => (h.passed later le).sum ran⟩

/-- It has reached what it was asked to wait for. -/
theorem reached_of_waited (h : ToldBy now w log) (running : w.running = true) {target later : Nat}
    (waited : now + w.remaining now target ≤ later) : w.reached later target = true := by
  obtain ⟨since, sum⟩ := h.exists_since running
  have atNow := sum now (Nat.le_refl _)
  have atLater := sum later (by omega)
  have both := remaining_add_passed w now target
  exact reached_iff.2 ⟨running, by omega⟩

theorem reset (w : Stopwatch) (log : Log) {p : Press} (ran : p.button ≠ .stop) :
    ToldBy p.reading (w.reset p.reading) (p :: log) := by
  constructor
  · simp [Log.runs, ran]
  · intro later le
    refine .running ran ?_
    rw [passed_reset]
    omega

theorem stop (h : ToldBy now w log) (running : w.running = true) {p : Press} (stop : p.button = .stop)
    (le : now ≤ p.reading) : ToldBy p.reading (w.stop p.reading) (p :: log) := by
  obtain ⟨since, earlier, rfl, ran⟩ := Log.runs_iff.1 (h.running ▸ running)
  constructor
  · simp [Log.runs, stop]
  · -- What is frozen is what was shown at that reading, and no later one matters.
    intro later _
    rw [passed_stop]
    exact .stopped stop ran ((h.passed p.reading le).sum ran)

theorem press (h : ToldBy now w log) (p : Press) (le : now ≤ p.reading) :
    ToldBy p.reading (w.press p) (log.press p) := by
  have same := h.mono le
  obtain ⟨button, reading⟩ := p
  unfold Stopwatch.press Log.press Log.heeds
  rw [← h.running]
  cases button with
  | start =>
    cases running : w.running with
    | true =>
      rw [start_of_running running]
      exact same
    | false =>
      rw [start_of_stopped running]
      exact .reset w log (by simp)
  | reset => exact .reset w log (by simp)
  | stop =>
    cases running : w.running with
    | true => exact h.stop running rfl le
    | false =>
      rw [stop_of_stopped running]
      exact same

end ToldBy

/-! ## Traces -/

/-- What is done with stopwatches. They are numbered in the order in which they come up. -/
inductive Action where
  | create
  | clone (watch : Nat)
  | press (watch : Nat) (button : Button)
  /-- Whatever it is asked, and also if it is asked to wait until it has reached something. -/
  | ask (watch : Nat)
  deriving DecidableEq, Repr

structure Event where
  action : Action
  reading : Nat
  deriving DecidableEq, Repr

def Event.press? (i : Nat) (e : Event) : Option Press :=
  match e.action with
  | .press watch button => if watch = i then some ⟨button, e.reading⟩ else none
  | _ => none

/-- The presses of one stopwatch. -/
def presses (i : Nat) (trace : List Event) : List Press := trace.filterMap (Event.press? i)

section Run

variable {σ τ : Type} (create : Nat → σ) (press : σ → Press → σ)

/-- What an event does to stopwatches, whatever they are made of. -/
def handle (watches : List σ) (e : Event) : List σ :=
  match e.action with
  | .create => watches ++ [create e.reading]
  | .clone watch => watches ++ watches[watch]?.toList
  | .press watch button => watches.modify watch (press · ⟨button, e.reading⟩)
  | .ask _ => watches

def run (trace : List Event) : List σ := trace.foldl (handle create press) []

variable {create press}

theorem run_concat (trace : List Event) (e : Event) :
    run create press (trace ++ [e]) = handle create press (run create press trace) e := by
  rw [run, List.foldl_append]
  rfl

theorem getElem?_handle {watches : List σ} {i : Nat} {w : σ} (there : watches[i]? = some w) (e : Event) :
    (handle create press watches e)[i]? = some ((e.press? i).elim w (press w)) := by
  unfold handle Event.press?
  cases e.action with
  | create | clone =>
    rw [List.getElem?_append_left (List.getElem?_eq_some_iff.1 there).1]
    exact there
  | press watch button =>
    dsimp only
    rw [List.getElem?_modify, there]
    split <;> rfl
  | ask => exact there

/-- A stopwatch becomes what its own presses make of it. -/
theorem getElem?_foldl_handle {watches : List σ} {i : Nat} {w : σ} (there : watches[i]? = some w) (trace : List Event) :
    (trace.foldl (handle create press) watches)[i]? = some ((presses i trace).foldl press w) := by
  induction trace generalizing watches w with
  | nil => exact there
  | cons e rest ih =>
    rw [List.foldl_cons, ih (getElem?_handle there e), presses, presses]
    cases found : e.press? i with
    | none => rw [List.filterMap_cons_none found, Option.elim_none]
    | some p => rw [List.filterMap_cons_some found, Option.elim_some, List.foldl_cons]

theorem forall₂_handle {create' : Nat → τ} {press' : τ → Press → τ} {R : σ → τ → Prop} {xs : List σ} {ys : List τ}
    (h : List.Forall₂ R xs ys) (e : Event) (new : R (create e.reading) (create' e.reading))
    (pressed : ∀ x y button, R x y → R (press x ⟨button, e.reading⟩) (press' y ⟨button, e.reading⟩)) :
    List.Forall₂ R (handle create press xs e) (handle create' press' ys e) := by
  unfold handle
  cases e.action with
  | create => exact List.rel_append h (.cons new .nil)
  | clone watch => exact List.rel_append h (forall₂_toList_getElem? h watch)
  | press watch button => exact forall₂_modify h watch _ _ fun x y _ _ related => pressed x y button related
  | ask => exact h

end Run

/-- The stopwatches after a trace. -/
def watches (trace : List Event) : List Stopwatch := run create press trace

/-- Their logs. -/
def logs (trace : List Event) : List Log := run (fun _ => []) Log.press trace

/-- The clock never goes back. -/
def Ordered (trace : List Event) : Prop := trace.Pairwise (·.reading ≤ ·.reading)

instance (trace : List Event) : Decidable (Ordered trace) := inferInstanceAs (Decidable (trace.Pairwise _))

section Watches

variable {trace : List Event} {i : Nat} {w : Stopwatch}

theorem getElem?_watches_append (there : (watches trace)[i]? = some w) (more : List Event) :
    (watches (trace ++ more))[i]? = some ((presses i more).foldl press w) := by
  rw [watches, run, List.foldl_append]
  exact getElem?_foldl_handle there more

theorem watches_press_of_same (there : (watches trace)[i]? = some w) (p : Press) (same : w.press p = w) :
    watches (trace ++ [⟨.press i p.button, p.reading⟩]) = watches trace := by
  rw [watches, run_concat]
  refine modify_eq_self fun x at_ => ?_
  obtain rfl : w = x := Option.some.inj (there.symm.trans at_)
  exact same

theorem watches_clone (there : (watches trace)[i]? = some w) (now : Nat) :
    watches (trace ++ [⟨.clone i, now⟩]) = watches trace ++ [w] := by
  have grown : watches (trace ++ [⟨.clone i, now⟩]) = watches trace ++ (watches trace)[i]?.toList := run_concat ..
  rw [grown, there, Option.toList_some]

end Watches

theorem forall₂_toldBy {trace : List Event} (ordered : Ordered trace) {now : Nat}
    (upTo : ∀ e ∈ trace, e.reading ≤ now) : List.Forall₂ (ToldBy now) (watches trace) (logs trace) := by
  induction trace using List.reverseRecOn generalizing now with
  | nil => exact .nil
  | append_singleton trace e ih =>
    obtain ⟨before, -, last⟩ := List.pairwise_append.1 ordered
    -- The logs tell of everything up to the reading of the last event, which is where a press of it goes on.
    have related : List.Forall₂ (ToldBy e.reading) (watches trace) (logs trace) :=
      ih before fun x hx => last x hx e (by simp)
    have handled : List.Forall₂ (ToldBy e.reading) (watches (trace ++ [e])) (logs (trace ++ [e])) := by
      rw [watches, logs, run_concat, run_concat]
      exact forall₂_handle related e (.create _) fun _ _ button told => told.press ⟨button, e.reading⟩ (Nat.le_refl _)
    exact handled.imp fun _ _ told => told.mono (upTo e (by simp))

/-! ## What a stopwatch shows -/

/-- What it is for the stopwatch of a number, after a trace and at a reading of the clock, to be the one that a log tells
of. -/
structure KeepsTime (trace : List Event) (now i : Nat) (w : Stopwatch) (log : Log) : Prop where
  running : w.running = true ↔ ∃ last earlier, log = last :: earlier ∧ last.button ≠ .stop
  passed : log.Shows now (w.passed now)
  start_running : w.running = true → ∀ later, watches (trace ++ [⟨.press i .start, later⟩]) = watches trace
  stop_stopped : w.running = false → ∀ later, watches (trace ++ [⟨.press i .stop, later⟩]) = watches trace
  start_stopped : w.running = false → ∃ w', (watches (trace ++ [⟨.press i .start, now⟩]))[i]? = some w' ∧
    w'.running = true ∧ ∀ later, now ≤ later → now + w'.passed later = later
  remaining : ∀ target, w.remaining now target + w.passed now = max target (w.passed now)
  reached : ∀ target, w.reached now target = true ↔ w.running = true ∧ w.remaining now target = 0
  waited : ∀ target, w.running = true → ∀ later, now + w.remaining now target ≤ later → w.reached later target = true
  stays : ∀ target, w.reached now target = true → ∀ more,
    (∀ p ∈ presses i more, p.button ≠ .reset ∧ p.button ≠ .stop) →
    ∃ w', (watches (trace ++ more))[i]? = some w' ∧ ∀ later, now ≤ later → w'.reached later target = true
  own : ∀ more, (watches (trace ++ more))[i]? = some ((presses i more).foldl press w)
  clone : ∀ more, (watches (trace ++ ⟨.clone i, now⟩ :: more))[(watches trace).length]? =
    some ((presses (watches trace).length more).foldl press w)

/-- However stopwatches are handled while the clock goes on, each keeps the time that its log tells. -/
theorem keepsTime_of_ordered {trace : List Event} (ordered : Ordered trace) {now : Nat}
    (upTo : ∀ e ∈ trace, e.reading ≤ now) {i : Nat} {w : Stopwatch} (there : (watches trace)[i]? = some w) :
    ∃ log, (logs trace)[i]? = some log ∧ KeepsTime trace now i w log := by
  obtain ⟨log, logged, told⟩ := exists_of_forall₂ (forall₂_toldBy ordered upTo) there
  refine ⟨log, logged, ?_⟩
  constructor
  case running => rw [told.running, Log.runs_iff]
  case passed => exact told.passed now (Nat.le_refl _)
  case start_running =>
    intro running later
    exact watches_press_of_same there ⟨.start, later⟩ (start_of_running running later)
  case stop_stopped =>
    intro stopped later
    exact watches_press_of_same there ⟨.stop, later⟩ (stop_of_stopped stopped later)
  case start_stopped =>
    intro stopped
    refine ⟨w.reset now, ?_, rfl, ?_⟩
    · rw [getElem?_watches_append there, ← start_of_stopped stopped]
      simp [presses, Event.press?, press]
    · intro later le
      rw [passed_reset]
      omega
  case remaining => exact remaining_add_passed w now
  case reached =>
    intro target
    rw [reached_iff, remaining_eq_zero_iff]
  case waited =>
    intro target running later
    exact told.reached_of_waited running
  case stays =>
    intro target reached more starts
    refine ⟨w, ?_, fun later le => reached_mono reached le⟩
    rw [getElem?_watches_append there, foldl_press_of_running (reached_iff.1 reached).1 starts]
  case own => exact getElem?_watches_append there
  case clone =>
    intro more
    have cloned : (watches (trace ++ [⟨.clone i, now⟩]))[(watches trace).length]? = some w := by
      rw [watches_clone there, List.getElem?_concat_length]
    rw [List.append_cons]
    exact getElem?_watches_append cloned more

/-- A stopwatch that is cloned while it runs. The clone is stopped twice, and the other one is started again. -/
def relay : List Event :=
  [⟨.create, 0⟩, ⟨.press 0 .start, 10⟩, ⟨.clone 0, 15⟩, ⟨.press 1 .start, 15⟩, ⟨.press 0 .stop, 20⟩, ⟨.ask 0, 20⟩,
    ⟨.press 1 .stop, 30⟩, ⟨.press 1 .stop, 35⟩, ⟨.press 0 .start, 40⟩]

theorem keepsTime_of_ordered_relay :
    Ordered relay ∧ (∀ e ∈ relay, e.reading ≤ 100) ∧ (watches relay)[1]? = some ⟨10, false, 20⟩ ∧
      KeepsTime relay 100 1 ⟨10, false, 20⟩ [⟨.stop, 30⟩, ⟨.start, 10⟩] := by
  have ordered : Ordered relay := by decide
  have upTo : ∀ e ∈ relay, e.reading ≤ 100 := by decide
  have there : (watches relay)[1]? = some ⟨10, false, 20⟩ := rfl
  obtain ⟨log, logged, keeps⟩ := keepsTime_of_ordered ordered upTo there
  obtain rfl : [⟨.stop, 30⟩, ⟨.start, 10⟩] = log := Option.some.inj logged
  exact ⟨ordered, upTo, there, keeps⟩

end Stopwatch

end VesselBus
