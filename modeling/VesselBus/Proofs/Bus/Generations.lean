import VesselBus.Proofs.Bus.Returning

/-!
# One generation a run

A run that is asked to stop finishes the turn it is in, lets the buffers trade places once more, and delivers that
batch. What the nodes send meanwhile waits. Since the request stands, the next run goes through one batch only: that
which the run before left. So a bus whose nodes answer for ever gives out one generation of answers a run.
-/

namespace VesselBus

variable {ω : Type}

/-- The buffers trade places no more before the next run. -/
def Stage.isSettled : Stage ω → Bool
  | .idle => true
  | .draining last | .delivering last .. | .reacting last .. => last
  | _ => false

theorem Stage.isSettled_of_inLastBatch {stage : Stage ω} (h : stage.inLastBatch = true) :
    stage.isSettled = true := by
  cases stage with
  | idle => rfl
  | draining | delivering | reacting => exact h
  | _ => simp [Stage.inLastBatch] at h

/-- Nothing is in hand, and nothing is waited for. -/
def Stage.isResting : Stage ω → Bool
  | .idle | .checking | .closing => true
  | _ => false

/-- The swaps that a run makes before it looks for a stop again. -/
def Stage.swapsOwed : Stage ω → Nat
  | .waiting _ => 1
  | _ => 0

/-- The runs that are under way. -/
def Stage.running : Stage ω → Nat
  | .idle => 0
  | _ => 1

namespace LiveBus

variable {crew : Crew ω} {trace marks earlier : List Mark} {s t u : LiveBus ω}

def swaps (trace : List Mark) : Nat := trace.countP Mark.isSwap

def entries (trace : List Mark) : Nat := trace.countP Mark.isEntry

/-- A step while nobody sends but the nodes that are given something. -/
def Unaided (crew : Crew ω) (s : LiveBus ω) (marks : List Mark) (t : LiveBus ω) : Prop :=
  Step crew s marks t ∧ (t.stage = s.stage → sent marks = [])

/-- What is dispatched before a stop is looked for again, unless others send. -/
def unfinished (s : LiveBus ω) : List Envelope :=
  match s.stage with
  | .waiting _ => s.bus.queue.contents
  | _ => s.bus.queue.back

@[simp] theorem swaps_append (xs ys : List Mark) : swaps (xs ++ ys) = swaps xs + swaps ys := List.countP_append

@[simp] theorem entries_append (xs ys : List Mark) : entries (xs ++ ys) = entries xs + entries ys := List.countP_append

theorem swaps_of_not_mem (h : .swapped ∉ marks) : swaps marks = 0 := by
  rw [swaps, List.countP_eq_zero]
  intro m hm
  rw [isSwap_of_not_mem h m hm]
  exact Bool.false_ne_true

theorem entries_eq_zero : entries marks = 0 ↔ .entered ∉ marks := by
  rw [entries, List.countP_eq_zero]
  constructor
  · exact fun none entered => none _ entered rfl
  · exact fun notEntered m hm entry => notEntered (Mark.isEntry_iff.1 entry ▸ hm)

theorem entries_entered (marks : List Mark) : entries (.entered :: marks) = entries marks + 1 :=
  List.countP_cons_of_pos rfl

theorem entries_said {α : Type} (x : Traced BusEvent α) : entries (said x) = 0 :=
  entries_eq_zero.2 (not_mem_said rfl x)

/-! ## The last batch -/

theorem Step.staysSettled (h : Step crew s marks t) (settled : s.stage.isSettled = true) (noEntry : .entered ∉ marks) :
    t.stage.isSettled = true ∧ .swapped ∉ marks := by
  cases h with
  | send | stop | disturb => exact ⟨settled, by simp⟩
  | register => exact ⟨settled, by simpa using not_mem_said rfl _⟩
  | enter => exact absurd List.mem_cons_self noEntry
  | leave => exact ⟨rfl, by simp⟩
  | take _ _ _ _ at_ | flush _ _ at_ | finish _ _ _ _ _ _ _ at_ =>
    rw [at_] at settled
    exact ⟨settled, not_mem_said rfl _⟩
  | call _ _ _ _ at_ | note _ _ _ _ _ _ at_ | reply _ _ _ _ _ _ _ at_ | halt _ _ _ _ _ at_
  | askPending _ _ _ _ _ at_ | askStopped _ _ _ _ _ at_ =>
    rw [at_] at settled
    exact ⟨settled, by simp⟩
  | _ => simp_all [Stage.isSettled]

theorem noSwap_of_settled (run : Steps (Step crew) s trace t) (settled : s.stage.isSettled = true)
    (noEntry : .entered ∉ trace) : .swapped ∉ trace := by
  suffices h : t.stage.isSettled = true ∧ .swapped ∉ trace from h.2
  induction run with
  | refl => exact ⟨settled, List.not_mem_nil⟩
  | tail run step ih =>
    obtain ⟨settled, earlier⟩ := ih fun hm => noEntry (List.mem_append_left _ hm)
    obtain ⟨settled, now⟩ := step.staysSettled settled fun hm => noEntry (List.mem_append_right _ hm)
    exact ⟨settled, fun hm => (List.mem_append.1 hm).elim earlier now⟩

/-- The last batch of a run is the back of the queue. What is sent meanwhile joins the front. -/
theorem lastBatch (h : Reachable crew earlier s) (settled : s.stage.isSettled = true)
    (run : Steps (Step crew) s trace t) (noEntry : .entered ∉ trace) (idle : t.stage = .idle) :
    dispatched trace = s.bus.queue.back ∧ t.bus.queue.back = [] ∧
      t.bus.queue.front = s.bus.queue.front ++ sent trace ∧ .swapped ∉ trace := by
  have noSwap := noSwap_of_settled run settled noEntry
  have after := (h.append run).inOrder
  have empty := after.back_nil (by rw [idle]; rfl)
  obtain ⟨batch, front⟩ := h.inOrder.sameBatch after noSwap
  rw [empty, List.append_nil] at batch
  exact ⟨batch, empty, front, noSwap⟩

/-- The one step by which a run comes to its last batch. -/
theorem Step.settles (h : Step crew s marks t) (before : s.stage.isSettled = false) (after : t.stage.isSettled = true) :
    s.stage = .closing ∧ marks = [.swapped] ∧ t = { s with bus := s.bus.swapped, stage := .draining true } := by
  cases h with
  | close at_ => exact ⟨at_, rfl, rfl⟩
  | send | stop | disturb | register => simp [enrolled, before] at after
  | _ => simp_all [Stage.isSettled]

/-! ## The turn that a stop finds under way -/

/-- Before the last batch, what is dispatched was to be dispatched before a stop is looked for again. -/
structure ThisTurn (s : LiveBus ω) (trace : List Mark) (t : LiveBus ω) : Prop where
  turn : dispatched trace ++ t.unfinished = s.unfinished
  swaps : swaps trace + t.stage.swapsOwed = s.stage.swapsOwed

theorem unfinished_of_swapsOwed (h : s.stage.swapsOwed = 0) : s.unfinished = s.bus.queue.back := by
  unfold unfinished
  split
  · simp_all [Stage.swapsOwed]
  · rfl

theorem unfinished_congr (stage : t.stage = s.stage) (back : t.bus.queue.back = s.bus.queue.back)
    (front : t.bus.queue.front = s.bus.queue.front) : t.unfinished = s.unfinished := by
  unfold unfinished Queue.contents
  rw [stage, back, front]

theorem ThisTurn.of_batch (turning : s.stage.swapsOwed = 0) (stays : t.stage.swapsOwed = 0)
    (batch : dispatched marks ++ t.bus.queue.back = s.bus.queue.back) (noSwap : .swapped ∉ marks) :
    ThisTurn s marks t where
  turn := by rw [unfinished_of_swapsOwed turning, unfinished_of_swapsOwed stays, batch]
  swaps := by rw [swaps_of_not_mem noSwap, turning, stays]

theorem Unaided.thisTurn (h : Unaided crew s marks t) (inv : InOrder trace s)
    (stopping : s.bus.queue.stopRequested = true) (before : s.stage.isSettled = false)
    (after : t.stage.isSettled = false) : ThisTurn s marks t := by
  obtain ⟨step, alone⟩ := h
  have batch := inv.sameBatch (inv.step step)
  cases step with
  | send => simp at alone
  | stop => exact ⟨unfinished_congr rfl rfl rfl, Nat.zero_add _⟩
  | disturb => exact ⟨unfinished_congr rfl rfl rfl, Nat.zero_add _⟩
  | register _ _ at_ => simp [at_, Stage.isSettled] at before
  | enter _ at_ => simp [at_, Stage.isSettled] at before
  | proceed _ going => simp [going] at stopping
  | heed at_ => exact .of_batch (by rw [at_]; rfl) rfl rfl (by simp)
  | elapse at_ =>
    refine ⟨?_, ?_⟩
    · simp [unfinished, at_, dispatched]
    · rw [at_]
      rfl
  | swap elapsed at_ ready =>
    have empty := inv.back_nil (by rw [at_]; rfl)
    refine ⟨?_, ?_⟩
    · simp [unfinished, at_, dispatched, Bus.swapped, Queue.swap_of_back_nil empty, Queue.contents, empty]
    · rw [at_]
      rfl
  | close => simp [Stage.isSettled] at after
  | take host last e rest at_ | flush last e at_ | finish host last e r rest world outcome at_ =>
    exact .of_batch (by rw [at_]; rfl) rfl (batch (not_mem_said rfl _)).1 (not_mem_said rfl _)
  | again at_ => exact .of_batch (by rw [at_]; rfl) rfl (batch (by simp)).1 (by simp)
  | leave => simp [Stage.isSettled] at after
  | call _ _ _ _ at_ | note _ _ _ _ _ _ at_ | reply _ _ _ _ _ _ _ at_ | halt _ _ _ _ _ at_
  | askPending _ _ _ _ _ at_ | askStopped _ _ _ _ _ at_ =>
    exact .of_batch (by rw [at_]; rfl) rfl (batch (by simp)).1 (by simp)

/-- A run among states before the last batch. -/
theorem thisTurn_of_run (h : Reachable crew earlier s) (stopping : s.bus.queue.stopRequested = true)
    (run : Steps (Within (·.stage.isSettled = false) (Unaided crew)) s trace t) : ThisTurn s trace t := by
  induction run with
  | refl => exact ⟨rfl, Nat.zero_add _⟩
  | @tail trace marks u v run step ih =>
    obtain ⟨before, step, after⟩ := step
    have steps : Steps (Step crew) s trace u := run.mono fun _ _ _ step => step.2.1.1
    have next := step.thisTurn (h.append steps).inOrder (stopRequested_of_run steps stopping) before after
    refine ⟨?_, ?_⟩
    · rw [dispatched_append, List.append_assoc, next.turn, ih.turn]
    · rw [swaps_append, Nat.add_assoc, next.swaps, ih.swaps]

/-- What becomes of a run that has its last batch before it when it is asked to stop. -/
structure LastTurn (crew : Crew ω) (s : LiveBus ω) (trace : List Mark) (t : LiveBus ω) : Prop where
  split : ∃ before u after, trace = before ++ .swapped :: after ∧ Steps (Unaided crew) s before u ∧
    u.stage = .closing ∧ .swapped ∉ after ∧ dispatched before = s.unfinished ∧ swaps before = s.stage.swapsOwed ∧
    dispatched after = u.bus.queue.front ∧ t.bus.queue.front = sent after
  emptied : t.bus.queue.back = []

theorem steps_of_unaided (run : Steps (Unaided crew) s trace t) : Steps (Step crew) s trace t :=
  run.mono fun _ _ _ step => step.1

theorem lastTurn (h : Reachable crew earlier s) (stopping : s.bus.queue.stopRequested = true)
    (before : s.stage.isSettled = false) (run : Steps (Unaided crew) s trace t) (noEntry : .entered ∉ trace)
    (idle : t.stage = .idle) : LastTurn crew s trace t := by
  rcases run.exit (·.stage.isSettled = false) before with
    ⟨-, notYet⟩ | ⟨first, u, marks, v, rest, rfl, inside, unsettled, step, settled, after⟩
  · simp [idle, Stage.isSettled] at notYet
  · obtain ⟨closing, rfl, rfl⟩ := step.1.settles unsettled (by simpa using settled)
    have steps : Steps (Unaided crew) s first u := inside.mono fun _ _ _ step => step.2.1
    have reached := h.append (steps_of_unaided steps)
    have empty := reached.inOrder.back_nil (by rw [closing]; rfl)
    obtain ⟨turn, swaps⟩ := thisTurn_of_run h stopping inside
    obtain ⟨batch, emptied, front, noSwap⟩ := lastBatch (reached.step step.1) rfl (steps_of_unaided after)
      (fun hm => noEntry (List.mem_append_right _ hm)) idle
    rw [unfinished_of_swapsOwed (by rw [closing]; rfl), empty, List.append_nil] at turn
    rw [closing] at swaps
    simp only [Bus.swapped, Queue.swap_of_back_nil empty] at batch front
    exact ⟨⟨first, u, rest, by simp, steps, closing, noSwap, turn, swaps, batch, front⟩, emptied⟩

/-! ## The runs that follow -/

/-- Between two batches nothing is dispatched and no node is given anything. -/
structure Rest (s : LiveBus ω) (trace : List Mark) (t : LiveBus ω) : Prop where
  noneTaken : dispatched trace = []
  noneSent : sent trace = []
  front : t.bus.queue.front = s.bus.queue.front
  entries : entries trace + s.stage.running = t.stage.running

theorem Unaided.rest (h : Unaided crew s marks t) (stopping : s.bus.queue.stopRequested = true)
    (before : s.stage.isResting = true) (after : t.stage.isResting = true) : Rest s marks t := by
  obtain ⟨step, alone⟩ := h
  cases step with
  | send => simp at alone
  | stop => exact ⟨rfl, rfl, rfl, Nat.zero_add _⟩
  | disturb => exact ⟨rfl, rfl, rfl, Nat.zero_add _⟩
  | register ref kind =>
    refine ⟨dispatched_said (Bus.isQuiet_register crew ref kind s.bus s.world), alone rfl, ?_, ?_⟩
    · rw [queue_enrolled]
    · rw [entries_eq_zero.2 (by simpa using not_mem_said rfl _)]
      exact Nat.zero_add _
  | enter host at_ =>
    refine ⟨dispatched_said (Bus.isQuiet_prepare host s.bus), sent_said _, ?_, ?_⟩
    · rw [Bus.queue_prepare]
    · rw [at_, entries_entered, entries_said]
      rfl
  | heed at_ => exact ⟨rfl, rfl, rfl, by rw [at_]; rfl⟩
  | _ => simp_all [Stage.isResting]

theorem rest_of_run (stopping : s.bus.queue.stopRequested = true)
    (run : Steps (Within (·.stage.isResting = true) (Unaided crew)) s trace t) : Rest s trace t := by
  induction run with
  | refl => exact ⟨rfl, rfl, rfl, Nat.zero_add _⟩
  | @tail trace marks u v run step ih =>
    obtain ⟨before, step, after⟩ := step
    have steps : Steps (Step crew) s trace u := run.mono fun _ _ _ step => step.2.1.1
    obtain ⟨noneTaken, noneSent, front, count⟩ := step.rest (stopRequested_of_run steps stopping) before after
    refine ⟨?_, ?_, front.trans ih.front, ?_⟩
    · rw [dispatched_append, ih.noneTaken, noneTaken]
      rfl
    · rw [sent_append, ih.noneSent, noneSent]
      rfl
    · rw [entries_append, Nat.add_right_comm, ih.entries, Nat.add_comm, count]

/-- One run from beginning to end, with what others do just before and after it. -/
structure Run (crew : Crew ω) (s : LiveBus ω) (trace : List Mark) (t : LiveBus ω) : Prop where
  steps : Steps (Unaided crew) s trace t
  start : s.stage = .idle
  returned : t.stage = .idle
  once : entries trace = 1

theorem Step.rests (h : Step crew s marks t) (stopping : s.bus.queue.stopRequested = true)
    (before : s.stage.isResting = true) (after : t.stage.isResting = false) :
    s.stage = .closing ∧ marks = [.swapped] ∧ t = { s with bus := s.bus.swapped, stage := .draining true } := by
  cases h with
  | close at_ => exact ⟨at_, rfl, rfl⟩
  | send | stop | disturb | register => simp [enrolled, before] at after
  | proceed _ going => simp [going] at stopping
  | _ => simp_all [Stage.isResting]

theorem generation_of_run (h : Reachable crew earlier s) (stopping : s.bus.queue.stopRequested = true)
    (run : Run crew s trace t) : dispatched trace = s.bus.queue.front ∧ t.bus.queue.back = [] ∧
      t.bus.queue.front = sent trace := by
  obtain ⟨steps, start, returned, once⟩ := run
  rcases steps.exit (·.stage.isResting = true) (by rw [start]; rfl) with
    ⟨inside, -⟩ | ⟨first, u, marks, v, rest, rfl, inside, resting, step, moved, after⟩
  · have count := (rest_of_run stopping inside).entries
    rw [once, start, returned] at count
    simp [Stage.running] at count
  · have steps : Steps (Step crew) s first u := inside.mono fun _ _ _ step => step.2.1.1
    have reached := h.append steps
    obtain ⟨closing, rfl, rfl⟩ := step.1.rests (stopRequested_of_run steps stopping) resting (by simpa using moved)
    have empty := reached.inOrder.back_nil (by rw [closing]; rfl)
    obtain ⟨noneTaken, noneSent, front, count⟩ := rest_of_run stopping inside
    have entered : entries first = 1 := by simpa [start, closing, Stage.running] using count
    have noEntry : entries rest = 0 := by
      rw [entries_append, entries_append, entered] at once
      omega
    obtain ⟨batch, emptied, later, -⟩ := lastBatch (reached.step step.1) rfl (steps_of_unaided after)
      (entries_eq_zero.1 noEntry) returned
    simp only [Bus.swapped, Queue.swap_of_back_nil empty] at batch later
    refine ⟨?_, emptied, ?_⟩
    · rw [dispatched_append, dispatched_append, noneTaken, batch, front]
      rfl
    · rw [later, sent_append, sent_append, noneSent]
      rfl

/-- One run after the other. -/
inductive Runs (crew : Crew ω) : LiveBus ω → List (List Mark) → LiveBus ω → Prop where
  | none (s : LiveBus ω) : Runs crew s [] s
  | run {s t u : LiveBus ω} {trace : List Mark} {others : List (List Mark)} (first : Run crew s trace t)
    (rest : Runs crew t others u) : Runs crew s (trace :: others) u

/-- Every run dispatches what was sent in the one before. -/
theorem generations_of_runs (h : Reachable crew earlier s) (stopping : s.bus.queue.stopRequested = true)
    {runs : List (List Mark)} (all : Runs crew s runs t) :
    runs.map dispatched ++ [t.bus.queue.front] = s.bus.queue.front :: runs.map sent := by
  induction all generalizing earlier with
  | none => rfl
  | run first rest ih =>
    have steps := steps_of_unaided first.steps
    obtain ⟨batch, -, front⟩ := generation_of_run h stopping first
    rw [List.map_cons, List.map_cons, List.cons_append, ih (h.append steps) (stopRequested_of_run steps stopping),
      batch, front]

/-! ## The result -/

/-- What a request to stop comes to, however the nodes answer. -/
structure WindsDown (crew : Crew ω) (trace : List Mark) (s : LiveBus ω) : Prop where
  stands : ∀ later t, Steps (Step crew) s later t → t.bus.queue.stopRequested = true
  returns : ∀ later t, Steps (Step crew) s later t → Returns crew t
  /-- The run under way when nobody but the nodes sends any more. -/
  current : s.stage.isSettled = false → ∀ later t, Steps (Unaided crew) s later t → .entered ∉ later →
    t.stage = .idle → LastTurn crew s later t
  /-- A run whose last swap is over. -/
  last : s.stage.inLastBatch = true → ∀ later t, Steps (Unaided crew) s later t → .entered ∉ later →
    t.stage = .idle → dispatched later = s.bus.queue.back ∧ t.bus.queue.back = [] ∧
      t.bus.queue.front = s.bus.queue.front ++ sent later
  /-- Any later run gives out what was pending when it began, and leaves what was sent in it. -/
  next : ∀ later t, Steps (Step crew) s later t → ∀ more u, Run crew t more u →
    dispatched more = t.bus.queue.front ∧ u.bus.queue.back = [] ∧ u.bus.queue.front = sent more
  generations : ∀ later t, Steps (Step crew) s later t → ∀ runs u, Runs crew t runs u →
    runs.map dispatched ++ [u.bus.queue.front] = t.bus.queue.front :: runs.map sent
  /-- Before the first run, what is pending is what was sent. -/
  first : s.bus.started = false → s.bus.queue.front = sent trace

theorem Reachable.front_of_open (h : Reachable crew trace s) (open_ : s.bus.started = false) :
    s.bus.queue.front = sent trace := by
  have order := h.inOrder.order
  rwa [h.routed.unopened open_, List.nil_append, Queue.contents,
    h.inOrder.back_nil (by rw [h.registered.idle open_]; rfl), List.nil_append] at order

theorem windsDown_of_stopping (h : Reachable crew trace s) (stopping : s.bus.queue.stopRequested = true) :
    WindsDown crew trace s where
  stands _ _ run := stopRequested_of_run run stopping
  returns _ t run := returns_of_stopping crew t (stopRequested_of_run run stopping)
  current before _ _ run noEntry idle := lastTurn h stopping before run noEntry idle
  last inLast _ _ run noEntry idle := by
    obtain ⟨batch, empty, front, -⟩ :=
      lastBatch h (Stage.isSettled_of_inLastBatch inLast) (steps_of_unaided run) noEntry idle
    exact ⟨batch, empty, front⟩
  next _ _ run _ _ := generation_of_run (h.append run) (stopRequested_of_run run stopping)
  generations _ _ run _ _ := generations_of_runs (h.append run) (stopRequested_of_run run stopping)
  first := h.front_of_open

/-- A stopped bus with one message, for a node that answers it with another one like it. -/
def answering (started : Bool) : LiveBus Unit where
  bus := {
    queue := { front := [⟨.anonymous .windState, midnight.now⟩], stopRequested := true }
    registry := ⟨[⟨0, .windState, "WindState", [.windState]⟩]⟩
    started }
  world := ()

theorem run_answering (started : Bool) : ∃ trace, Run echo (answering started) trace (answering true) ∧
    dispatched trace = [⟨.anonymous .windState, midnight.now⟩] := by
  have prepared : ((answering started).bus.prepare midnight).result = (answering true).bus := by
    cases started <;> rfl
  have entered : Unaided echo (answering started) (.entered :: said ((answering started).bus.prepare midnight))
      { answering true with stage := .checking } := by
    have step : Step echo (answering started) _ _ := .enter _ midnight rfl
    rw [prepared] at step
    exact ⟨step, fun _ => sent_said _⟩
  have closed := ((Steps.single entered).tail ⟨.heed _ rfl rfl, fun _ => rfl⟩).tail ⟨.close _ rfl, fun _ => rfl⟩
  have answered := ((closed.tail ⟨.take _ midnight true _ _ rfl rfl, fun _ => rfl⟩).tail
    ⟨.call _ true _ _ _ rfl, fun _ => rfl⟩).tail ⟨.reply _ midnight true _ _ _ _ _ rfl, nofun⟩
  have left := ((answered.tail ⟨.finish _ midnight true _ _ _ _ _ rfl, fun _ => rfl⟩).tail
    ⟨.flush _ true _ rfl, fun _ => rfl⟩).tail ⟨.leave _ rfl rfl, fun _ => rfl⟩
  refine ⟨_, ⟨left, rfl, rfl, ?_⟩, ?_⟩
  · cases started <;> rfl
  · cases started <;> rfl

/-- One message was sent before the stop. Each run dispatches one, and leaves its answer to the next. -/
theorem windsDown_of_stopping_echo : ∃ trace s runs t, Reachable echo trace s ∧
    s.bus.queue.stopRequested = true ∧ WindsDown echo trace s ∧ Runs echo s runs t ∧
    runs.map dispatched = [[⟨.anonymous .windState, midnight.now⟩], [⟨.anonymous .windState, midnight.now⟩]] ∧
    t.bus.queue.contents = [⟨.anonymous .windState, midnight.now⟩] := by
  have reached : Reachable echo _ (answering false) := (((Reachable.new {} .absent () : Reachable echo [] _).step
    (.register _ 0 (some .windState) rfl)).step (.send _ midnight (.anonymous .windState))).step (.stop _)
  obtain ⟨first, run, batch⟩ := run_answering false
  obtain ⟨second, run', batch'⟩ := run_answering true
  exact ⟨_, _, [first, second], _, reached, rfl, windsDown_of_stopping reached rfl, .run run (.run run' (.none _)),
    by rw [List.map_cons, List.map_cons, batch, batch', List.map_nil], rfl⟩

end LiveBus

end VesselBus
