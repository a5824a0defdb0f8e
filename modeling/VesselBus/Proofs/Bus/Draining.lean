import VesselBus.Proofs.Bus.Routing

/-!
# What a run leaves behind

A stop is looked for between batches only, and when it is heeded the buffers trade places once more. So a run
that returns has dispatched whatever was sent before that last swap, and what was sent after it waits for the
next run. A batch that was begun is finished, also when the stop was asked for in the middle of it.
-/

namespace VesselBus

/-- The dispatcher is inside the batch that a run ends with. -/
def Stage.inLastBatch {ω : Type} : Stage ω → Bool
  | .draining last | .delivering last .. | .reacting last .. => last
  | _ => false

def Mark.isStop : Mark → Bool
  | .stopRequested => true
  | _ => false

namespace LiveBus

variable {ω : Type} {crew : Crew ω} {trace marks earlier later : List Mark} {s t u : LiveBus ω}

/-- What happened before anybody asked for a stop. -/
def beforeStop (trace : List Mark) : List Mark := trace.takeWhile (!·.isStop)

theorem beforeStop_isPrefix {before : List Mark} (asked : .stopRequested ∈ before) (after : List Mark) :
    beforeStop (before ++ after) <+: before := by
  induction before with
  | nil => simp at asked
  | cons m rest ih =>
    cases stop : m.isStop with
    | true => simp [beforeStop, stop]
    | false =>
      have earlier : .stopRequested ∈ rest := by
        rcases List.mem_cons.1 asked with rfl | earlier
        · simp [Mark.isStop] at stop
        · exact earlier
      simpa [beforeStop, stop] using ih earlier

/-! ## The last swap of a run -/

/-- The buffers traded places between the two, after a stop had been asked for and before the run that heeded
it was over, and have not done so since. -/
structure LastSwap (before after : List Mark) : Prop where
  asked : .stopRequested ∈ before
  noSwap : .swapped ∉ after
  noEntry : .entered ∉ after

structure Heeded (trace : List Mark) (s : LiveBus ω) : Prop where
  asked : s.bus.queue.stopRequested = true → .stopRequested ∈ trace
  closing : s.stage = .closing → .stopRequested ∈ trace
  last : s.stage.inLastBatch = true → ∃ before after, trace = before ++ .swapped :: after ∧ LastSwap before after

theorem not_mem_said {α : Type} {m : Mark} (h : m.event? = none) (x : Traced BusEvent α) : m ∉ said x := by
  intro hm
  obtain ⟨event, -, rfl⟩ := List.mem_map.1 hm
  simp at h

/-- Nobody takes back a request to stop. -/
theorem Step.asked (h : Step crew s marks t) (stopping : t.bus.queue.stopRequested = true) :
    s.bus.queue.stopRequested = true ∨ .stopRequested ∈ marks := by
  cases h with
  | stop | halt => exact .inr List.mem_cons_self
  | register ref kind => exact .inl (by rwa [queue_enrolled] at stopping)
  | enter host => exact .inl (by simpa using stopping)
  | swap | close =>
    refine .inl ?_
    simp only [Bus.swapped, Queue.swap] at stopping
    split at stopping <;> exact stopping
  | take host last e rest => exact .inl (by simpa [Bus.result_announce, Bus.popped] using stopping)
  | flush | finish => exact .inl (by simpa using stopping)
  | _ => exact .inl stopping

theorem Step.closing (h : Step crew s marks t) (closing : t.stage = .closing) :
    s.stage = .closing ∨ s.bus.queue.stopRequested = true := by
  cases h with
  | heed at_ stopping => exact .inr stopping
  | send | stop | disturb | register => exact .inl closing
  | _ => simp at closing

theorem Step.last (h : Step crew s marks t) (last : t.stage.inLastBatch = true) :
    (s.stage = .closing ∧ marks = [.swapped]) ∨
    (s.stage.inLastBatch = true ∧ .swapped ∉ marks ∧ .entered ∉ marks) := by
  cases h with
  | close at_ => exact .inl ⟨at_, rfl⟩
  | send | stop | disturb => exact .inr ⟨last, by simp, by simp⟩
  | register ref kind at_ => simp [enrolled, at_, Stage.inLastBatch] at last
  | take host last' e rest at_ | flush last' e at_ | finish host last' e r rest world outcome at_ =>
    exact .inr ⟨by rw [at_]; exact last, not_mem_said rfl _, not_mem_said rfl _⟩
  | call last' e r rest at_ | note last' e r rest line next at_ | reply host last' e r rest m next at_
  | halt last' e r rest next at_ | askPending last' e r rest next at_ | askStopped last' e r rest next at_ =>
    exact .inr ⟨by rw [at_]; exact last, by simp, by simp⟩
  | _ => simp [Stage.inLastBatch] at last

theorem Heeded.step (inv : Heeded trace s) (h : Step crew s marks t) : Heeded (trace ++ marks) t where
  asked stopping := by
    rcases h.asked stopping with before | now
    · exact List.mem_append_left _ (inv.asked before)
    · exact List.mem_append_right _ now
  closing closing := by
    rcases h.closing closing with before | stopping
    · exact List.mem_append_left _ (inv.closing before)
    · exact List.mem_append_left _ (inv.asked stopping)
  last last := by
    rcases h.last last with ⟨closing, rfl⟩ | ⟨before, noSwap, noEntry⟩
    · exact ⟨trace, [], rfl, inv.closing closing, List.not_mem_nil, List.not_mem_nil⟩
    · obtain ⟨before, after, rfl, swap⟩ := inv.last before
      refine ⟨before, after ++ marks, by simp, swap.asked, ?_, ?_⟩
      · exact fun hm => (List.mem_append.1 hm).elim swap.noSwap noSwap
      · exact fun hm => (List.mem_append.1 hm).elim swap.noEntry noEntry

theorem Reachable.heeded (h : Reachable crew trace s) : Heeded trace s := by
  induction h with
  | new => exact ⟨fun h => by simp at h, fun h => by simp at h, fun h => by simp [Stage.inLastBatch] at h⟩
  | step _ taken inv => exact inv.step taken

theorem isSwap_of_not_mem (h : .swapped ∉ marks) (m : Mark) (hm : m ∈ marks) : m.isSwap = false := by
  cases m with
  | swapped => exact absurd hm h
  | _ => rfl

theorem sinceSwap_of_last (before : List Mark) {after : List Mark} (noSwap : .swapped ∉ after) :
    sinceSwap (before ++ .swapped :: after) = after := by
  rw [List.append_cons, sinceSwap_append (isSwap_of_not_mem noSwap), sinceSwap_swapped, List.nil_append]

/-- What was sent before the last swap is dispatched, or stands in the back of the queue. -/
theorem InOrder.dispatched_append_back (inv : InOrder trace s) {before after : List Mark}
    (split : trace = before ++ .swapped :: after) (noSwap : .swapped ∉ after) :
    dispatched trace ++ s.bus.queue.back = sent before ∧ s.bus.queue.front = sent after := by
  have front : s.bus.queue.front = sent after := by rw [inv.front, split, sinceSwap_of_last before noSwap]
  refine ⟨(List.append_left_inj (sent after)).1 ?_, front⟩
  calc dispatched trace ++ s.bus.queue.back ++ sent after
    _ = dispatched trace ++ s.bus.queue.contents := by rw [← front, List.append_assoc]; rfl
    _ = sent trace := inv.order
    _ = sent before ++ sent after := by simp [split]

/-! ## A batch that was begun -/

/-- As long as the buffers do not trade places, what is dispatched comes off the back, and what is sent joins the
front. -/
theorem InOrder.sameBatch (inv : InOrder trace s) (after : InOrder (trace ++ marks) t) (noSwap : .swapped ∉ marks) :
    dispatched marks ++ t.bus.queue.back = s.bus.queue.back ∧
      t.bus.queue.front = s.bus.queue.front ++ sent marks := by
  have front : t.bus.queue.front = s.bus.queue.front ++ sent marks := by
    rw [after.front, sinceSwap_append (isSwap_of_not_mem noSwap), sent_append, inv.front]
  have order := after.order
  rw [dispatched_append, sent_append, ← inv.order, Queue.contents, Queue.contents, front] at order
  refine ⟨(List.append_left_inj (s.bus.queue.front ++ sent marks)).1 ?_, front⟩
  simpa using order

/-- What stands in the back of the queue is dispatched before anything else is. -/
theorem Step.back_isPrefix (h : Step crew s marks t) (inv : InOrder trace s) :
    s.bus.queue.back <+: dispatched marks ++ t.bus.queue.back := by
  -- Only a swap puts anything into the back, and the back is empty then.
  by_cases swapped : .swapped ∈ marks
  · rw [inv.back_nil (h.between swapped)]
    exact List.nil_prefix
  · rewrite [(inv.sameBatch (inv.step h) swapped).1]
    exact List.prefix_rfl

theorem Reachable.back_isPrefix (h : Reachable crew earlier u) (run : Steps (Step crew) u later s) :
    u.bus.queue.back <+: dispatched later ++ s.bus.queue.back := by
  induction run with
  | refl => exact List.prefix_rfl
  | @tail later marks s t run step ih =>
    have next := step.back_isPrefix (h.append run).inOrder
    rw [dispatched_append, List.append_assoc]
    exact ih.trans ((List.prefix_append_right_inj _).2 next)

/-- Once the registration is closed, a run owes what it owed, and begins what it dispatches. -/
theorem journal_of_started (run : Steps (Step crew) u later s) (started : u.bus.started = true) :
    journal later ++ s.stage.owed = u.stage.owed ++ (dispatched later).flatMap u.bus.registry.deliveries ∧
      s.bus.started = true ∧ s.bus.registry = u.bus.registry := by
  induction run with
  | refl => exact ⟨(List.append_nil _).symm, started, rfl⟩
  | tail run step ih =>
    obtain ⟨journal, started', same⟩ := ih
    refine ⟨?_, step.started_mono started', (step.registry_of_started started').trans same⟩
    rw [journal_append, List.append_assoc, step.journal, ← List.append_assoc, journal, same, dispatched_append,
      List.flatMap_append, List.append_assoc]

theorem Reachable.started_of_inBatch (h : Reachable crew trace s) (inBatch : s.stage.inBatch = true) :
    s.bus.started = true := by
  by_contra closed
  have idle := h.registered.idle (Bool.eq_false_iff.2 closed)
  simp [idle, Stage.inBatch] at inBatch

/-! ## The result -/

theorem Step.leaving (h : Step crew s marks t) (inside : s.stage ≠ .idle) (returned : t.stage = .idle) :
    s.stage = .draining true ∧ s.bus.queue.back = [] ∧ t.bus = s.bus ∧ marks = [.reported .stopped] := by
  cases h with
  | leave at_ empty => exact ⟨at_, empty, rfl, rfl⟩
  | send | stop | disturb => exact absurd returned inside
  | register ref kind idle => exact absurd idle inside
  | _ => simp at returned

/-- What a run leaves behind when it returns. -/
structure Drained (crew : Crew ω) (trace : List Mark) (s : LiveBus ω) : Prop where
  /-- What was sent before the last swap is dispatched, once and in order; what was sent after it waits. -/
  split : ∃ before after, trace = before ++ .swapped :: after ∧ LastSwap before after ∧
    dispatched trace = sent before ∧ s.bus.queue.contents = sent after
  early : sent (beforeStop trace) <+: dispatched trace
  delivered : journal trace = (dispatched trace).flatMap s.bus.registry.deliveries
  /-- Whatever batch was in hand at some moment, be it that in which a node asked for the stop, has been
  dispatched and delivered to its end. -/
  finished : ∀ earlier u later, Reachable crew earlier u → u.stage.inBatch = true → Steps (Step crew) u later s →
    u.bus.queue.back <+: dispatched later ∧
      u.stage.owed ++ u.bus.queue.back.flatMap s.bus.registry.deliveries <+: journal later

theorem finished_of_idle (h : Reachable crew earlier u) (inBatch : u.stage.inBatch = true)
    (run : Steps (Step crew) u later s) (idle : s.stage = .idle) :
    u.bus.queue.back <+: dispatched later ∧
      u.stage.owed ++ u.bus.queue.back.flatMap s.bus.registry.deliveries <+: journal later := by
  have batch := h.back_isPrefix run
  rw [(h.append run).inOrder.back_nil (by rw [idle]; rfl), List.append_nil] at batch
  obtain ⟨begun, -, registry⟩ := journal_of_started run (h.started_of_inBatch inBatch)
  obtain ⟨others, all⟩ := id batch
  refine ⟨batch, others.flatMap s.bus.registry.deliveries, ?_⟩
  calc u.stage.owed ++ u.bus.queue.back.flatMap s.bus.registry.deliveries ++ others.flatMap s.bus.registry.deliveries
    _ = u.stage.owed ++ (dispatched later).flatMap u.bus.registry.deliveries := by
      rw [← all, registry, List.flatMap_append, List.append_assoc]
    _ = journal later := by rw [← begun, idle]; exact List.append_nil _

/-- When a run returns, the buffers have traded places since a stop was asked for. What was sent before they last
did is dispatched and delivered; only what was sent after it is left. -/
theorem drained_of_returned (h : Reachable crew trace s) (step : Step crew s marks t) (inside : s.stage ≠ .idle)
    (returned : t.stage = .idle) : Drained crew (trace ++ marks) t := by
  have after := h.step step
  obtain ⟨draining, empty, same, rfl⟩ := step.leaving inside returned
  obtain ⟨before, late, rfl, swap⟩ := h.heeded.last (by rw [draining]; rfl)
  have noSwap : .swapped ∉ late ++ [.reported .stopped] := by simp [swap.noSwap]
  have noEntry : .entered ∉ late ++ [.reported .stopped] := by simp [swap.noEntry]
  have append : before ++ .swapped :: late ++ [.reported .stopped] =
      before ++ .swapped :: (late ++ [.reported .stopped]) := by simp
  obtain ⟨done, front⟩ := after.inOrder.dispatched_append_back append noSwap
  rw [same, empty, List.append_nil] at done
  refine ⟨⟨before, _, append, ⟨swap.asked, noSwap, noEntry⟩, done, ?_⟩, ?_, ?_, ?_⟩
  · rw [Queue.contents, front, same, empty, List.nil_append]
  · rw [done, append]
    exact (beforeStop_isPrefix swap.asked _).filterMap _
  · rw [← after.routed.journal, returned]
    exact (List.append_nil _).symm
  · exact fun earlier u later reached inBatch run => finished_of_idle reached inBatch run returned

/-- Objects that ask for a stop when they are given something, and send an answer all the same. -/
def stopping : Crew Unit where
  id _ world := (.windState, world)
  name _ world := ("WindState", world)
  isActive _ := false
  react _ _ world := .stop (.send (.anonymous .windState) (.finish world .returned))

/-- The first of two messages makes a node ask for the stop. The second is delivered all the same, then the
answers to both and a message that was sent before the last swap; one that was sent after it is left. -/
theorem drained_of_returned_stopping : ∃ trace s marks t, Reachable stopping trace s ∧ Step stopping s marks t ∧
    s.stage ≠ .idle ∧ t.stage = .idle ∧ Drained stopping (trace ++ marks) t ∧
    sent (beforeStop (trace ++ marks)) = [⟨.anonymous .windData, midnight.now⟩, ⟨.anonymous .windData, midnight.now⟩] ∧
    dispatched (trace ++ marks) = [⟨.anonymous .windData, midnight.now⟩, ⟨.anonymous .windData, midnight.now⟩,
      ⟨.anonymous .windState, midnight.now⟩, ⟨.anonymous .windState, midnight.now⟩,
      ⟨.anonymous .gpsData, midnight.now⟩] ∧
    t.bus.queue.contents = [⟨.anonymous .compassData, midnight.now⟩] := by
  have registered := (Reachable.new {} .absent () : Reachable stopping [] _).step
    (.register _ 0 (some .windData) rfl)
  have sent := (registered.step (.send _ midnight (.anonymous .windData))).step
    (.send _ midnight (.anonymous .windData))
  have swapped := ((sent.step (.enter _ midnight rfl)).step (.proceed _ rfl rfl)).step (.swap _ false rfl rfl)
  have first := (((((swapped.step (.take _ midnight false _ _ rfl rfl)).step (.call _ false _ _ _ rfl)).step
    (.halt _ false _ _ _ _ rfl)).step (.reply _ midnight false _ _ _ _ _ rfl)).step
    (.finish _ midnight false _ _ _ _ _ rfl)).step (.flush _ false _ rfl)
  have second := (((((first.step (.take _ midnight false _ _ rfl rfl)).step (.call _ false _ _ _ rfl)).step
    (.halt _ false _ _ _ _ rfl)).step (.reply _ midnight false _ _ _ _ _ rfl)).step
    (.finish _ midnight false _ _ _ _ _ rfl)).step (.flush _ false _ rfl)
  have closing := (((second.step (.again _ rfl rfl)).step (.heed _ rfl rfl)).step
    (.send _ midnight (.anonymous .gpsData))).step (.close _ rfl)
  have late := closing.step (.send _ midnight (.anonymous .compassData))
  have answers := (((late.step (.take _ midnight true _ _ rfl rfl)).step (.flush _ true _ rfl)).step
    (.take _ midnight true _ _ rfl rfl)).step (.flush _ true _ rfl)
  have drained := (answers.step (.take _ midnight true _ _ rfl rfl)).step (.flush _ true _ rfl)
  exact ⟨_, _, _, _, drained, .leave _ rfl rfl, by simp, rfl,
    drained_of_returned drained (.leave _ rfl rfl) (by simp) rfl, rfl, rfl, rfl⟩

end LiveBus

end VesselBus
