import VesselBus.Proofs.Bus.Marks

/-!
# No message is lost, repeated or overtaken

Two buffers trade places under the senders' hands, but together they are one queue: what was dispatched, then
the back, then the front is what was sent. It holds because the buffers only trade places when the back is
empty, so that the older messages always stand there.
-/

namespace VesselBus

/-- The dispatcher is inside a batch, so the back of the queue may hold some of it. -/
def Stage.inBatch {ω : Type} : Stage ω → Bool
  | .draining _ | .delivering .. | .reacting .. => true
  | _ => false

namespace LiveBus

variable {ω : Type} {crew : Crew ω} {trace marks : List Mark} {s t : LiveBus ω}

structure InOrder (trace : List Mark) (s : LiveBus ω) : Prop where
  order : dispatched trace ++ s.bus.queue.contents = sent trace
  back_nil : s.stage.inBatch = false → s.bus.queue.back = []
  front : s.bus.queue.front = sent (sinceSwap trace)

/-! ## What a step does to the queue -/

theorem InOrder.keep (inv : InOrder trace s) (queue : t.bus.queue = s.bus.queue)
    (back : t.stage.inBatch = false → s.bus.queue.back = []) (noneSent : sent marks = [])
    (noneTaken : dispatched marks = []) (noSwap : ∀ m ∈ marks, m.isSwap = false) :
    InOrder (trace ++ marks) t where
  order := by rw [dispatched_append, sent_append, noneTaken, noneSent, queue]; simpa using inv.order
  back_nil h := by rw [queue]; exact back h
  front := by rw [sinceSwap_append noSwap, sent_append, noneSent, queue, inv.front, List.append_nil]

theorem InOrder.push (inv : InOrder trace s) (host : Host) (m : Message) (stage : Stage ω)
    (back : stage.inBatch = s.stage.inBatch) :
    InOrder (trace ++ [.sent ⟨m, host.now⟩]) { s with bus := s.bus.send host m, stage } where
  order := by
    have taken : dispatched [.sent ⟨m, host.now⟩] = [] := rfl
    rw [dispatched_append, sent_append, taken, ← inv.order]
    simp [Bus.send, Queue.contents_push]
  back_nil h := inv.back_nil (by rw [← back]; exact h)
  front := by
    rw [sinceSwap_append (by simp [Mark.isSwap]), sent_append, ← inv.front]
    rfl

theorem InOrder.stop (inv : InOrder trace s) (stage : Stage ω) (back : stage.inBatch = s.stage.inBatch) :
    InOrder (trace ++ [.stopRequested]) { s with bus := s.bus.stop, stage } where
  order := by
    rw [dispatched_append, sent_append]
    simpa [dispatched, Bus.stop] using inv.order
  back_nil h := inv.back_nil (by rw [← back]; exact h)
  front := by
    rw [sinceSwap_append (by simp [Mark.isSwap]), sent_append]
    simpa [Bus.stop, Queue.requestStop] using inv.front

/-- The back is empty when the buffers trade places, so the batch keeps its place before what comes later. -/
theorem InOrder.swap (inv : InOrder trace s) (last : Bool) (between : s.stage.inBatch = false) :
    InOrder (trace ++ [.swapped]) { s with bus := s.bus.swapped, stage := .draining last } where
  order := by
    rw [dispatched_append, sent_append]
    simpa [dispatched, Bus.swapped, Queue.contents_swap (inv.back_nil between)] using inv.order
  back_nil h := by simp [Stage.inBatch] at h
  front := by simp [Bus.swapped, Queue.swap_of_back_nil (inv.back_nil between)]

theorem InOrder.take (inv : InOrder trace s) (host : Host) {last : Bool} {e : Envelope}
    {rest : List Envelope} {records : List Record} (next : s.bus.queue.back = e :: rest) :
    InOrder (trace ++ said (Bus.announce host e (s.bus.popped rest)))
      { s with
        bus := (Bus.announce host e (s.bus.popped rest)).result, stage := .delivering last e records } where
  order := by
    rw [dispatched_append, sent_append, dispatched_announce, sent_said, ← inv.order]
    simp [Bus.result_announce, Bus.popped, Queue.contents, next]
  back_nil h := by simp [Stage.inBatch] at h
  front := by
    rw [sinceSwap_append (said_not_swap _), sent_append, sent_said, List.append_nil, ← inv.front]
    simp [Bus.result_announce, Bus.popped]

theorem queue_enrolled (crew : Crew ω) (ref : NodeRef) (kind : Option MessageKind) (s : LiveBus ω) :
    (s.enrolled crew ref kind).bus.queue = s.bus.queue := by
  cases h : s.bus.started with
  | false => rw [enrolled_of_open h]
  | true => rw [enrolled_of_started h]

theorem InOrder.step (inv : InOrder trace s) (h : Step crew s marks t) : InOrder (trace ++ marks) t := by
  cases h with
  | send host m => exact inv.push host m s.stage rfl
  | stop => exact inv.stop s.stage rfl
  | disturb => exact inv.keep rfl inv.back_nil rfl rfl (by simp)
  | register ref kind idle =>
    have quiet := Bus.isQuiet_register crew ref kind s.bus s.world
    refine inv.keep (queue_enrolled crew ref kind s) (fun _ => inv.back_nil (by simp [idle, Stage.inBatch])) ?_ ?_ ?_
    · simp
    · simpa [dispatched] using quiet.dispatched
    · simpa [Mark.isSwap] using said_not_swap _
  | enter host idle =>
    refine inv.keep (Bus.queue_prepare host s.bus) (fun _ => inv.back_nil (by simp [idle, Stage.inBatch])) ?_ ?_ ?_
    · simp
    · simpa [dispatched] using (Bus.isQuiet_prepare host s.bus).dispatched
    · simpa [Mark.isSwap] using said_not_swap _
  | proceed at_ | heed at_ | elapse at_ =>
    exact inv.keep rfl (fun _ => inv.back_nil (by simp [at_, Stage.inBatch])) rfl rfl (by simp)
  | swap elapsed at_ => exact inv.swap false (by simp [at_, Stage.inBatch])
  | close at_ => exact inv.swap true (by simp [at_, Stage.inBatch])
  | take host last e rest at_ next => exact inv.take host next
  | again at_ empty => exact inv.keep rfl (fun _ => empty) rfl rfl (by simp)
  | leave at_ empty => exact inv.keep rfl (fun _ => empty) rfl rfl (by simp [Mark.isSwap])
  | call last e r rest at_ =>
    exact inv.keep rfl (by simp [Stage.inBatch]) rfl rfl (by simp [Mark.isSwap])
  | flush last e at_ =>
    exact inv.keep (Bus.queue_transcribe _ s.bus) (by simp [Stage.inBatch]) (sent_said _)
      (dispatched_said (Bus.isQuiet_transcribe _ s.bus)) (said_not_swap _)
  | note last e r rest line next at_ =>
    exact inv.keep rfl (by simp [Stage.inBatch]) rfl rfl (by simp [Mark.isSwap])
  | reply host last e r rest m next at_ => exact inv.push host m _ (by simp [at_, Stage.inBatch])
  | halt last e r rest next at_ => exact inv.stop _ (by simp [at_, Stage.inBatch])
  | askPending last e r rest next at_ => exact inv.keep rfl (by simp [Stage.inBatch]) rfl rfl (by simp)
  | askStopped last e r rest next at_ => exact inv.keep rfl (by simp [Stage.inBatch]) rfl rfl (by simp)
  | finish host last e r rest world outcome at_ =>
    exact inv.keep (Bus.queue_settle host e.message r outcome s.bus) (by simp [Stage.inBatch]) (sent_said _)
      (dispatched_said (Bus.isQuiet_settle host e.message r outcome s.bus)) (said_not_swap _)

theorem Reachable.inOrder (h : Reachable crew trace s) : InOrder trace s := by
  induction h with
  | new => exact ⟨rfl, fun _ => rfl, rfl⟩
  | step _ taken inv => exact inv.step taken

theorem Step.between (h : Step crew s marks t) (swapped : .swapped ∈ marks) : s.stage.inBatch = false := by
  have not_said {α : Type} (x : Traced BusEvent α) : .swapped ∉ said x := fun hm =>
    Bool.noConfusion (said_not_swap x _ hm)
  cases h with
  | swap elapsed at_ => simp [at_, Stage.inBatch]
  | close at_ => simp [at_, Stage.inBatch]
  | _ => simp [not_said] at swapped

/-! ## The result -/

/-- However many threads send, and whatever the nodes do: what was dispatched, then the back, then the front
is what was sent, in that order. The buffers trade places only while the back is empty, and what is pending is
what was sent since they last did. -/
theorem dispatched_append_queued (h : Reachable crew trace s) :
    dispatched trace ++ s.bus.queue.back ++ s.bus.queue.front = sent trace ∧
      (∀ marks t, Step crew s marks t → .swapped ∈ marks → s.bus.queue.back = []) ∧
      s.bus.queue.pending = (sent (sinceSwap trace)).length := by
  have inv := h.inOrder
  refine ⟨?_, fun marks t step swapped => inv.back_nil (step.between swapped), ?_⟩
  · rw [List.append_assoc]
    exact inv.order
  · rw [← inv.front]
    rfl

/-- Objects that answer whatever they are given with a state of the wind, and panic then. -/
def echo : Crew Unit where
  id _ world := (.windState, world)
  name _ world := ("WindState", world)
  isActive _ := false
  react _ _ world := .send (.anonymous .windState) (.finish world (.panicked none))

def midnight : Host := ⟨⟨0, 0, 0, 0⟩, fun _ => .error "no file"⟩

/-- In the second batch, when the buffers have traded places twice: a message that was sent during the first
batch has gone before the answer to the first message. -/
theorem dispatched_append_queued_echo : ∃ trace s, Reachable echo trace s ∧
    dispatched trace = [⟨.anonymous .windData, midnight.now⟩, ⟨.anonymous .gpsData, midnight.now⟩] ∧
    s.bus.queue.back = [⟨.anonymous .windState, midnight.now⟩] ∧
    s.bus.queue.front = [⟨.anonymous .windData, midnight.now⟩] ∧
    dispatched trace ++ s.bus.queue.back ++ s.bus.queue.front = sent trace ∧
    (∀ marks t, Step echo s marks t → .swapped ∈ marks → s.bus.queue.back = []) ∧
    s.bus.queue.pending = (sent (sinceSwap trace)).length := by
  have registered := (Reachable.new {} .absent () : Reachable echo [] _).step (.register _ 0 (some .windData) rfl)
  have waiting := ((registered.step (.send _ midnight (.anonymous .windData))).step
    (.enter _ midnight rfl)).step (.proceed _ rfl rfl)
  have called := ((waiting.step (.swap _ false rfl rfl)).step (.take _ midnight false _ [] rfl rfl)).step
    (.call _ false _ ⟨0, .windState, "WindState", [.windData]⟩ [] rfl)
  have answered := (called.step (.send _ midnight (.anonymous .gpsData))).step
    (.reply _ midnight false _ _ [] _ _ rfl)
  have drained := ((answered.step (.finish _ midnight false _ _ [] _ _ rfl)).step (.flush _ false _ rfl)).step
    (.again _ rfl rfl)
  have taken := (((drained.step (.proceed _ rfl rfl)).step (.swap _ false rfl rfl)).step
    (.send _ midnight (.anonymous .windData))).step (.take _ midnight false _ _ rfl rfl)
  exact ⟨_, _, taken, rfl, rfl, rfl, dispatched_append_queued taken⟩

end LiveBus

end VesselBus
