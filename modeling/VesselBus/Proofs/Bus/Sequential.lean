import VesselBus.Proofs.Bus.Marks

/-!
# A run without interference

What `Bus.run` computes is one way in which the steps of the bus can go: the thread inside `run` takes all of
them, and the only other thing that happens is the request that ends its patience.
-/

namespace VesselBus

namespace Bus

variable {ω : Type}

theorem back_play (now : TimeOfDay) (reaction : Reaction ω) (q : Queue) :
    (play now reaction q).result.1.back = q.back := by
  induction reaction generalizing q with
  | finish world outcome => rfl
  | log line next ih => exact ih q
  | send m next ih => exact ih (q.push ⟨m, now⟩)
  | stop next ih => exact ih q.requestStop
  | askPending next ih => exact ih q.pending q
  | askStopped next ih => exact ih q.stopRequested q

theorem back_deliver (crew : Crew ω) (host : Host) (m : Message) (bus : Bus) (world : ω) (r : Record) :
    (deliver crew host m bus world r).result.1.queue.back = bus.queue.back := by
  have h := back_play host.now (crew.react r.ref m world) bus.queue
  simpa [deliver] using h

theorem back_deliverEach (crew : Crew ω) (host : Host) (m : Message) (records : List Record) (bus : Bus)
    (world : ω) : (deliverEach crew host m records bus world).result.1.queue.back = bus.queue.back := by
  induction records generalizing bus world with
  | nil => rfl
  | cons r rest ih => exact (ih _ _).trans (back_deliver crew host m bus world r)

/-- What a dispatch makes the nodes send goes to the front. -/
theorem back_dispatch (crew : Crew ω) (host : Host) (e : Envelope) (bus : Bus) (world : ω) :
    (dispatch crew host e bus world).result.1.queue.back = bus.queue.back := by
  simp [dispatch, back_deliverEach, result_announce]

end Bus

namespace LiveBus

variable {ω : Type} {crew : Crew ω}

abbrev Reports (crew : Crew ω) : LiveBus ω → List BusEvent → LiveBus ω → Prop :=
  VesselBus.Reports (Step crew) Mark.event?

/-! ## One message -/

theorem reports_play (host : Host) (bus : Bus) (world : ω) (last : Bool) (e : Envelope) (r : Record)
    (rest : List Record) (reaction : Reaction ω) :
    let x := Bus.play host.now reaction bus.queue
    Reports crew ⟨bus, world, .reacting last e r rest reaction⟩ x.reports
      ⟨{ bus with queue := x.result.1 }, world,
        .reacting last e r rest (.finish x.result.2.1 x.result.2.2)⟩ := by
  induction reaction generalizing bus with
  | finish after outcome => exact .refl _
  | log line next ih => exact (Reports.step (.note ⟨bus, world, _⟩ last e r rest line next rfl)).trans (ih bus)
  | send m next ih =>
    exact (Reports.step (.reply ⟨bus, world, _⟩ host last e r rest m next rfl)).trans (ih (bus.send host m))
  | stop next ih => exact (Reports.step (.halt ⟨bus, world, _⟩ last e r rest next rfl)).trans (ih bus.stop)
  | askPending next ih => exact (Reports.step (.askPending ⟨bus, world, _⟩ last e r rest next rfl)).trans (ih _ bus)
  | askStopped next ih => exact (Reports.step (.askStopped ⟨bus, world, _⟩ last e r rest next rfl)).trans (ih _ bus)

theorem reports_deliver (host : Host) (bus : Bus) (world : ω) (last : Bool) (e : Envelope) (r : Record)
    (rest : List Record) :
    let x := Bus.deliver crew host e.message bus world r
    Reports crew ⟨bus, world, .delivering last e (r :: rest)⟩ x.reports
      ⟨x.result.1, x.result.2, .delivering last e rest⟩ := by
  have called : Reports crew _ _ _ := .step (.call ⟨bus, world, _⟩ last e r rest rfl)
  have played : Reports crew _ _ _ :=
    reports_play host bus world last e r rest (crew.react r.ref e.message world)
  have all := (called.trans played).after (.finish _ host last e r rest _ _ rfl)
  simpa [Bus.deliver, Traced.report] using all

theorem reports_deliverEach (host : Host) (last : Bool) (e : Envelope) (records : List Record) (bus : Bus)
    (world : ω) :
    let x := Bus.deliverEach crew host e.message records bus world
    Reports crew ⟨bus, world, .delivering last e records⟩ x.reports
      ⟨x.result.1, x.result.2, .delivering last e []⟩ := by
  induction records generalizing bus world with
  | nil => exact .refl _
  | cons r rest ih => exact (reports_deliver host bus world last e r rest).trans (ih _ _)

theorem reports_dispatch (host : Host) (last : Bool) (e : Envelope) (rest : List Envelope) (bus : Bus)
    (world : ω) (next : bus.queue.back = e :: rest) :
    let x := Bus.dispatch crew host e (bus.popped rest) world
    Reports crew ⟨bus, world, .draining last⟩ x.reports ⟨x.result.1, x.result.2, .draining last⟩ := by
  have taken : Reports crew _ _ _ := .step (.take ⟨bus, world, _⟩ host last e rest rfl next)
  have delivered : Reports crew _ _ _ :=
    reports_deliverEach host last e (bus.registry.receivers e.message)
      (Bus.announce host e (bus.popped rest)).result world
  have all := (taken.trans delivered).after (.flush _ last e rfl)
  simpa [Bus.dispatch, Bus.result_announce, Bus.popped] using all

/-! ## Batches and runs -/

theorem reports_dispatchEach (host : Host) (last : Bool) (batch : List Envelope) (bus : Bus) (world : ω)
    (h : bus.queue.back = batch) :
    let x := Bus.dispatchEach crew host batch bus world
    Reports crew ⟨bus, world, .draining last⟩ x.reports ⟨x.result.1, x.result.2, .draining last⟩ ∧
      x.result.1.queue.back = [] := by
  induction batch generalizing bus world with
  | nil => exact ⟨.refl _, h⟩
  | cons e rest ih =>
    obtain ⟨steps, empty⟩ := ih _ _ (Bus.back_dispatch crew host e (bus.popped rest) world)
    exact ⟨(reports_dispatch host last e rest bus world h).trans steps, empty⟩

theorem reports_turn (host : Host) (bus : Bus) (world : ω) (last : Bool) :
    let x := Bus.turn crew host bus world
    Reports crew ⟨bus.swapped, world, .draining last⟩ x.reports ⟨x.result.1, x.result.2, .draining last⟩ ∧
      x.result.1.queue.back = [] :=
  reports_dispatchEach host last bus.swapped.queue.back bus.swapped world rfl

/-- One turn of the loop, which need not wait longer than its interval. -/
theorem reports_loop (host : Host) (bus : Bus) (world : ω) (going : bus.queue.stopRequested = false) :
    let x := Bus.turn crew host bus world
    Reports crew ⟨bus, world, .checking⟩ x.reports ⟨x.result.1, x.result.2, .checking⟩ := by
  have waiting : Reports crew _ _ _ := .step (.proceed ⟨bus, world, .checking⟩ rfl going)
  have elapsed : Reports crew _ _ _ := .step (.elapse ⟨bus, world, .waiting false⟩ rfl)
  have swapped : Reports crew _ _ _ := .step (.swap ⟨bus, world, .waiting true⟩ true rfl bus.isReady_elapsed)
  obtain ⟨drained, empty⟩ : Reports crew _ _ _ ∧ _ := reports_turn host bus world false
  simpa using (((waiting.trans elapsed).trans swapped).trans drained).after (.again _ rfl empty)

theorem reports_turns (host : Host) (patience : Nat) (bus : Bus) (world : ω) :
    let x := Bus.turns crew host patience bus world
    Reports crew ⟨bus, world, .checking⟩ x.reports ⟨x.result.1, x.result.2, .checking⟩ ∧
      x.result.1.queue.stopRequested = true := by
  induction patience generalizing bus world with
  | zero => exact ⟨.step (Step.stop ⟨bus, world, .checking⟩), rfl⟩
  | succ patience ih =>
    cases going : bus.queue.stopRequested with
    | true => simpa [Bus.turns, going] using Reports.refl _
    | false =>
      obtain ⟨steps, stopped⟩ := ih (Bus.turn crew host bus world).result.1 (Bus.turn crew host bus world).result.2
      simp only [Bus.turns, going, Bool.false_eq_true, if_false]
      exact ⟨(reports_loop host bus world going).trans steps, stopped⟩

/-- A run is made of steps, and reports what they report. -/
theorem reports_run (host : Host) (patience : Nat) (bus : Bus) (world : ω) :
    let x := Bus.run crew host patience bus world
    Reports crew ⟨bus, world, .idle⟩ x.reports ⟨x.result.1, x.result.2, .idle⟩ := by
  have entered : Reports crew _ _ _ := .step (.enter ⟨bus, world, .idle⟩ host rfl)
  obtain ⟨looped, stopped⟩ : Reports crew _ _ _ ∧ _ := reports_turns host patience (bus.prepare host).result world
  have closed := ((entered.trans looped).after (.heed _ rfl stopped)).after (.close _ rfl)
  obtain ⟨drained, empty⟩ : Reports crew _ _ _ ∧ _ := reports_turn host
    (Bus.turns crew host patience (bus.prepare host).result world).result.1
    (Bus.turns crew host patience (bus.prepare host).result world).result.2 true
  have all := (closed.trans drained).after (.leave _ rfl empty)
  simpa [Bus.run, Traced.report] using all

theorem Reachable.run {trace : List Mark} {s : LiveBus ω} (h : Reachable crew trace s) (idle : s.stage = .idle)
    (host : Host) (patience : Nat) :
    let x := Bus.run crew host patience s.bus s.world
    ∃ more, Reachable crew (trace ++ more) ⟨x.result.1, x.result.2, .idle⟩ ∧ reports more = x.reports := by
  obtain ⟨bus, world, stage⟩ := s
  subst idle
  obtain ⟨more, steps, same⟩ : Reports crew _ _ _ := reports_run host patience bus world
  exact ⟨more, h.append steps, same⟩

end LiveBus

end VesselBus
