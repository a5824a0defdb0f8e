import VesselBus.Proofs.Bus.Draining

/-!
# A run that was asked to stop comes to its end

What the nodes send goes to the front of the queue, and the dispatcher only empties the back. So a batch is over
after finitely many steps however much is sent meanwhile, and a run that heeds a stop has one batch left at most.
-/

namespace VesselBus

namespace Reaction

variable {ω : Type}

theorem askPending_ne (next : Nat → Reaction ω) (n : Nat) : next n ≠ .askPending next := by
  suffices h : ∀ r : Reaction ω, ∀ next, r = .askPending next → next n ≠ r from h _ next rfl
  intro r
  induction r with
  | askPending next' ih =>
    rintro next ⟨⟩ same
    exact ih n next' same rfl
  | _ => rintro next ⟨⟩

theorem askStopped_ne (next : Bool → Reaction ω) (b : Bool) : next b ≠ .askStopped next := by
  suffices h : ∀ r : Reaction ω, ∀ next, r = .askStopped next → next b ≠ r from h _ next rfl
  intro r
  induction r with
  | askStopped next' ih =>
    rintro next ⟨⟩ same
    exact ih b next' same rfl
  | _ => rintro next ⟨⟩

theorem log_ne (line : Line) (next : Reaction ω) : next ≠ .log line next := by
  intro same
  have size := congrArg sizeOf same
  simp at size

theorem send_ne (m : Message) (next : Reaction ω) : next ≠ .send m next := by
  intro same
  have size := congrArg sizeOf same
  simp at size

theorem stop_ne (next : Reaction ω) : next ≠ .stop next := by
  intro same
  have size := congrArg sizeOf same
  simp at size

end Reaction

namespace LiveBus

variable {ω : Type} {crew : Crew ω} {trace marks : List Mark} {s t u : LiveBus ω} {bus : Bus} {world : ω}

/-- A step of the thread inside `run`: nobody else changes its stage. -/
def Moves (crew : Crew ω) (s : LiveBus ω) (marks : List Mark) (t : LiveBus ω) : Prop :=
  Step crew s marks t ∧ t.stage ≠ s.stage

/-- A step of anybody else. -/
def Stays (crew : Crew ω) (s : LiveBus ω) (marks : List Mark) (t : LiveBus ω) : Prop :=
  Step crew s marks t ∧ t.stage = s.stage

/-- Whatever others do meanwhile, the thread inside `run` can go on until it is out, and that is after finitely many
steps of its own. -/
inductive Returns (crew : Crew ω) : LiveBus ω → Prop where
  | out {s : LiveBus ω} (h : s.stage = .idle) : Returns crew s
  | on {s : LiveBus ω} (can : ∀ meanwhile u, Steps (Stays crew) s meanwhile u → ∃ marks t, Moves crew u marks t)
    (all : ∀ meanwhile u marks t, Steps (Stays crew) s meanwhile u → Moves crew u marks t → Returns crew t) :
    Returns crew s

/-! ## What others leave alone -/

theorem stopRequested_swap (q : Queue) : q.swap.stopRequested = q.stopRequested := by
  unfold Queue.swap
  split <;> rfl

/-- A request to stop is never withdrawn. -/
theorem Step.stopRequested (h : Step crew s marks t) (stopping : s.bus.queue.stopRequested = true) :
    t.bus.queue.stopRequested = true := by
  cases h with
  | stop | halt => rfl
  | register ref kind => rwa [queue_enrolled]
  | enter host => rwa [Bus.queue_prepare]
  | swap | close => rwa [Bus.swapped, stopRequested_swap]
  | take host last e rest => rwa [Bus.result_announce, Bus.queue_transcribe]
  | flush => rwa [Bus.queue_transcribe]
  | finish => rwa [Bus.queue_settle]
  | _ => exact stopping

theorem stopRequested_of_run (run : Steps (Step crew) s trace t) (stopping : s.bus.queue.stopRequested = true) :
    t.bus.queue.stopRequested = true := by
  induction run with
  | refl => exact stopping
  | tail _ step ih => exact step.stopRequested ih

theorem Stays.back (h : Stays crew s marks t) : t.bus.queue.back = s.bus.queue.back := by
  obtain ⟨step, same⟩ := h
  cases step with
  | register ref kind => rw [queue_enrolled]
  | enter host => rw [Bus.queue_prepare]
  | swap elapsed at_ | close at_ | take host last e rest at_ => simp [at_] at same
  | flush => rw [Bus.queue_transcribe]
  | finish => rw [Bus.queue_settle]
  | _ => rfl

theorem kept_of_stays (run : Steps (Stays crew) s trace t) (stopping : s.bus.queue.stopRequested = true) :
    t.stage = s.stage ∧ t.bus.queue.back = s.bus.queue.back ∧ t.bus.queue.stopRequested = true := by
  induction run with
  | refl => exact ⟨rfl, rfl, stopping⟩
  | tail _ step ih =>
    obtain ⟨stage, back, stopping⟩ := ih
    exact ⟨step.2.trans stage, step.back.trans back, step.1.stopRequested stopping⟩

/-- What others change is the front of the queue and the world. -/
theorem Returns.of_moves (stopping : s.bus.queue.stopRequested = true)
    (next : ∀ bus world, bus.queue.stopRequested = true → bus.queue.back = s.bus.queue.back →
      (∃ marks t, Moves crew ⟨bus, world, s.stage⟩ marks t) ∧
        ∀ marks t, Moves crew ⟨bus, world, s.stage⟩ marks t → Returns crew t) : Returns crew s := by
  have kept (meanwhile : List Mark) (u : LiveBus ω) (run : Steps (Stays crew) s meanwhile u) :
      (∃ marks t, Moves crew u marks t) ∧ ∀ marks t, Moves crew u marks t → Returns crew t := by
    obtain ⟨stage, back, stopping⟩ := kept_of_stays run stopping
    have goes := next u.bus u.world stopping back
    rw [← stage] at goes
    exact goes
  exact .on (fun meanwhile u run => (kept meanwhile u run).1)
    fun meanwhile u marks t run => (kept meanwhile u run).2 marks t

/-! ## One batch -/

variable {last : Bool} {e : Envelope} {r : Record} {rest : List Envelope} {others : List Record}

theorem Returns.reacting
    (next : ∀ bus world, bus.queue.stopRequested = true → bus.queue.back = rest →
      Returns crew ⟨bus, world, .delivering last e others⟩)
    (reaction : Reaction ω) (stopping : bus.queue.stopRequested = true) (back : bus.queue.back = rest) :
    Returns crew ⟨bus, world, .reacting last e r others reaction⟩ := by
  induction reaction generalizing bus world with
  | finish after outcome =>
    refine .of_moves stopping fun bus world stopping back' => ⟨?_, ?_⟩
    · exact ⟨_, _, .finish _ midnight last e r others after outcome rfl, by simp⟩
    · rintro marks t ⟨step, moved⟩
      cases step with
      | finish host last' e' r' others' after' outcome' at_ =>
        cases at_
        exact next _ _ (by rwa [Bus.queue_settle]) (by rw [Bus.queue_settle, back', back])
      | send | stop | disturb | register => exact absurd rfl moved
      | _ => simp_all
  | log line following ih =>
    refine .of_moves stopping fun bus world stopping back' => ⟨?_, ?_⟩
    · exact ⟨_, _, .note _ last e r others line following rfl, by simp [Reaction.log_ne]⟩
    · rintro marks t ⟨step, moved⟩
      cases step with
      | note last' e' r' others' line' following' at_ =>
        cases at_
        exact ih stopping (back'.trans back)
      | send | stop | disturb | register => exact absurd rfl moved
      | _ => simp_all
  | send m following ih =>
    refine .of_moves stopping fun bus world stopping back' => ⟨?_, ?_⟩
    · exact ⟨_, _, .reply _ midnight last e r others m following rfl, by simp [Reaction.send_ne]⟩
    · rintro marks t ⟨step, moved⟩
      cases step with
      | reply host last' e' r' others' m' following' at_ =>
        cases at_
        exact ih stopping (back'.trans back)
      | send | stop | disturb | register => exact absurd rfl moved
      | _ => simp_all
  | stop following ih =>
    refine .of_moves stopping fun bus world stopping back' => ⟨?_, ?_⟩
    · exact ⟨_, _, .halt _ last e r others following rfl, by simp [Reaction.stop_ne]⟩
    · rintro marks t ⟨step, moved⟩
      cases step with
      | halt last' e' r' others' following' at_ =>
        cases at_
        exact ih rfl (back'.trans back)
      | send | stop | disturb | register => exact absurd rfl moved
      | _ => simp_all
  | askPending following ih =>
    refine .of_moves stopping fun bus world stopping back' => ⟨?_, ?_⟩
    · exact ⟨_, _, .askPending _ last e r others following rfl, by simp [Reaction.askPending_ne]⟩
    · rintro marks t ⟨step, moved⟩
      cases step with
      | askPending last' e' r' others' following' at_ =>
        cases at_
        exact ih _ stopping (back'.trans back)
      | send | stop | disturb | register => exact absurd rfl moved
      | _ => simp_all
  | askStopped following ih =>
    refine .of_moves stopping fun bus world stopping back' => ⟨?_, ?_⟩
    · exact ⟨_, _, .askStopped _ last e r others following rfl, by simp [Reaction.askStopped_ne]⟩
    · rintro marks t ⟨step, moved⟩
      cases step with
      | askStopped last' e' r' others' following' at_ =>
        cases at_
        exact ih _ stopping (back'.trans back)
      | send | stop | disturb | register => exact absurd rfl moved
      | _ => simp_all

theorem Returns.delivering
    (next : ∀ bus world, bus.queue.stopRequested = true → bus.queue.back = rest →
      Returns crew ⟨bus, world, .draining last⟩)
    (records : List Record) (stopping : bus.queue.stopRequested = true) (back : bus.queue.back = rest) :
    Returns crew ⟨bus, world, .delivering last e records⟩ := by
  induction records generalizing bus world with
  | nil =>
    refine .of_moves stopping fun bus world stopping back' => ⟨?_, ?_⟩
    · exact ⟨_, _, .flush _ last e rfl, by simp⟩
    · rintro marks t ⟨step, moved⟩
      cases step with
      | flush last' e' at_ =>
        cases at_
        exact next _ _ (by rwa [Bus.queue_transcribe]) (by rw [Bus.queue_transcribe, back', back])
      | send | stop | disturb | register => exact absurd rfl moved
      | _ => simp_all
  | cons r others ih =>
    refine .of_moves stopping fun bus world stopping back' => ⟨?_, ?_⟩
    · exact ⟨_, _, .call _ last e r others rfl, by simp⟩
    · rintro marks t ⟨step, moved⟩
      cases step with
      | call last' e' r' others' at_ =>
        cases at_
        exact .reacting (fun _ _ => ih) _ stopping (back'.trans back)
      | send | stop | disturb | register => exact absurd rfl moved
      | _ => simp_all

/-- The measure of a batch is the back of the queue, which no reaction makes longer. -/
theorem Returns.draining
    (done : ∀ bus world, bus.queue.stopRequested = true → bus.queue.back = [] →
      Returns crew ⟨bus, world, .draining last⟩)
    (batch : List Envelope) (stopping : bus.queue.stopRequested = true) (back : bus.queue.back = batch) :
    Returns crew ⟨bus, world, .draining last⟩ := by
  induction batch generalizing bus world with
  | nil => exact done bus world stopping back
  | cons e rest ih =>
    refine .of_moves stopping fun bus world stopping back' => ⟨?_, ?_⟩
    · exact ⟨_, _, .take _ midnight last e rest rfl (back'.trans back), by simp⟩
    · rintro marks t ⟨step, moved⟩
      cases step with
      | take host last' e' rest' at_ next =>
        cases at_
        obtain ⟨rfl, rfl⟩ := List.cons.inj (next.symm.trans (back'.trans back))
        refine .delivering (fun _ _ => ih) _ ?_ ?_
        · rwa [Bus.result_announce, Bus.queue_transcribe]
        · rw [Bus.result_announce, Bus.queue_transcribe]
          rfl
      | send | stop | disturb | register => exact absurd rfl moved
      | _ => simp_all

/-! ## What is left of a run -/

theorem returns_last (stopping : bus.queue.stopRequested = true) (empty : bus.queue.back = []) :
    Returns crew ⟨bus, world, .draining true⟩ := by
  refine .of_moves stopping fun bus world stopping back' => ⟨?_, ?_⟩
  · exact ⟨_, _, .leave _ rfl (back'.trans empty), by simp⟩
  · rintro marks t ⟨step, moved⟩
    cases step with
    | leave at_ => exact .out rfl
    | send | stop | disturb | register => exact absurd rfl moved
    | _ => simp_all

theorem returns_closing (stopping : bus.queue.stopRequested = true) : Returns crew ⟨bus, world, .closing⟩ := by
  refine .of_moves stopping fun bus world stopping _ => ⟨?_, ?_⟩
  · exact ⟨_, _, .close _ rfl, by simp⟩
  · rintro marks t ⟨step, moved⟩
    cases step with
    | close at_ => exact .draining (fun _ _ => returns_last) _ (by rwa [Bus.swapped, stopRequested_swap]) rfl
    | send | stop | disturb | register => exact absurd rfl moved
    | _ => simp_all

theorem returns_checking (stopping : bus.queue.stopRequested = true) : Returns crew ⟨bus, world, .checking⟩ := by
  refine .of_moves stopping fun bus world stopping _ => ⟨?_, ?_⟩
  · exact ⟨_, _, .heed _ rfl stopping, by simp⟩
  · rintro marks t ⟨step, moved⟩
    cases step with
    | heed at_ => exact returns_closing stopping
    | send | stop | disturb | register => exact absurd rfl moved
    | _ => simp_all

theorem returns_again (stopping : bus.queue.stopRequested = true) (empty : bus.queue.back = []) :
    Returns crew ⟨bus, world, .draining false⟩ := by
  refine .of_moves stopping fun bus world stopping back' => ⟨?_, ?_⟩
  · exact ⟨_, _, .again _ rfl (back'.trans empty), by simp⟩
  · rintro marks t ⟨step, moved⟩
    cases step with
    | again at_ => exact returns_checking stopping
    | send | stop | disturb | register => exact absurd rfl moved
    | _ => simp_all

theorem returns_empty (last : Bool) (bus : Bus) (world : ω) (stopping : bus.queue.stopRequested = true)
    (empty : bus.queue.back = []) : Returns crew ⟨bus, world, .draining last⟩ := by
  cases last with
  | false => exact returns_again stopping empty
  | true => exact returns_last stopping empty

theorem returns_waiting (elapsed : Bool) (stopping : bus.queue.stopRequested = true) :
    Returns crew ⟨bus, world, .waiting elapsed⟩ := by
  have swapped {bus : Bus} {world : ω} (stopping : bus.queue.stopRequested = true) :
      Returns crew ⟨bus.swapped, world, .draining false⟩ :=
    .draining (returns_empty false) _ (by rwa [Bus.swapped, stopRequested_swap]) rfl
  have waited {bus : Bus} {world : ω} (stopping : bus.queue.stopRequested = true) :
      Returns crew ⟨bus, world, .waiting true⟩ := by
    refine .of_moves stopping fun bus world stopping _ => ⟨?_, ?_⟩
    · exact ⟨_, _, .swap _ true rfl bus.isReady_elapsed, by simp⟩
    · rintro marks t ⟨step, moved⟩
      cases step with
      | swap elapsed at_ ready => exact swapped stopping
      | send | stop | disturb | register => exact absurd rfl moved
      | _ => simp_all
  cases elapsed with
  | true => exact waited stopping
  | false =>
    refine .of_moves stopping fun bus world stopping _ => ⟨?_, ?_⟩
    · exact ⟨_, _, .elapse _ rfl, by simp⟩
    · rintro marks t ⟨step, moved⟩
      cases step with
      | elapse at_ => exact waited stopping
      | swap elapsed at_ ready => exact swapped stopping
      | send | stop | disturb | register => exact absurd rfl moved
      | _ => simp_all

/-- Wherever the dispatcher is when a stop has been asked for, it comes out of its run. -/
theorem returns_of_stopping (crew : Crew ω) (s : LiveBus ω) (stopping : s.bus.queue.stopRequested = true) :
    Returns crew s := by
  obtain ⟨bus, world, stage⟩ := s
  have drained (last : Bool) {bus : Bus} {world : ω} (stopping : bus.queue.stopRequested = true) :
      Returns crew ⟨bus, world, .draining last⟩ := .draining (returns_empty last) _ stopping rfl
  have delivered (last : Bool) (e : Envelope) (records : List Record) {bus : Bus} {world : ω}
      (stopping : bus.queue.stopRequested = true) : Returns crew ⟨bus, world, .delivering last e records⟩ :=
    .delivering (fun _ _ stopping _ => drained last stopping) records stopping rfl
  cases stage with
  | idle => exact .out rfl
  | checking => exact returns_checking stopping
  | waiting elapsed => exact returns_waiting elapsed stopping
  | closing => exact returns_closing stopping
  | draining last => exact drained last stopping
  | delivering last e records => exact delivered last e records stopping
  | reacting last e r others reaction =>
    exact .reacting (fun _ _ stopping _ => delivered last e others stopping) reaction stopping rfl

end LiveBus

end VesselBus
