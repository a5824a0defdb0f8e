import VesselBus.Proofs.Places
import VesselBus.Proofs.Worker.Calls
import VesselBus.Proofs.Worker.Passing
import VesselBus.Time.LoopPeriod
import VesselBus.Time.Stopwatch

/-!
# The loop of a worker, with its channel and its period

A worker waits on a channel, until a signal comes or the rest of its period is over. The channel holds one signal, and
whoever finds it full, or finds nobody at its other end, goes on without waiting. A signal that is in the channel is
read even if there is no time left.

The period may change at any time. It is looked up when a wait begins.
-/

namespace VesselBus

/-! ## Channels -/

structure Channel where
  held : Nat := 0
  /-- Somebody is there to read it. -/
  connected : Bool := true

namespace Channel

def capacity : Nat := 1

def trySend (c : Channel) : Channel :=
  if c.connected ∧ c.held < capacity then { c with held := c.held + 1 } else c

def receive (c : Channel) : Channel := { c with held := c.held - 1 }

def close (c : Channel) : Channel := { c with connected := false }

end Channel

/-! ## Loops -/

/-- What a worker keeps on its own thread. -/
structure Loop where
  channel : Channel := {}
  period : LoopPeriod
  watch : Stopwatch
  /-- When its wait is over, if no signal comes. -/
  deadline : Nat := 0
  /-- It has read a signal, and is on its way out. -/
  leaving : Bool := false

namespace Loop

def create (now : Nat) (period : LoopPeriod) : Loop := { period, watch := .create now }

def trySend (l : Loop) : Loop := { l with channel := l.channel.trySend }

def restart (now : Nat) (l : Loop) : Loop := { l with watch := l.watch.reset now }

/-- What is left of the period is waited for. A body that panics takes the loop with it. -/
def leave (now : Nat) (panicked : Bool) (l : Loop) : Loop :=
  if panicked then { l with channel := l.channel.close }
  else { l with deadline := now + l.watch.remaining now l.period.duration.nanos }

def receive (l : Loop) : Loop := { l with channel := l.channel.receive, leaving := true }

def close (l : Loop) : Loop := { l with channel := l.channel.close }

end Loop

namespace Worker

def again (w : Worker) : Worker := if w.phase = .waiting then { w with phase := .poised } else w

def halt (w : Worker) : Worker := if w.phase = .waiting then { w with phase := .ended false } else w

theorem wake_of_signalled {w : Worker} (signalled : w.signalled = true) : w.wake = w.halt := by
  unfold wake halt
  rw [signalled]
  rfl

theorem wake_of_quiet {w : Worker} (quiet : w.signalled = false) : w.wake = w.again := by
  unfold wake again
  rw [quiet]
  rfl

end Worker

/-- A slot with the loops of all its workers, and the clock. -/
structure Paced where
  live : LiveSlot
  loops : List Loop := []
  now : Nat

namespace Paced

def create (id : NodeId) (now : Nat) : Paced := { live := { slot := { id } }, now }

/-- What a step of the slot does to the loops. -/
def heed (s : Paced) (period : LoopPeriod) (loops : List Loop) : SlotMark → List Loop
  | .started _ _ => loops ++ [.create s.now period]
  | .stopCalled _ =>
    match s.live.slot.tracked with
    | none => loops
    | some index => loops.modify index Loop.trySend
  | .entered index => loops.modify index (Loop.restart s.now)
  | .left index panicked => loops.modify index (Loop.leave s.now panicked)
  | _ => loops

/-- Whoever waits goes on waiting. -/
def Calm (s t : LiveSlot) : Prop := ∀ index, s.slot.phase? index = some .waiting → t.slot.phase? index = some .waiting

inductive Step : Paced → List SlotMark → Paced → Prop where
  | tick (s : Paced) (now : Nat) (later : s.now ≤ now) : Step s [] { s with now }
  | setPeriod (s : Paced) (index : Nat) (period : LoopPeriod) :
    Step s [] { s with loops := s.loops.modify index ({ · with period }) }
  /-- Anything but the end of a wait. -/
  | slot (s : Paced) (period : LoopPeriod) (marks : List SlotMark) (live : LiveSlot)
    (step : LiveSlot.Step s.live marks live) (calm : Calm s.live live) :
    Step s marks { s with live, loops := marks.foldl (s.heed period) s.loops }
  | timeout (s : Paced) (index : Nat) (l : Loop) (waiting : s.live.slot.phase? index = some .waiting)
    (loop : s.loops[index]? = some l) (stays : l.leaving = false) (empty : l.channel.held = 0)
    (due : l.deadline ≤ s.now) :
    Step s [] { s with live := { s.live with slot := s.live.slot.update index Worker.again } }
  | receive (s : Paced) (index : Nat) (l : Loop) (waiting : s.live.slot.phase? index = some .waiting)
    (loop : s.loops[index]? = some l) (stays : l.leaving = false) (full : 0 < l.channel.held) :
    Step s [] { s with loops := s.loops.modify index Loop.receive }
  | exit (s : Paced) (index : Nat) (l : Loop) (waiting : s.live.slot.phase? index = some .waiting)
    (loop : s.loops[index]? = some l) (leaving : l.leaving = true) :
    Step s [.reported (.worker ⟨.debug, s!"{s.live.slot.id} worker stopped"⟩)]
      { s with
        live := { s.live with slot := s.live.slot.update index Worker.halt }
        loops := s.loops.modify index Loop.close }

/-! ## Signals and channels -/

/-- A worker is signalled as long as there is a signal in its channel, or it has read one. -/
structure Agree (w : Worker) (l : Loop) : Prop where
  held : l.channel.held ≤ 1
  connected : w.isAlive = true → l.channel.connected = true
  signalled : w.isAlive = true → (w.signalled = true ↔ l.channel.held = 1 ∨ l.leaving = true)

def Sound (s : Paced) : Prop := List.Forall₂ Agree s.live.slot.workers s.loops

namespace Agree

variable {w : Worker} {l : Loop}

theorem create (now : Nat) (period : LoopPeriod) : Agree {} (.create now period) :=
  ⟨Nat.zero_le _, fun _ => rfl, fun _ => by simp [Loop.create]⟩

theorem held_trySend (h : Agree w l) (alive : w.isAlive = true) : l.trySend.channel.held = 1 := by
  have held := h.held
  unfold Loop.trySend Channel.trySend Channel.capacity
  by_cases room : l.channel.held < 1
  · rw [if_pos ⟨h.connected alive, room⟩]
    dsimp only
    omega
  · rw [if_neg fun both => room both.2]
    dsimp only
    omega

theorem trySend (h : Agree w l) : Agree w.signal l.trySend := by
  have held := h.held
  constructor
  · unfold Loop.trySend Channel.trySend Channel.capacity
    split
    · dsimp only
      omega
    · exact held
  · intro alive
    rw [w.isAlive_signal] at alive
    unfold Loop.trySend Channel.trySend
    split
    · exact h.connected alive
    · exact h.connected alive
  · intro alive
    rw [w.isAlive_signal] at alive
    exact iff_of_true (Worker.signalled_signal alive) (.inl (h.held_trySend alive))

theorem enter (h : Agree w l) (now : Nat) : Agree w.enter (l.restart now) := by
  have signalled : w.enter.signalled = w.signalled := by
    unfold Worker.enter
    split <;> rfl
  constructor
  · exact h.held
  · rw [w.isAlive_enter]
    exact h.connected
  · rw [w.isAlive_enter, signalled]
    exact h.signalled

theorem leave (h : Agree w l) (working : w.phase = .working) (now : Nat) (panicked : Bool) :
    Agree (w.leave panicked) (l.leave now panicked) := by
  have alive : w.isAlive = true := by simp [Worker.isAlive, working]
  unfold Worker.leave
  rw [if_pos working]
  cases panicked with
  | true => exact ⟨h.held, fun none => by simp [Worker.isAlive] at none, fun none => by simp [Worker.isAlive] at none⟩
  | false => exact ⟨h.held, fun _ => h.connected alive, fun _ => h.signalled alive⟩

theorem again (h : Agree w l) : Agree w.again l := by
  unfold Worker.again
  split
  · next waiting =>
    have alive : w.isAlive = true := by simp [Worker.isAlive, waiting]
    exact ⟨h.held, fun _ => h.connected alive, fun _ => h.signalled alive⟩
  · exact h

theorem receive (h : Agree w l) (full : 0 < l.channel.held) : Agree w l.receive := by
  have held := h.held
  constructor
  · unfold Loop.receive Channel.receive
    dsimp only
    omega
  · exact h.connected
  · intro alive
    exact iff_of_true ((h.signalled alive).2 (.inl (by omega))) (.inr rfl)

theorem halt (h : Agree w l) (waiting : w.phase = .waiting) : Agree w.halt l.close := by
  unfold Worker.halt
  rw [if_pos waiting]
  exact ⟨h.held, fun none => by simp [Worker.isAlive] at none, fun none => by simp [Worker.isAlive] at none⟩

end Agree

variable {s t : Paced} {trace marks : List SlotMark} {index : Nat}

theorem foldl_heed_said {α : Type} (s : Paced) (period : LoopPeriod) (loops : List Loop) (x : Traced ThreadReport α) :
    (LiveSlot.said x).foldl (s.heed period) loops = loops := by
  unfold LiveSlot.said
  induction x.reports with
  | nil => rfl
  | cons report rest ih => exact ih

theorem phase?_wake_ne (slot : WorkerSlot) (index : Nat) :
    (slot.update index Worker.wake).phase? index ≠ some .waiting := by
  unfold WorkerSlot.phase? WorkerSlot.update
  rw [List.getElem?_modify_eq]
  cases slot.workers[index]? with
  | none => exact fun none => by cases none
  | some w =>
    obtain ⟨phase, signalled, calls⟩ := w
    cases phase <;> cases signalled <;> simp [Worker.wake]

/-- What a step of the slot does to a worker, it does to its loop. -/
theorem Sound.slot (sound : s.Sound) {live : LiveSlot} (step : LiveSlot.Step s.live marks live)
    (calm : Calm s.live live) (period : LoopPeriod) :
    List.Forall₂ Agree live.slot.workers (marks.foldl (s.heed period) s.loops) := by
  have requested {caller : Caller} {slot : WorkerSlot} {out : Option Nat} (p : Party)
      (h : (s.live.slot.requestStop caller).result = (slot, out)) :
      List.Forall₂ Agree slot.workers (s.heed period s.loops (.stopCalled p)) := by
    unfold heed
    rcases WorkerSlot.requestStop_eq_iff.1 h with
      ⟨empty, rfl, -⟩ | ⟨index, tracked, -, rfl, -⟩ | ⟨index, tracked, -, rfl, -⟩
    · rw [empty]
      exact sound
    · rw [tracked]
      exact forall₂_modify sound index _ _ fun _ _ _ _ agree => agree.trySend
    · rw [tracked]
      exact forall₂_modify sound index _ _ fun _ _ _ _ agree => agree.trySend
  cases step with
  | start p slot free accepted =>
    obtain ⟨-, rfl⟩ := WorkerSlot.start_eq_ok_iff.1 accepted
    rw [List.foldl_cons, foldl_heed_said]
    exact List.rel_append sound (.cons (Agree.create s.now period) .nil)
  | refuse =>
    rw [List.foldl_cons, foldl_heed_said]
    exact sound
  | starve =>
    rw [List.foldl_cons, foldl_heed_said, WorkerSlot.result_reap]
    exact sound
  | ask | log => exact sound
  | signal p slot free left =>
    rw [List.cons_append, List.foldl_cons, List.foldl_append, foldl_heed_said]
    exact requested p left
  | takeOut p slot index free taken =>
    rw [List.foldl_cons, foldl_heed_said]
    exact requested p taken
  | join =>
    rw [List.foldl_append, foldl_heed_said]
    exact sound
  | enter index poised => exact forall₂_modify sound index _ _ fun _ _ _ _ agree => agree.enter s.now
  | leave index panicked free =>
    refine forall₂_modify sound index _ _ fun w l there _ agree => ?_
    exact agree.leave (WorkerSlot.phase_of_phase? there free.1) s.now panicked
  | wake index waiting =>
    have still := calm index waiting
    rw [WorkerSlot.result_wake] at still
    exact absurd still (phase?_wake_ne _ _)

theorem Sound.step (sound : s.Sound) (h : Step s marks t) : t.Sound := by
  have loops (index : Nat) (g : Loop → Loop)
      (kept : ∀ w l, s.live.slot.workers[index]? = some w → s.loops[index]? = some l → Agree w l → Agree w (g l)) :
      List.Forall₂ Agree s.live.slot.workers (s.loops.modify index g) := by
    have both := forall₂_modify sound index id g kept
    rwa [List.modify_id] at both
  cases h with
  | tick => exact sound
  | setPeriod index period =>
    exact loops index _ fun w l _ _ agree => ⟨agree.held, agree.connected, agree.signalled⟩
  | slot period marks live step calm => exact sound.slot step calm period
  | timeout index l waiting loop stays empty due =>
    have both := forall₂_modify sound index Worker.again id fun w l _ _ agree => agree.again
    rwa [List.modify_id] at both
  | receive index l waiting loop stays full =>
    refine loops index _ fun w l' _ there agree => agree.receive ?_
    obtain rfl := Option.some.inj (loop.symm.trans there)
    exact full
  | exit index l waiting loop leaving =>
    exact forall₂_modify sound index _ _ fun w l there _ agree =>
      agree.halt (WorkerSlot.phase_of_phase? there waiting)

/-! ## The slot by itself -/

/-- Whoever waits is signalled exactly if it has a signal to read, or has read one. -/
theorem Sound.of_waiting (sound : s.Sound) (waiting : s.live.slot.phase? index = some .waiting) :
    ∃ w l, s.live.slot.workers[index]? = some w ∧ s.loops[index]? = some l ∧ w.phase = .waiting ∧
      l.channel.held ≤ 1 ∧ (w.signalled = true ↔ l.channel.held = 1 ∨ l.leaving = true) := by
  obtain ⟨w, there, at_⟩ := Option.map_eq_some_iff.1 waiting
  obtain ⟨l, loop, agree⟩ := exists_of_forall₂ sound there
  exact ⟨w, l, there, loop, at_, agree.held, agree.signalled (by simp [Worker.isAlive, at_])⟩

/-- At the end of a wait, the channel decides as the signal does. -/
theorem wake_of_signalled {slot : WorkerSlot} {w : Worker} (there : slot.workers[index]? = some w)
    (waiting : w.phase = .waiting) (signalled : w.signalled = true) :
    (slot.wake index).result = slot.update index Worker.halt ∧
      LiveSlot.said (slot.wake index) = [.reported (.worker ⟨.debug, s!"{slot.id} worker stopped"⟩)] := by
  constructor
  · rw [WorkerSlot.result_wake]
    refine WorkerSlot.update_congr fun v at_ => ?_
    obtain rfl := Option.some.inj (there.symm.trans at_)
    exact Worker.wake_of_signalled signalled
  · have off : slot.workers[index]?.any Worker.isCalledOff = true := by
      simp [there, Worker.isCalledOff, waiting, signalled]
    rw [LiveSlot.said, WorkerSlot.wake, off]
    rfl

theorem wake_of_quiet {slot : WorkerSlot} {w : Worker} (there : slot.workers[index]? = some w)
    (quiet : w.signalled = false) :
    (slot.wake index).result = slot.update index Worker.again ∧ LiveSlot.said (slot.wake index) = [] := by
  constructor
  · rw [WorkerSlot.result_wake]
    refine WorkerSlot.update_congr fun v at_ => ?_
    obtain rfl := Option.some.inj (there.symm.trans at_)
    exact Worker.wake_of_quiet quiet
  · have off : slot.workers[index]?.any Worker.isCalledOff = false := by simp [there, Worker.isCalledOff, quiet]
    rw [LiveSlot.said, WorkerSlot.wake, off]
    rfl

theorem Step.live (h : Step s marks t) (sound : s.Sound) :
    LiveSlot.Step s.live marks t.live ∨ (marks = [] ∧ t.live = s.live) := by
  cases h with
  | tick | setPeriod | receive => exact .inr ⟨rfl, rfl⟩
  | slot period marks live step calm => exact .inl step
  | timeout index l waiting loop stays empty due =>
    obtain ⟨w, l', there, loop', at_, -, decides⟩ := sound.of_waiting waiting
    obtain rfl := Option.some.inj (loop.symm.trans loop')
    have quiet : w.signalled = false := by
      rw [← Bool.not_eq_true, decides, empty, stays]
      simp
    obtain ⟨result, silent⟩ := wake_of_quiet there quiet
    have woken := LiveSlot.Step.wake s.live index waiting
    rw [result, silent] at woken
    exact .inl woken
  | exit index l waiting loop leaving =>
    obtain ⟨w, l', there, loop', at_, -, decides⟩ := sound.of_waiting waiting
    obtain rfl := Option.some.inj (loop.symm.trans loop')
    obtain ⟨result, said⟩ := wake_of_signalled there at_ (decides.2 (.inr leaving))
    have woken := LiveSlot.Step.wake s.live index waiting
    rw [result, said] at woken
    exact .inl woken

theorem live_of_steps (run : Steps Step s trace t) (sound : s.Sound) :
    Steps LiveSlot.Step s.live trace t.live ∧ t.Sound := by
  induction run with
  | refl => exact ⟨.refl, sound⟩
  | @tail trace marks u v _ step ih =>
    obtain ⟨before, sound⟩ := ih
    refine ⟨?_, sound.step step⟩
    rcases step.live sound with live | ⟨rfl, same⟩
    · exact .tail before live
    · rw [same, List.append_nil]
      exact before

/-- Every step but the end of a wait leaves those who wait where they are. -/
theorem calm_or_wake {s t : LiveSlot} (h : LiveSlot.Step s marks t) :
    Calm s t ∨ ∃ index, s.slot.phase? index = some .waiting ∧ marks = LiveSlot.said (s.slot.wake index) ∧
      t = { s with slot := (s.slot.wake index).result } := by
  have elsewhere (i : Nat) (step : Worker → Worker) {phase : WorkerPhase} (at_ : s.slot.phase? i = some phase)
      (other : phase ≠ .waiting) : Calm s { s with slot := s.slot.update i step } := by
    intro index waiting
    have apart : i ≠ index := by
      rintro rfl
      exact other (Option.some.inj (at_.symm.trans waiting))
    exact (WorkerSlot.phase?_update_of_ne apart).trans waiting
  cases h with
  | start p slot free accepted =>
    obtain ⟨-, rfl⟩ := WorkerSlot.start_eq_ok_iff.1 accepted
    exact .inl fun index waiting => WorkerSlot.phase?_spawned waiting
  | refuse | ask | log | join => exact .inl fun _ waiting => waiting
  | starve =>
    rw [WorkerSlot.result_reap]
    exact .inl fun _ waiting => waiting
  | signal p slot free left => exact .inl fun _ waiting => (WorkerSlot.phase?_requestStop left).trans waiting
  | takeOut p slot out free taken => exact .inl fun _ waiting => (WorkerSlot.phase?_requestStop taken).trans waiting
  | enter i poised => exact .inl (elsewhere i _ poised (by simp))
  | leave i panicked free => exact .inl (elsewhere i _ free.1 (by simp))
  | wake index waiting => exact .inr ⟨index, waiting, rfl, rfl⟩

/-- Whatever the slot can do by itself, it can do with the loops, whatever their periods: when a wait is to end, there
is a signal for the worker to read, or time passes until its deadline. -/
theorem Sound.steps_of_live (sound : s.Sound) {live : LiveSlot} (h : LiveSlot.Step s.live marks live) :
    ∃ t, Steps Step s marks t ∧ t.live = live := by
  rcases calm_or_wake h with calm | ⟨index, waiting, rfl, rfl⟩
  · exact ⟨_, .single (.slot s ⟨0⟩ marks live h calm), rfl⟩
  obtain ⟨w, l, there, loop, at_, held, decides⟩ := sound.of_waiting waiting
  cases signalled : w.signalled with
  | true =>
    obtain ⟨result, said⟩ := wake_of_signalled there at_ signalled
    rw [result, said]
    cases leaving : l.leaving with
    | true => exact ⟨_, .single (.exit s index l waiting loop leaving), rfl⟩
    | false =>
      have full : l.channel.held = 1 := (decides.1 signalled).resolve_right (by simp [leaving])
      have read := Step.receive s index l waiting loop leaving (by omega)
      refine ⟨_, (Steps.single read).tail (.exit _ index l.receive waiting ?_ rfl), rfl⟩
      rw [List.getElem?_modify_eq, loop]
      rfl
  | false =>
    have neither : ¬ (l.channel.held = 1 ∨ l.leaving = true) := by
      rw [← decides, signalled]
      exact Bool.false_ne_true
    obtain ⟨empty, stays⟩ := not_or.1 neither
    obtain ⟨result, silent⟩ := wake_of_quiet there signalled
    rw [result, silent]
    -- With nothing to read, it takes time to end the wait.
    have passed := Step.tick s (max s.now l.deadline) (Nat.le_max_left _ _)
    refine ⟨_, (Steps.single passed).tail (.timeout _ index l waiting loop ?_ ?_ (Nat.le_max_right _ _)), rfl⟩
    · exact Bool.not_eq_true _ ▸ stays
    · omega

/-- The periods and the clock neither add runs of the slot nor take any away. -/
theorem steps_iff (id : NodeId) (now : Nat) (trace : List SlotMark) (live : LiveSlot) :
    Steps LiveSlot.Step { slot := { id } } trace live ↔ ∃ s, Steps Step (create id now) trace s ∧ s.live = live := by
  constructor
  · intro run
    induction run with
    | refl => exact ⟨create id now, .refl, rfl⟩
    | tail _ step ih =>
      obtain ⟨s, before, rfl⟩ := ih
      obtain ⟨t, more, same⟩ := (live_of_steps before .nil).2.steps_of_live step
      exact ⟨t, before.append more, same⟩
  · rintro ⟨s, run, rfl⟩
    exact (live_of_steps run .nil).1

/-! ## Stop requests -/

theorem calm_of_mark {s t : LiveSlot} (h : LiveSlot.Step s marks t) {m : SlotMark} (hm : m ∈ marks)
    (said : ∀ report, m ≠ .reported report) : Calm s t := by
  rcases calm_or_wake h with calm | ⟨index, -, rfl, -⟩
  · exact calm
  · exact absurd hm (LiveSlot.not_mem_said said _)

theorem Step.of_mark {live : LiveSlot} (period : LoopPeriod) (h : LiveSlot.Step s.live marks live) {m : SlotMark}
    (hm : m ∈ marks) (said : ∀ report, m ≠ .reported report) :
    Step s marks { s with live, loops := marks.foldl (s.heed period) s.loops } :=
  .slot s period marks live h (calm_of_mark h hm said)

theorem exists_stopCalled {p : Party} (free : s.live.IsFree p) : ∃ marks t, Step s marks t ∧ .stopCalled p ∈ marks := by
  obtain ⟨marks, live, step, called⟩ : ∃ marks live, LiveSlot.Step s.live marks live ∧ .stopCalled p ∈ marks := by
    cases h : (s.live.slot.requestStop p.caller).result with
    | mk slot out =>
      cases out with
      | none => exact ⟨_, _, .signal s.live p slot free h, by simp⟩
      | some index => exact ⟨_, _, .takeOut s.live p slot index free h, by simp⟩
  exact ⟨marks, _, .of_mark ⟨0⟩ step called (by simp), called⟩

theorem foldl_heed_stopCalled {p : Party} {live : LiveSlot} (h : LiveSlot.Step s.live marks live)
    (called : .stopCalled p ∈ marks) (period : LoopPeriod) :
    marks.foldl (s.heed period) s.loops = s.heed period s.loops (.stopCalled p) := by
  have not_said {α : Type} (x : Traced ThreadReport α) : .stopCalled p ∉ LiveSlot.said x :=
    LiveSlot.not_mem_said (by simp) x
  cases h with
  | signal q slot free left =>
    rw [List.cons_append, List.foldl_cons, List.foldl_append, foldl_heed_said]
    rfl
  | takeOut q slot out free taken =>
    rw [List.foldl_cons, foldl_heed_said]
    rfl
  | _ => simp [not_said] at called

theorem Sound.held_of_stopCalled {p : Party} (sound : s.Sound) (h : Step s marks t)
    (tracked : s.live.slot.tracked = some index) (called : .stopCalled p ∈ marks)
    (alive : t.live.slot.isLive index = true) : ∃ l, t.loops[index]? = some l ∧ l.channel.held = 1 := by
  cases h with
  | slot period marks live step calm =>
    obtain ⟨-, stopped⟩ := step.stopping called
    have old : live.slot.workers.length = s.live.slot.workers.length := by
      rcases stopped with ⟨left, -⟩ | ⟨i, taken, -⟩
      · exact LiveSlot.length_requestStop left
      · exact LiveSlot.length_requestStop taken
    have before := step.isLive_of_old (old ▸ WorkerSlot.lt_length_of_isLive alive) alive
    obtain ⟨w, there, living⟩ := WorkerSlot.isLive_iff.1 before
    obtain ⟨l, loop, agree⟩ := exists_of_forall₂ sound there
    refine ⟨l.trySend, ?_, agree.held_trySend living⟩
    rw [foldl_heed_stopCalled step called, heed, tracked]
    dsimp only
    rw [List.getElem?_modify_eq, loop]
    rfl
  | _ => simp at called

theorem interrupted {l : Loop} (waiting : s.live.slot.phase? index = some .waiting)
    (loop : s.loops[index]? = some l) (full : 0 < l.channel.held) :
    ∃ marks t, Steps Step s marks t ∧ t.live.slot.isLive index = false ∧ t.now = s.now := by
  have ends (u : Paced) (same : u.live = s.live) :
      (u.live.slot.update index Worker.halt).isLive index = false := by
    obtain ⟨w, there, at_⟩ := Option.map_eq_some_iff.1 waiting
    rw [same, WorkerSlot.isLive, WorkerSlot.getElem?_update there, if_pos rfl]
    simp [Worker.halt, at_, Worker.isAlive]
  cases leaving : l.leaving with
  | true => exact ⟨_, _, .single (.exit s index l waiting loop leaving), ends s rfl, rfl⟩
  | false =>
    have read := Step.receive s index l waiting loop leaving full
    refine ⟨_, _, (Steps.single read).tail (.exit _ index l.receive waiting ?_ rfl), ends s rfl, rfl⟩
    rw [List.getElem?_modify_eq, loop]
    rfl

/-! ## The result -/

/-- How often a worker calls its body, and what becomes of the signals for it, wherever a run has come to. -/
structure Counted (trace : List SlotMark) (s : Paced) : Prop where
  /-- Every worker has its channel, and as long as it is alive somebody holds the other end. -/
  paired : s.loops.length = s.live.slot.workers.length
  sender : s.live.Accounted
  held : ∀ l ∈ s.loops, l.channel.held ≤ 1
  /-- A worker does not end before its first call, and nothing keeps it from that one. -/
  once : ∀ p index, .started p index ∈ trace → s.live.slot.isLive index = false → 1 ≤ bodyCalls index trace
  first : ∀ p index, .started p index ∈ trace → bodyCalls index trace = 0 → ∃ t, Step s [.entered index] t
  request : ∀ p, s.live.IsFree p → ∃ marks t, Step s marks t ∧ .stopCalled p ∈ marks
  placed : ∀ p index marks t, s.live.slot.tracked = some index → Step s marks t → .stopCalled p ∈ marks →
    t.live.slot.isLive index = true → ∃ l, t.loops[index]? = some l ∧ l.channel.held = 1
  /-- With a signal before it, it makes the call that it was about to make, and no other. -/
  calledOff : ∀ (index : Nat) (l : Loop) later u, s.loops[index]? = some l → 0 < l.channel.held →
    Steps Step s later u → bodyCalls index later ≤ if s.live.slot.phase? index = some .poised then 1 else 0
  interrupted : ∀ (index : Nat) (l : Loop), s.live.slot.phase? index = some .waiting → s.loops[index]? = some l →
    0 < l.channel.held → ∃ marks t, Steps Step s marks t ∧ t.live.slot.isLive index = false ∧ t.now = s.now
  /-- The call in which the newest worker asks for its own stop is its last. -/
  stopsItself : ∀ index marks t later u, index + 1 = s.live.slot.workers.length → Step s marks t →
    .stopCalled (.worker index) ∈ marks → Steps Step t later u →
    1 ≤ bodyCalls index trace ∧ bodyCalls index (trace ++ marks ++ later) = bodyCalls index trace
  panicked : ∀ index marks t later u, Step s marks t → .left index true ∈ marks → Steps Step t later u →
    1 ≤ bodyCalls index trace ∧ bodyCalls index (trace ++ marks ++ later) = bodyCalls index trace

theorem Sound.calledOff (sound : s.Sound) {l : Loop} (run : Steps Step s trace t) (loop : s.loops[index]? = some l)
    (full : 0 < l.channel.held) :
    bodyCalls index trace ≤ if s.live.slot.phase? index = some .poised then 1 else 0 := by
  obtain ⟨live, -⟩ := live_of_steps run sound
  obtain ⟨w, there, agree⟩ := exists_of_forall₂ sound.flip loop
  have held := agree.held
  have phase : s.live.slot.phase? index = some w.phase := by simp [WorkerSlot.phase?, there]
  by_cases alive : w.isAlive = true
  · have due := LiveSlot.bodyCalls_le_of_signalled live there ((agree.signalled alive).2 (.inl (by omega)))
    rw [phase]
    simpa [Worker.callsDue] using due
  · -- A signal that nobody has read may be left over when a body panics.
    have ended : s.live.slot.isLive index = false := by simpa [WorkerSlot.isLive, there] using alive
    have old := (List.getElem?_eq_some_iff.1 there).1
    rw [bodyCalls_eq_zero_iff.2 (LiveSlot.not_entered_of_ended live old ended)]
    exact Nat.zero_le _

theorem bodyCalls_of_last {id : NodeId} {live next : LiveSlot} {later : List SlotMark}
    (run : Steps LiveSlot.Step { slot := { id } } trace live) (step : LiveSlot.Step live marks next)
    (working : live.slot.phase? index = some .working) (last : bodyCalls index later = 0) :
    1 ≤ bodyCalls index trace ∧ bodyCalls index (trace ++ marks ++ later) = bodyCalls index trace := by
  obtain ⟨w, there, at_⟩ := Option.map_eq_some_iff.1 working
  refine ⟨(LiveSlot.tallied_of_run run).one_le there (by simp [at_]), ?_⟩
  rw [bodyCalls_append, bodyCalls_append, step.bodyCalls_of_working working, last]
  rfl

theorem Step.live_of_mem (h : Step s marks t) (sound : s.Sound) {m : SlotMark} (hm : m ∈ marks) :
    LiveSlot.Step s.live marks t.live := by
  rcases h.live sound with live | ⟨rfl, -⟩
  · exact live
  · exact absurd hm List.not_mem_nil

/-- Whatever the bodies do, however the periods change and in whatever order the workers, those who ask them to stop
and the clock take their steps: what is known of the calls and of the signals holds. -/
theorem counted_of_run {id : NodeId} {now : Nat} (run : Steps Step (create id now) trace s) : Counted trace s := by
  obtain ⟨live, sound⟩ := live_of_steps run .nil
  have tallied := LiveSlot.tallied_of_run live
  have worker {p : Party} {index : Nat} (started : .started p index ∈ trace) :
      ∃ w, s.live.slot.workers[index]? = some w :=
    ⟨_, List.getElem?_eq_getElem (LiveSlot.lt_length_of_started live started)⟩
  constructor
  case paired => exact sound.length_eq.symm
  case sender => exact (LiveSlot.accounted_new id).run live
  case held =>
    intro l there
    obtain ⟨index, loop⟩ := List.mem_iff_getElem?.1 there
    obtain ⟨w, -, agree⟩ := exists_of_forall₂ sound.flip loop
    exact agree.held
  case once =>
    intro p index started ended
    obtain ⟨w, there⟩ := worker started
    refine tallied.one_le there fun poised => ?_
    rw [WorkerSlot.isLive, there] at ended
    simp [Worker.isAlive, poised] at ended
  case first =>
    intro p index started none
    obtain ⟨w, there⟩ := worker started
    have poised : w.phase = .poised := by
      by_contra begun
      have one := tallied.one_le there begun
      omega
    have step := LiveSlot.Step.enter s.live index (by simp [WorkerSlot.phase?, there, poised])
    exact ⟨_, .of_mark ⟨0⟩ step List.mem_cons_self (by simp)⟩
  case request =>
    intro p free
    exact exists_stopCalled free
  case placed =>
    intro p index marks t tracked step called alive
    exact sound.held_of_stopCalled step tracked called alive
  case calledOff =>
    intro index l later u loop full after
    exact sound.calledOff after loop full
  case interrupted =>
    intro index l waiting loop full
    exact interrupted waiting loop full
  case stopsItself =>
    intro index marks t later u newest step called after
    have now := step.live_of_mem sound called
    obtain ⟨w, there, working, signalled⟩ :=
      now.signalled_of_stopSelf (LiveSlot.minded_of_run live) newest called
    have last := LiveSlot.bodyCalls_le_of_signalled (live_of_steps after (sound.step step)).1 there signalled
    -- It is inside its body when it is signalled, so there is no call that it is about to make.
    rw [Worker.callsDue, working, if_neg (by simp)] at last
    exact bodyCalls_of_last live now (now.stopping called).1.1 (Nat.le_zero.1 last)
  case panicked =>
    intro index marks t later u step called after
    have now := step.live_of_mem sound called
    obtain ⟨working, ended⟩ := now.ended_of_panic called
    have old := (WorkerSlot.lt_length_of_isLive (WorkerSlot.isLive_of_working working)).trans_le now.length_le
    have last := LiveSlot.not_entered_of_ended (live_of_steps after (sound.step step)).1 old ended
    exact bodyCalls_of_last live now working (bodyCalls_eq_zero_iff.2 last)

/-- A worker that is about to make its second call, when somebody waits for its end. -/
def asked : Paced where
  live := { slot := { id := .dbLogger, workers := [⟨.poised, true, 1⟩] }, joins := [(.outsider 0, 0)] }
  loops := [{ channel := { held := 1 }, period := ⟨0⟩, watch := ⟨0, true, 0⟩ }]
  now := 0

/-- With no time to wait it goes round at once. It makes the second call, and reads the signal after that. -/
theorem counted_of_run_asked : ∃ trace later u, Steps Step (create .dbLogger 0) trace asked ∧
    Steps Step asked later u ∧ bodyCalls 0 trace = 1 ∧ bodyCalls 0 later = 1 ∧ u.live.slot.isLive 0 = false ∧
    Counted trace asked := by
  have free (slot : WorkerSlot) : LiveSlot.IsFree ⟨slot, []⟩ (.outsider 0) := fun _ => List.not_mem_nil
  have inside (slot : WorkerSlot) (joins : List (Party × Nat)) (working : slot.phase? 0 = some .working)
      (others : ∀ index, (.worker 0, index) ∉ joins) : LiveSlot.IsFree ⟨slot, joins⟩ (.worker 0) := ⟨working, others⟩
  have started : Steps Step (create .dbLogger 0) _ _ :=
    .single (.of_mark ⟨0⟩ (.start _ (.outsider 0) _ (free _) rfl) List.mem_cons_self (by simp))
  have called := started.tail (.of_mark ⟨0⟩ (.enter _ 0 rfl) List.mem_cons_self (by simp))
  have waits := called.tail
    (.of_mark ⟨0⟩ (.leave _ 0 false (inside _ _ rfl (by simp [create]))) List.mem_cons_self (by simp))
  have again := waits.tail (.timeout _ 0 _ rfl rfl rfl rfl (Nat.le_refl 0))
  have taken : Steps Step (create .dbLogger 0) _ asked :=
    again.tail (.of_mark ⟨0⟩ (.takeOut _ (.outsider 0) _ 0 (free _) rfl) List.mem_cons_self (by simp))
  have second : Steps Step asked _ _ := .single (.of_mark ⟨0⟩ (.enter _ 0 rfl) List.mem_cons_self (by simp))
  have last := second.tail
    (.of_mark ⟨0⟩ (.leave _ 0 false (inside _ _ rfl (by simp [asked]))) List.mem_cons_self (by simp))
  have finished := (last.tail (.receive _ 0 _ rfl rfl rfl Nat.one_pos)).tail (.exit _ 0 _ rfl rfl rfl)
  exact ⟨_, _, _, taken, finished, rfl, rfl, rfl, counted_of_run taken⟩

end Paced

end VesselBus
