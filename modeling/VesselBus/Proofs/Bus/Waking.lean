import VesselBus.Proofs.Bus.Order
import VesselBus.Proofs.Bus.Parking

/-!
# The dispatcher does not oversleep

A dispatcher that is parked has seen an empty queue and no stop under the lock. Whoever changes that comes after it,
and still has a notification to give as long as none has arrived.
-/

namespace VesselBus

namespace WakingBus

variable {ω : Type} {crew : Crew ω} {trace marks : List Mark} {s t : WakingBus ω} {u v : User} {p q : Place}

/-! ## The lock -/

/-- Whoever is where only the holder of the lock can be holds it. -/
def Guarded (s : WakingBus ω) : Prop := ∀ u, (s.place u).holds = true ↔ s.holder = some u

theorem Guarded.congr (inv : Guarded s) (place : t.place = s.place) (holder : t.holder = s.holder) : Guarded t := by
  intro v
  rw [place, holder]
  exact inv v

theorem Guarded.move (inv : Guarded s) (same : p.holds = (s.place u).holds) : Guarded (s.move u p) := by
  intro v
  by_cases h : v = u
  · subst h
    rw [place_move_self, same]
    exact inv v
  · rw [place_move_of_ne _ _ _ h]
    exact inv v

theorem Guarded.lock (inv : Guarded s) (free : s.holder = none) (holds : p.holds = true) : Guarded (s.lock u p) := by
  intro v
  by_cases h : v = u
  · simp [h, holds, WakingBus.lock]
  · have outside : (s.place v).holds = false := by
      rw [← Bool.not_eq_true, inv v, free]
      nofun
    rw [place_lock, place_move_of_ne _ _ _ h, outside]
    simp [WakingBus.lock, Ne.symm h]

theorem Guarded.unlock (inv : Guarded s) (held : (s.place u).holds = true) (lets : p.holds = false) :
    Guarded (s.unlock u p) := by
  intro v
  by_cases h : v = u
  · simp [h, lets, WakingBus.unlock]
  · have outside : (s.place v).holds = false := by
      rw [← Bool.not_eq_true, inv v, (inv u).1 held]
      simp [Ne.symm h]
    rw [place_unlock, place_move_of_ne _ _ _ h, outside]
    simp [WakingBus.unlock]

theorem Guarded.notify (inv : Guarded s) : Guarded s.notify := inv.move (Place.holds_woken _)

theorem Guarded.one (inv : Guarded s) (hu : (s.place u).holds = true) (hv : (s.place v).holds = true) : u = v := by
  have same := (inv u).1 hu
  rw [(inv v).1 hv] at same
  exact (Option.some.inj same).symm

theorem holds_notify (s : WakingBus ω) (u : User) : (s.notify.place u).holds = (s.place u).holds := by
  by_cases h : u = .dispatcher
  · rw [h, place_notify_self, Place.holds_woken]
  · rw [place_notify_of_ne _ h]

theorem Guarded.step (inv : Guarded s) (h : Step crew s marks t) : Guarded t := by
  cases h with
  | disturb | elapse | advance => exact inv.congr rfl rfl
  | lockToLook _ _ free | lockToSend _ _ _ free | lockToReply _ _ _ _ _ _ _ _ _ free | lockToHail _ _ free
  | lockToTest _ _ _ _ free | lockAgain _ free | lockToSwap _ _ free => exact inv.lock free rfl
  | letGo _ at_ | finish _ at_ | park at_ => exact inv.unlock (by rw [at_]; rfl) rfl
  | notifyOne _ at_ | notifyAll _ at_ => exact inv.notify.move (by rw [holds_notify, at_]; rfl)
  | append _ _ _ at_ | reply _ _ _ _ _ _ _ at_ | raise _ at_ | halt _ _ _ _ _ at_ | swap _ at_ | close at_ =>
    exact (inv.move (by rw [at_]; rfl)).congr rfl rfl
  | find at_ | findNothing at_ | giveUp at_ | rouse _ at_ => exact inv.move (by rw [at_]; rfl)

/-! ## Notifications to come -/

/-- For all there is to wake up for, somebody has yet to give a notification. -/
structure Told (s : WakingBus ω) : Prop where
  work : s.live.bus.queue.front ≠ [] → ∃ u, (s.place u).owesOne = true
  stop : s.live.bus.queue.stopRequested = true → ∃ u, (s.place u).owesAll = true

/-- What one thread owes is kept while it moves on, unless it was nothing. -/
theorem exists_of_moved {owes : Place → Bool} (h : s.place u = q) (kept : owes q = true → owes p = true)
    (someone : ∃ v, owes (s.place v) = true) : ∃ v, owes ((s.move u p).place v) = true := by
  obtain ⟨v, debt⟩ := someone
  by_cases same : v = u
  · subst same
    rw [h] at debt
    exact ⟨v, by rw [place_move_self]; exact kept debt⟩
  · exact ⟨v, by rwa [place_move_of_ne _ _ _ same]⟩

theorem Told.move (inv : Told s) (h : s.place u = q) (one : q.owesOne = true → p.owesOne = true)
    (all : q.owesAll = true → p.owesAll = true) : Told (s.move u p) where
  work more := exists_of_moved h one (inv.work more)
  stop stopping := exists_of_moved h all (inv.stop stopping)

theorem Told.congr (inv : Told s) (place : t.place = s.place)
    (queue : t.live.bus.queue = s.live.bus.queue) : Told t where
  work := by rw [place, queue]; exact inv.work
  stop := by rw [place, queue]; exact inv.stop

/-! ## What the dispatcher goes by -/

structure Alert (s : WakingBus ω) : Prop where
  waiting : (s.place .dispatcher).waits = true →
    s.live.bus.config.mode = .wakeOnEnqueue ∧ ∃ elapsed, s.live.stage = .waiting elapsed
  ready : s.place .dispatcher = .swapping → ∀ elapsed, s.live.stage = .waiting elapsed →
    s.live.bus.isReady elapsed = true
  empty : s.place .dispatcher = .dozing → s.live.bus.queue.front = []
  told : (s.place .dispatcher).asleep = true → Told s

theorem Alert.of_place (place : t.place .dispatcher = p)
    (waiting : p.waits = true →
      t.live.bus.config.mode = .wakeOnEnqueue ∧ ∃ elapsed, t.live.stage = .waiting elapsed)
    (ready : p = .swapping → ∀ elapsed, t.live.stage = .waiting elapsed → t.live.bus.isReady elapsed = true)
    (empty : p = .dozing → t.live.bus.queue.front = []) (told : p.asleep = true → Told t) : Alert t := by
  subst place
  exact ⟨waiting, ready, empty, told⟩

/-- A dispatcher that neither waits nor is about to swap goes by nothing. -/
theorem Alert.of_busy (waits : (t.place .dispatcher).waits = false) (swaps : t.place .dispatcher ≠ .swapping) :
    Alert t where
  waiting h := by simp [waits] at h
  ready h := absurd h swaps
  empty h := by simp [h, Place.waits] at waits
  told h := by
    cases place : t.place .dispatcher with
    | dozing | parked => simp [place, Place.waits] at waits
    | _ => simp [place, Place.asleep] at h

theorem Alert.of_awake (place : t.place .dispatcher = p) (asleep : p.asleep = false) (swaps : p ≠ .swapping)
    (waiting : t.live.bus.config.mode = .wakeOnEnqueue ∧ ∃ elapsed, t.live.stage = .waiting elapsed) : Alert t := by
  refine .of_place place (fun _ => waiting) (fun h => absurd h swaps) (fun h => ?_) (fun h => ?_)
  · rw [h] at asleep
    cases asleep
  · rw [asleep] at h
    cases h

theorem Alert.of_ready (place : t.place .dispatcher = .swapping)
    (ready : ∀ elapsed, t.live.stage = .waiting elapsed → t.live.bus.isReady elapsed = true) : Alert t :=
  .of_place place (by rintro ⟨⟩) (fun _ => ready) (by rintro ⟨⟩) (by rintro ⟨⟩)

/-- What others do is no matter as long as the dispatcher stays where it is and its reasons stand. -/
theorem Alert.keep (inv : Alert s) (place : t.place .dispatcher = s.place .dispatcher)
    (stage : t.live.stage = s.live.stage) (config : t.live.bus.config = s.live.bus.config)
    (ready : ∀ elapsed, s.live.bus.isReady elapsed = true → t.live.bus.isReady elapsed = true)
    (front : (s.place .dispatcher).holds = true → t.live.bus.queue.front = s.live.bus.queue.front)
    (told : Told s → Told t) : Alert t where
  waiting h := by rw [config, stage]; exact inv.waiting (place ▸ h)
  ready h elapsed at_ := ready elapsed (inv.ready (place ▸ h) elapsed (stage ▸ at_))
  empty h := by
    rw [place] at h
    rw [front (by rw [h]; rfl)]
    exact inv.empty h
  told h := told (inv.told (place ▸ h))

/-- A thread goes on that is not the dispatcher, or is and is busy. -/
theorem Alert.shift (inv : Alert s) (h : s.place u = q) (live : t.live = s.live)
    (place : t.place = (s.move u p).place) (waits : p.waits = false) (swaps : p ≠ .swapping)
    (one : q.owesOne = true → p.owesOne = true) (all : q.owesAll = true → p.owesAll = true) : Alert t := by
  by_cases same : u = .dispatcher
  · subst same
    refine .of_busy ?_ ?_
    · rw [place, place_move_self, waits]
    · rwa [place, place_move_self]
  · refine inv.keep ?_ ?_ ?_ ?_ ?_ ?_
    · rw [place, place_move_of_ne _ _ _ (Ne.symm same)]
    · rw [live]
    · rw [live]
    · rw [live]
      exact fun _ => id
    · rw [live]
      exact fun _ => rfl
    · exact fun told => (told.move h one all).congr place (by rw [live]; rfl)

theorem isReady_of_queue {bus bus' : Bus} (config : bus'.config = bus.config)
    (front : bus.queue.front ≠ [] → bus'.queue.front ≠ [])
    (stop : bus.queue.stopRequested = true → bus'.queue.stopRequested = true) (elapsed : Bool)
    (h : bus.isReady elapsed = true) : bus'.isReady elapsed = true := by
  unfold Bus.isReady at h ⊢
  rw [config]
  cases mode : bus.config.mode with
  | fixedInterval => simpa [mode] using h
  | wakeOnEnqueue =>
    simp only [mode, Bool.or_eq_true, Bool.not_eq_true', List.isEmpty_eq_false_iff] at h ⊢
    exact h.imp (Or.imp_right front) stop

/-- Whoever appends has a notification to give, and does it while nobody else holds the lock. -/
theorem Alert.append {n : Nat} {e : Envelope} (inv : Alert s) (guarded : Guarded s)
    (h : s.place (.other n) = .appending e) (host : Host) (m : Message) :
    Alert ((s.move (.other n) .appended).withLive { s.live with bus := s.live.bus.send host m }) := by
  have apart : User.dispatcher ≠ .other n := by rintro ⟨⟩
  refine inv.keep (place_move_of_ne s _ .appended apart) rfl rfl ?_ ?_ ?_
  · exact isReady_of_queue rfl (by simp [Bus.send, Queue.push]) id
  · intro held
    have same := guarded.one held (v := .other n) (by rw [h]; rfl)
    exact absurd same apart
  · intro told
    refine ⟨fun _ => ⟨.other n, ?_⟩, fun stopping => ?_⟩
    · show ((s.move (.other n) .appended).place (.other n)).owesOne = true
      rw [place_move_self]
      rfl
    · exact exists_of_moved h (by rintro ⟨⟩) (told.stop stopping)

/-- Whoever sets the flag has a notification to give from then on. -/
theorem Alert.raise {n : Nat} (inv : Alert s) (h : s.place (.other n) = .away) :
    Alert ((s.move (.other n) .raised).withLive { s.live with bus := s.live.bus.stop }) := by
  have apart : User.dispatcher ≠ .other n := by rintro ⟨⟩
  refine inv.keep (place_move_of_ne s _ .raised apart) rfl rfl ?_ (fun _ => rfl) ?_
  · exact isReady_of_queue rfl id (fun _ => rfl)
  · intro told
    refine ⟨fun more => ?_, fun _ => ⟨.other n, ?_⟩⟩
    · exact exists_of_moved h (by rintro ⟨⟩) (told.work more)
    · show ((s.move (.other n) .raised).place (.other n)).owesAll = true
      rw [place_move_self]
      rfl

theorem Told.notify (inv : Told s) : Told s.notify :=
  inv.move rfl (by rw [Place.owesOne_woken]; exact id) (by rw [Place.owesAll_woken]; exact id)

theorem Alert.notify (inv : Alert s) (live : t.live = s.live)
    (place : t.place .dispatcher = (s.place .dispatcher).woken)
    (told : s.place .dispatcher = .dozing → Told s → Told t) : Alert t := by
  refine .of_place place ?_ ?_ ?_ ?_
  · rw [Place.waits_woken, live]
    exact inv.waiting
  · rw [Place.woken_eq_swapping, live]
    exact inv.ready
  · rw [Place.woken_eq_dozing, live]
    exact inv.empty
  · rw [Place.asleep_woken]
    exact fun dozing => told dozing (inv.told (by rw [dozing]; rfl))

/-- A notification that comes before the dispatcher is parked is lost, but then the message came before it looked. -/
theorem Alert.notifyOne (inv : Alert s) (h : s.place u = .notifying) : Alert (s.notify.move u .away) := by
  by_cases same : u = .dispatcher
  · subst same
    exact .of_busy (by rw [place_move_self]; rfl) (by rw [place_move_self]; rintro ⟨⟩)
  · refine inv.notify rfl ?_ ?_
    · rw [place_move_of_ne _ _ _ (Ne.symm same), place_notify_self]
    · intro dozing told
      refine ⟨fun more => absurd (inv.empty dozing) more, fun stopping => ?_⟩
      exact exists_of_moved ((place_notify_of_ne _ same).trans h) (by rintro ⟨⟩) (told.notify.stop stopping)

/-- One who wakes all holds the lock, so the dispatcher is not on its way to be parked. -/
theorem Alert.notifyAll (inv : Alert s) (guarded : Guarded s) (h : s.place u = .hailing) :
    Alert (s.notify.move u .done) := by
  by_cases same : u = .dispatcher
  · subst same
    exact .of_busy (by rw [place_move_self]; rfl) (by rw [place_move_self]; rintro ⟨⟩)
  · refine inv.notify rfl ?_ ?_
    · rw [place_move_of_ne _ _ _ (Ne.symm same), place_notify_self]
    · intro dozing _
      exact absurd (guarded.one (by rw [h]; rfl) (by rw [dozing]; rfl)) same

theorem Alert.step (inv : Alert s) (guarded : Guarded s) (h : Step crew s marks t) : Alert t := by
  have waiting {q : Place} (h : s.place .dispatcher = q) (waits : q.waits = true) := inv.waiting (h ▸ waits)
  cases h with
  | disturb world => exact inv.keep rfl rfl rfl (fun _ => id) (fun _ => rfl) (·.congr rfl rfl)
  | elapse at_ =>
    refine ⟨?_, ?_, inv.empty, fun asleep => (inv.told asleep).congr rfl rfl⟩
    · exact fun waits => ⟨(inv.waiting waits).1, true, rfl⟩
    · rintro - elapsed ⟨⟩
      exact Bus.isReady_elapsed _
  | advance h step => exact .of_busy (by rw [place_withLive, h]; rfl) (by rw [place_withLive, h]; rintro ⟨⟩)
  | lockToLook n h | lockToSend n e h | lockToReply now last e r rest m next h | finish u h =>
    exact inv.shift h rfl rfl rfl (by rintro ⟨⟩) (by rintro ⟨⟩) (by rintro ⟨⟩)
  | letGo u h => exact inv.shift h rfl rfl rfl (by rintro ⟨⟩) (fun _ => rfl) (by rintro ⟨⟩)
  | lockToHail u h => exact inv.shift h rfl rfl rfl (by rintro ⟨⟩) (by rintro ⟨⟩) (fun _ => rfl)
  | append n host m h => exact inv.append guarded h host m
  | raise n h => exact inv.raise h
  | notifyOne u h => exact inv.notifyOne h
  | notifyAll u h => exact inv.notifyAll guarded h
  | reply | halt | swap | close =>
    refine .of_busy ?_ ?_
    · rw [place_withLive, place_move_self]
      rfl
    · rw [place_withLive, place_move_self]
      rintro ⟨⟩
  | lockToTest elapsed h at_ mode free =>
    exact .of_awake (place_lock_self ..) rfl (by rintro ⟨⟩) ⟨mode, elapsed, at_⟩
  | lockAgain h free => exact .of_awake (place_lock_self ..) rfl (by rintro ⟨⟩) (waiting h rfl)
  | rouse notified h => exact .of_awake (place_move_self ..) rfl (by rintro ⟨⟩) (waiting h rfl)
  -- What the dispatcher sees under the lock stays so until it lets go of it, but for the flag.
  | find h found =>
    refine .of_ready (place_move_self ..) fun elapsed _ => ?_
    rw [live_move, Bus.isReady, (waiting h rfl).1]
    simpa [or_assoc] using .inr found
  | findNothing h empty going =>
    refine .of_place (place_move_self ..) (fun _ => waiting h rfl) (by rintro ⟨⟩) (fun _ => empty) (fun _ => ?_)
    exact ⟨fun more => absurd empty more, fun stopping => by simp [going] at stopping⟩
  | park h at_ =>
    refine .of_place (place_unlock_self ..) (fun _ => waiting h rfl) (by rintro ⟨⟩) (by rintro ⟨⟩) (fun _ => ?_)
    have told : Told (s.move .dispatcher (.parked false)) :=
      (inv.told (h ▸ rfl)).move h (by rintro ⟨⟩) (by rintro ⟨⟩)
    exact told.congr rfl rfl
  | giveUp h at_ =>
    refine .of_ready (place_move_self ..) fun elapsed waiting => ?_
    rw [live_move, at_] at waiting
    cases waiting
    exact Bus.isReady_elapsed _
  | lockToSwap h at_ free =>
    refine .of_ready (place_lock_self ..) fun elapsed waiting => ?_
    rcases at_ with closing | ⟨elapsed, -⟩
    · rw [live_lock, closing] at waiting
      cases waiting
    · rw [live_lock, elapsed] at waiting
      cases waiting
      exact Bus.isReady_elapsed _

/-! ## The bus as a whole -/

/-- To the bus as a whole, what one thread does is one of its steps or nothing. -/
theorem Alert.live (inv : Alert s) (h : Step crew s marks t) :
    (marks = [] ∧ t.live = s.live) ∨ LiveBus.Step crew s.live marks t.live := by
  cases h with
  | disturb world => exact .inr (.disturb _ world)
  | elapse at_ => exact .inr (.elapse _ at_)
  | advance h step => exact .inr step
  | append n host m h => exact .inr (.send _ host m)
  | reply host last e r rest m next h at_ => exact .inr (.reply _ host last e r rest m next at_)
  | raise n h => exact .inr (.stop _)
  | halt last e r rest next h at_ => exact .inr (.halt _ last e r rest next at_)
  | swap elapsed h at_ => exact .inr (.swap _ elapsed at_ (inv.ready h elapsed at_))
  | close h at_ => exact .inr (.close _ at_)
  | _ => exact .inl ⟨rfl, rfl⟩

structure Sound (crew : Crew ω) (trace : List Mark) (s : WakingBus ω) : Prop where
  guarded : Guarded s
  alert : Alert s
  live : LiveBus.Reachable crew trace s.live

theorem Reachable.sound (h : Reachable crew trace s) : Sound crew trace s := by
  induction h with
  | new config transcript world =>
    exact ⟨fun u => by simp [Place.holds], .of_busy rfl (by rintro ⟨⟩), .new config transcript world⟩
  | step _ step inv =>
    refine ⟨inv.guarded.step step, inv.alert.step inv.guarded step, ?_⟩
    rcases inv.alert.live step with ⟨rfl, same⟩ | step
    · rw [List.append_nil, same]
      exact inv.live
    · exact inv.live.step step

/-- A bus in whose guarded code nobody is. -/
def resting (live : LiveBus ω) : WakingBus ω := { live }

theorem eq_resting (free : s.holder = none) (away : ∀ u, s.place u = .away) : s = resting s.live := by
  obtain ⟨live, holder, place⟩ := s
  obtain rfl : holder = none := free
  obtain rfl : place = fun _ => .away := funext away
  rfl

/-- All but one are away from the guarded code. -/
def Alone (s : WakingBus ω) (u : User) : Prop := ∀ v, v ≠ u → s.place v = .away

theorem Alone.move (alone : Alone s u) (p : Place) : Alone (s.move u p) u := by
  intro v h
  rw [place_move_of_ne _ _ _ h]
  exact alone v h

theorem Alone.notify (alone : Alone s u) : Alone s.notify u := by
  intro v h
  by_cases same : v = .dispatcher
  · rw [same, place_notify_self, alone _ (same ▸ h)]
    rfl
  · rw [place_notify_of_ne _ same]
    exact alone v h

theorem Alone.away (alone : Alone s u) (h : s.place u = .away) (v : User) : s.place v = .away := by
  by_cases same : v = u
  · rw [same, h]
  · exact alone v same

theorem steps_finish (alone : Alone s u) (h : s.place u = .done) : Steps (Step crew) s [] (resting s.live) := by
  have finished : Steps (Step crew) _ _ _ := .single (.finish s u h)
  have quiet : Alone (s.unlock u .away) u := alone.move .away
  rwa [eq_resting rfl (quiet.away (place_unlock_self ..))] at finished

theorem steps_notify (alone : Alone s u) (h : s.place u = .appended) : Steps (Step crew) s [] (resting s.live) := by
  have released : Steps (Step crew) _ _ _ := .single (.letGo s u h)
  have notified := released.tail (.notifyOne _ u (place_unlock_self ..))
  have quiet : Alone (s.unlock u .notifying) u := alone.move .notifying
  rwa [eq_resting rfl ((quiet.notify.move .away).away (place_move_self ..))] at notified

theorem steps_hail (alone : Alone s u) (h : s.place u = .raised) (free : s.holder = none) :
    Steps (Step crew) s [] (resting s.live) := by
  have locked : Steps (Step crew) _ _ _ := .single (.lockToHail s u h free)
  have notified := locked.tail (.notifyAll _ u (place_lock_self ..))
  have quiet : Alone (s.lock u .hailing) u := alone.move .hailing
  exact notified.append (steps_finish (quiet.notify.move .done) (place_move_self ..))

theorem isShared_said {α : Type} (x : Traced BusEvent α) : ∀ m ∈ LiveBus.said x, m.isShared = false := by
  simp [LiveBus.said, Mark.isShared]

section

variable {live : LiveBus ω}

theorem alone_resting (u : User) : Alone (resting live) u := fun _ _ => rfl

/-- A dispatcher that is ready and waits on the condition comes to hold the lock for its swap. -/
theorem steps_ready {elapsed : Bool} (at_ : live.stage = .waiting elapsed) (ready : live.bus.isReady elapsed = true) :
    ∃ s, Steps (Step crew) (resting live) [] s ∧ s.live = live ∧ s.place .dispatcher = .swapping ∧
      Alone s .dispatcher := by
  cases mode : live.bus.config.mode with
  | fixedInterval =>
    rw [Bus.isReady, mode] at ready
    have locked : Steps (Step crew) _ _ _ := .single (.lockToSwap (resting live) rfl (.inr ⟨ready ▸ at_, mode⟩) rfl)
    exact ⟨_, locked, rfl, place_lock_self .., (alone_resting _).move _⟩
  | wakeOnEnqueue =>
    have locked : Steps (Step crew) _ _ _ := .single (.lockToTest (resting live) elapsed rfl at_ mode rfl)
    have alone : Alone ((resting live).lock .dispatcher .testing) .dispatcher := (alone_resting _).move _
    by_cases found : live.bus.queue.front ≠ [] ∨ live.bus.queue.stopRequested = true
    · exact ⟨_, locked.tail (.find _ (place_lock_self ..) found), rfl, place_move_self .., alone.move _⟩
    · simp only [not_or, ne_eq, not_not, Bool.not_eq_true] at found
      obtain ⟨empty, going⟩ := found
      have up : elapsed = true := by simpa [Bus.isReady, mode, empty, going] using ready
      have dozed := locked.tail (.findNothing _ (place_lock_self ..) empty going)
      have stood := dozed.tail (.giveUp _ (place_move_self ..) (up ▸ at_))
      exact ⟨_, stood, rfl, place_move_self .., (alone.move _).move _⟩

end

/-- Whatever the bus can do in one step, its threads can do one after the other. -/
theorem steps_of_live {s t : LiveBus ω} (h : LiveBus.Step crew s marks t) :
    Steps (Step crew) (resting s) marks (resting t) := by
  by_cases own : ∀ m ∈ marks, m.isShared = false
  · exact .single (.advance (resting s) rfl h own fun _ => rfl)
  cases h with
  | send host m =>
    have locked : Steps (Step crew) _ _ _ := .single (.lockToSend (resting s) 0 ⟨m, host.now⟩ rfl rfl)
    have appended := locked.tail (.append _ 0 host m (place_lock_self ..))
    exact appended.append (steps_notify (((alone_resting (.other 0)).move _).move _) rfl)
  | reply host last e r rest m next at_ =>
    have locked : Steps (Step crew) _ _ _ :=
      .single (.lockToReply (resting s) host.now last e r rest m next rfl at_ rfl)
    have appended := locked.tail (.reply _ host last e r rest m next (place_lock_self ..) at_)
    exact appended.append (steps_notify (((alone_resting .dispatcher).move _).move _) rfl)
  | stop =>
    have raised : Steps (Step crew) _ _ _ := .single (.raise (resting s) 0 rfl)
    exact raised.append (steps_hail ((alone_resting (.other 0)).move _) rfl rfl)
  | halt last e r rest next at_ =>
    have raised : Steps (Step crew) _ _ _ := .single (.halt (resting s) last e r rest next rfl at_)
    exact raised.append (steps_hail ((alone_resting .dispatcher).move _) rfl rfl)
  | swap elapsed at_ ready =>
    obtain ⟨s, stood, rfl, place, alone⟩ : ∃ r, Steps (Step crew) _ _ r ∧ _ := steps_ready at_ ready
    have swapped := stood.tail (.swap s elapsed place at_)
    refine swapped.append (steps_finish (alone.move .done) ?_)
    rw [place_withLive, place_move_self]
  | close at_ =>
    have locked : Steps (Step crew) _ _ _ := .single (.lockToSwap (resting s) rfl (.inl at_) rfl)
    have swapped := locked.tail (.close _ (place_lock_self ..) at_)
    exact swapped.append (steps_finish (((alone_resting .dispatcher).move _).move _) rfl)
  | register | enter => exact (own (List.forall_mem_cons.2 ⟨rfl, isShared_said _⟩)).elim
  | take | flush | finish => exact (own (isShared_said _)).elim
  | _ => simp [Mark.isShared] at own

/-- Taken apart or not, a bus comes to the same. -/
theorem reachable_live_iff {live : LiveBus ω} :
    (∃ s, Reachable crew trace s ∧ s.live = live) ↔ LiveBus.Reachable crew trace live := by
  constructor
  · rintro ⟨s, h, rfl⟩
    exact h.sound.live
  · intro h
    suffices Reachable crew trace (resting live) from ⟨_, this, rfl⟩
    induction h with
    | new config transcript world => exact .new config transcript world
    | step _ step ih => exact ih.append (steps_of_live step)

/-! ## The result -/

/-- While a dispatcher is parked that nobody has notified, a message in the queue or a stop has somebody behind it who
is still to give the notification. So when all others are through, there is neither, and all that was sent has been
dispatched. -/
theorem told_of_parked (h : Reachable crew trace s) (parked : s.place .dispatcher = .parked false) :
    (s.live.bus.queue.front ≠ [] → ∃ u, (s.place u).owesOne = true) ∧
    (s.live.bus.queue.stopRequested = true → ∃ u, (s.place u).owesAll = true) ∧
    ((∀ n, s.place (.other n) = .away) → s.live.bus.queue.contents = [] ∧
      s.live.bus.queue.stopRequested = false ∧ LiveBus.dispatched trace = LiveBus.sent trace) := by
  have sound := h.sound
  have told := sound.alert.told (by rw [parked]; rfl)
  refine ⟨told.work, told.stop, fun through => ?_⟩
  have noneOwes (owes : Place → Bool) (away : owes .away = false) (asleep : owes (.parked false) = false) :
      ¬ ∃ u, owes (s.place u) = true := by
    rintro ⟨u | n, debt⟩
    · simp [parked, asleep] at debt
    · simp [through, away] at debt
  have front : s.live.bus.queue.front = [] := by
    by_contra more
    exact noneOwes Place.owesOne rfl rfl (told.work more)
  have going : s.live.bus.queue.stopRequested = false := by
    rw [← Bool.not_eq_true]
    exact fun stopping => noneOwes Place.owesAll rfl rfl (told.stop stopping)
  obtain ⟨-, elapsed, at_⟩ := sound.alert.waiting (by rw [parked]; rfl)
  have back := sound.live.inOrder.back_nil (by rw [at_]; rfl)
  have contents : s.live.bus.queue.contents = [] := by rw [Queue.contents, back, front, List.append_nil]
  have order := sound.live.inOrder.order
  rw [contents, List.append_nil] at order
  exact ⟨contents, going, order⟩

/-- One thread has sent and let go of the lock, and another has set the flag and waits for the lock. Neither has come
to its notification. -/
theorem told_of_parked_echo : ∃ trace s, Reachable LiveBus.echo trace s ∧ s.place .dispatcher = .parked false ∧
    s.live.bus.queue.front = [⟨.anonymous .windData, LiveBus.midnight.now⟩] ∧
    s.live.bus.queue.stopRequested = true ∧ s.place (.other 0) = .notifying ∧ s.place (.other 1) = .raised ∧
    (∃ u, (s.place u).owesOne = true) ∧ ∃ u, (s.place u).owesAll = true := by
  have new : Reachable LiveBus.echo [] _ := .new {} .absent ()
  have entered := new.step (.advance _ rfl (.enter _ LiveBus.midnight rfl)
    (List.forall_mem_cons.2 ⟨rfl, isShared_said _⟩) fun _ => rfl)
  have waiting := entered.step (.advance _ rfl (.proceed _ rfl rfl) (by simp) fun _ => rfl)
  have parked := ((waiting.step (.lockToTest _ false rfl rfl rfl rfl)).step (.findNothing _ rfl rfl rfl)).step
    (.park _ rfl rfl)
  have sent := ((parked.step (.lockToSend _ 0 ⟨.anonymous .windData, LiveBus.midnight.now⟩ rfl rfl)).step
    (.append _ 0 LiveBus.midnight (.anonymous .windData) rfl)).step (.letGo _ (.other 0) rfl)
  have stopping := sent.step (.raise _ 1 rfl)
  obtain ⟨work, stop, -⟩ := told_of_parked stopping rfl
  exact ⟨_, _, stopping, rfl, rfl, rfl, rfl, rfl, work (List.cons_ne_nil _ _), stop rfl⟩

end WakingBus

end VesselBus
