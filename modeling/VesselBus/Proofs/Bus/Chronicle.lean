import VesselBus.Proofs.Bus.Draining
import VesselBus.Proofs.Bus.Written
import Mathlib.Data.List.ModifyLast

/-!
# The transcript tells what happened

Beside a run a history of dispatches is kept: a message that is taken begins one, and a receiver that is through with it
adds how it came out. What is reported of messages is this history, and the transcript has a header for each dispatch
and a line for each receiver that returned.
-/

namespace VesselBus

/-- A message that was dispatched, and how its deliveries came out. -/
structure Dispatch where
  envelope : Envelope
  outcomes : List (Record × Outcome)

def Outcome.entry? (r : Record) : Outcome → Option Entry
  | .returned => some (.consumed r)
  | .panicked _ => none

namespace Dispatch

def events (d : Dispatch) : List BusEvent :=
  .dispatching d.envelope ::
    d.outcomes.flatMap fun (r, outcome) => [.called r.ref d.envelope.message, outcome.event d.envelope.message r]

/-- A header, and a line for each receiver that returned. -/
def entries (d : Dispatch) : List Entry :=
  .dispatched d.envelope :: d.outcomes.filterMap fun (r, outcome) => outcome.entry? r

/-- One more receiver is through with the message. -/
def answered (r : Record) (outcome : Outcome) (d : Dispatch) : Dispatch :=
  { d with outcomes := d.outcomes ++ [(r, outcome)] }

/-- Whoever was to be given the message has been, and in order. -/
def IsComplete (g : Registry) (d : Dispatch) : Prop := d.outcomes.map (·.1) = g.receivers d.envelope.message

theorem filterMap_events (d : Dispatch) : d.events.filterMap BusEvent.entry? = d.entries := by
  obtain ⟨e, outcomes⟩ := d
  refine congrArg (Entry.dispatched e :: ·) ?_
  rw [List.filterMap_flatMap]
  induction outcomes with
  | nil => rfl
  | cons first rest ih =>
    obtain ⟨r, outcome⟩ := first
    cases outcome with
    | returned => exact congrArg (Entry.consumed r :: ·) ih
    | panicked => exact ih

end Dispatch

/-- The message in hand, and who has not come out of its delivery. -/
def Stage.undelivered? {ω : Type} : Stage ω → Option (Envelope × List Record)
  | .delivering _ e rest => some (e, rest)
  | .reacting _ e r rest _ => some (e, r :: rest)
  | _ => none

/-- The delivery that was begun and is not over. -/
def Stage.begun {ω : Type} : Stage ω → List BusEvent
  | .reacting _ e r _ _ => [.called r.ref e.message]
  | _ => []

/-- The history when the thread inside `run` has gone on from one place to another. A delivery comes out as the reaction
to it finished. -/
def chronicle {ω : Type} : Stage ω → Stage ω → List Dispatch → List Dispatch
  | .draining _, .delivering _ e _, history => history ++ [⟨e, []⟩]
  | .reacting _ _ r _ (.finish _ outcome), .delivering .., history => history.modifyLast (Dispatch.answered r outcome)
  | _, _, history => history

namespace LiveBus

variable {ω : Type} {crew : Crew ω} {base : Sink} {before trace marks : List Mark} {s t : LiveBus ω}
  {history : List Dispatch}

/-! ## History -/

/-- The history of the messages that were dispatched. Only the one in hand may have receivers left. -/
structure Recounts (trace : List Mark) (s : LiveBus ω) (history : List Dispatch) : Prop where
  events : tale trace = history.flatMap Dispatch.events ++ s.stage.begun
  complete : s.stage.undelivered? = none → ∀ d ∈ history, d.IsComplete s.bus.registry
  inHand : ∀ e rest, s.stage.undelivered? = some (e, rest) → ∃ done outcomes, history = done ++ [⟨e, outcomes⟩] ∧
    (∀ d ∈ done, d.IsComplete s.bus.registry) ∧ outcomes.map (·.1) ++ rest = s.bus.registry.receivers e.message

theorem chronicle_self (stage : Stage ω) (history : List Dispatch) : chronicle stage stage history = history := by
  cases stage with
  | reacting last e r rest reaction => cases reaction <;> rfl
  | _ => rfl

theorem Recounts.keep (inv : Recounts trace s history) (silent : tale marks = [])
    (registry : t.bus.registry = s.bus.registry) (begun : t.stage.begun = s.stage.begun)
    (undelivered : t.stage.undelivered? = s.stage.undelivered?)
    (same : chronicle s.stage t.stage history = history) :
    Recounts (trace ++ marks) t (chronicle s.stage t.stage history) := by
  rw [same]
  constructor
  case events => rw [tale_append, silent, List.append_nil, inv.events, begun]
  case complete =>
    rw [undelivered, registry]
    exact inv.complete
  case inHand =>
    rw [undelivered, registry]
    exact inv.inHand

theorem Recounts.eq_nil (inv : Recounts trace s history) (silent : tale trace = []) : history = [] := by
  have events := inv.events
  rw [silent] at events
  cases history with
  | nil => rfl
  | cons d rest => cases events

theorem Recounts.step (inv : Recounts trace s history) (fresh : Fresh trace s) (h : Step crew s marks t) :
    Recounts (trace ++ marks) t (chronicle s.stage t.stage history) := by
  cases h with
  | send | stop | disturb => exact inv.keep rfl rfl rfl rfl (chronicle_self s.stage history)
  | register ref kind idle =>
    have silent := (isSilent_register crew ref kind s.bus s.world).1
    have same : chronicle s.stage (s.enrolled crew ref kind).stage history = history := chronicle_self s.stage history
    cases started : s.bus.started with
    | true => exact inv.keep silent (by rw [enrolled_of_started started]) rfl rfl same
    | false =>
      obtain rfl := inv.eq_nil (fresh started).2.1
      rw [same]
      refine ⟨?_, fun _ => List.forall_mem_nil _, fun e rest at_ => ?_⟩
      · rw [tale_append, inv.events, idle]
        exact silent.trans (by simp [enrolled, idle, Stage.begun])
      · simp [enrolled, idle, Stage.undelivered?] at at_
  | enter host idle =>
    exact inv.keep (isSilent_prepare host s.bus).1 (Bus.registry_prepare host s.bus) (by rw [idle]; rfl)
      (by rw [idle]; rfl) (by rw [idle]; rfl)
  | take host last e rest at_ next =>
    have begun (rest : List Record) : chronicle s.stage (.delivering last e rest) history = history ++ [⟨e, []⟩] := by
      rw [at_]
      rfl
    rw [begun]
    refine ⟨?_, by simp [Stage.undelivered?], ?_⟩
    · rw [tale_append, (told_announce host e (s.bus.popped rest)).1, inv.events, at_]
      simp [Stage.begun, Dispatch.events]
    · rintro _ _ ⟨⟩
      have registry : (Bus.announce host e (s.bus.popped rest)).result.registry = s.bus.registry :=
        Bus.registry_transcribe _ _
      rw [registry]
      exact ⟨history, [], rfl, inv.complete (by rw [at_]; rfl), rfl⟩
  | call last e r rest at_ =>
    have same (reaction : Reaction ω) : chronicle s.stage (.reacting last e r rest reaction) history = history := by
      rw [at_]
      rfl
    rw [same]
    refine ⟨?_, by simp [Stage.undelivered?], ?_⟩
    · rw [tale_append, inv.events, at_]
      exact congrArg (· ++ _) (List.append_nil _)
    · rintro _ _ ⟨⟩
      exact inv.inHand e (r :: rest) (by rw [at_]; rfl)
  | finish host last e r rest world outcome at_ =>
    obtain ⟨done, outcomes, rfl, complete, receivers⟩ := inv.inHand e (r :: rest) (by rw [at_]; rfl)
    have registry := Bus.registry_settle host e.message r outcome s.bus
    have grown : chronicle s.stage (.delivering last e rest) (done ++ [⟨e, outcomes⟩]) =
        done ++ [⟨e, outcomes ++ [(r, outcome)]⟩] := by
      rw [at_]
      exact List.modifyLast_concat ..
    rw [grown]
    refine ⟨?_, by simp [Stage.undelivered?], ?_⟩
    · rw [tale_append, told_settle, inv.events, at_]
      simp [Stage.begun, Dispatch.events]
    · rintro _ _ ⟨⟩
      refine ⟨done, outcomes ++ [(r, outcome)], rfl, ?_, ?_⟩
      · rw [registry]
        exact complete
      · rw [registry, ← receivers]
        simp
  | flush last e at_ =>
    obtain ⟨done, outcomes, rfl, complete, receivers⟩ := inv.inHand e [] (by rw [at_]; rfl)
    have same : chronicle s.stage (.draining last) (done ++ [⟨e, outcomes⟩]) = done ++ [⟨e, outcomes⟩] := by
      rw [at_]
      rfl
    rw [same]
    refine ⟨?_, ?_, by simp [Stage.undelivered?]⟩
    · rw [tale_append, (told_transcribe (·.flush) s.bus).1, inv.events, at_]
      exact List.append_nil _
    · intro _ d hd
      rw [Bus.registry_transcribe]
      rcases List.mem_append.1 hd with earlier | now
      · exact complete d earlier
      · obtain rfl := List.mem_singleton.1 now
        rwa [List.append_nil] at receivers
  | proceed at_ | heed at_ | elapse at_ | swap _ at_ | close at_ | again at_ | leave at_ | note _ _ _ _ _ _ at_
  | reply _ _ _ _ _ _ _ at_ | halt _ _ _ _ _ at_ | askPending _ _ _ _ _ at_ | askStopped _ _ _ _ _ at_ =>
    exact inv.keep rfl rfl (by rw [at_]; rfl) (by rw [at_]; rfl) (by rw [at_]; rfl)

/-- What was to be written is what the history comes to. -/
theorem Recounts.entries_eq (inv : Recounts trace s history) : entriesIn trace = history.flatMap Dispatch.entries := by
  have begun : s.stage.begun.filterMap BusEvent.entry? = [] := by cases s.stage <;> rfl
  rw [entriesIn_eq, inv.events, List.filterMap_append, begun, List.append_nil, List.filterMap_flatMap]
  exact congrArg (List.flatMap · history) (funext Dispatch.filterMap_events)

/-! ## The result -/

/-- What may come of a bus after its transcript began with this sink, with the history of the dispatches since then. The
sink was given to the bus between two runs or before them, or it is that of the file which the first run opened. -/
inductive Logging (crew : Crew ω) (base : Sink) (before : List Mark) :
    List Mark → List Dispatch → LiveBus ω → Prop where
  | given {s : LiveBus ω} (reached : Reachable crew before s) (idle : s.stage = .idle) :
    Logging crew base before [] [] { s with bus := { s.bus with transcript := .writing base } }
  | opened {s : LiveBus ω} (host : Host) (path : String) (reached : Reachable crew before s) (idle : s.stage = .idle)
    (first : s.bus.started = false) (absent : s.bus.transcript = .absent)
    (asked : s.bus.config.transcriptPath = some path) (created : host.create path = .ok base) :
    Logging crew base before (.entered :: said (s.bus.prepare host)) []
      { s with bus := (s.bus.prepare host).result, stage := .checking }
  | step {trace marks : List Mark} {history : List Dispatch} {s t : LiveBus ω} :
    Logging crew base before trace history s → Step crew s marks t →
    Logging crew base before (trace ++ marks) (chronicle s.stage t.stage history) t

theorem Logging.append (h : Logging crew base before trace history s) (run : Steps (Step crew) s marks t) :
    ∃ history, Logging crew base before (trace ++ marks) history t := by
  induction run with
  | refl => exact ⟨history, by rwa [List.append_nil]⟩
  | tail _ step ih =>
    obtain ⟨_, logging⟩ := ih
    rw [← List.append_assoc]
    exact ⟨_, logging.step step⟩

theorem Logging.fresh (h : Logging crew base before trace history s) : Fresh trace s := by
  induction h with
  | given reached idle => exact fun _ => ⟨idle, rfl, rfl⟩
  | opened => exact fun unopened => by simp at unopened
  | step _ step ih => exact ih.step step

theorem Logging.recounts (h : Logging crew base before trace history s) : Recounts trace s history := by
  have nothing {trace : List Mark} {s : LiveBus ω} (silent : tale trace = []) (begun : s.stage.begun = [])
      (none : s.stage.undelivered? = none) : Recounts trace s [] :=
    ⟨by rw [silent, begun]; rfl, fun _ => List.forall_mem_nil _, by simp [none]⟩
  induction h with
  | given reached idle => exact nothing rfl (by simp [idle, Stage.begun]) (by simp [idle, Stage.undelivered?])
  | opened host => exact nothing (isSilent_prepare host _).1 rfl rfl
  | step earlier step ih => exact ih.step earlier.fresh step

theorem Logging.kept (h : Logging crew base before trace history s) :
    Kept base (entriesIn trace) s.bus.transcript (warnings trace) := by
  induction h with
  | given => exact .whole [] base .nil (by simp [linesTaken]) rfl rfl
  | @opened s host path reached idle first absent asked created =>
    have silent : IsSilent (.entered :: said (s.bus.prepare host)) := isSilent_prepare host s.bus
    rw [silent.entriesIn, silent.2, Bus.prepare_of_created first absent asked created]
    exact .whole [] base .nil (by simp [linesTaken]) rfl rfl
  | step _ step ih =>
    rw [entriesIn_append, warnings_append]
    exact ih.move (step.moves ih.ne_absent)

/-- Before the first run there is nothing to write. -/
theorem Logging.silent_before (h : Logging crew base before trace history s) (first : .entered ∉ before) :
    IsSilent before := by
  have silent {s : LiveBus ω} (reached : Reachable crew before s) : IsSilent before := by
    refine (reached.fresh ?_).2
    rw [reached.registered.started, List.any_eq_false]
    exact fun m hm entry => first (Mark.isEntry_iff.1 entry ▸ hm)
  induction h with
  | given reached => exact silent reached
  | opened _ _ reached => exact silent reached
  | step _ _ ih => exact ih

/-- What a bus has written in a transcript, and what it writes from then on. -/
structure Transcribed (crew : Crew ω) (base : Sink) (before trace : List Mark) (history : List Dispatch)
    (s : LiveBus ω) : Prop where
  recounts : Recounts trace s history
  log : ∃ lines, List.Forall₂ Entry.Reads (history.flatMap Dispatch.entries) lines ∧
    (s.bus.transcript.isOpen = true → s.bus.transcript.bytes = base.taken ++ (String.join lines).toUTF8) ∧
    ∃ rest, s.bus.transcript.bytes ++ rest = base.taken ++ (String.join lines).toUTF8
  sound : base.IsSound → s.bus.transcript.isOpen = true
  warned : (warnings trace).length = if s.bus.transcript.isOpen then 0 else 1
  silent : .entered ∉ before → IsSilent before
  closed : s.bus.transcript.isOpen = false → ∀ later t, Steps (Step crew) s later t →
    t.bus.transcript = s.bus.transcript ∧ warnings later = []
  notReopened : ∀ later t, Steps (Step crew) s later t → ∀ event ∈ reports later, event.isOpening = false

/-- A transcript that was given up is left as it is. -/
theorem Logging.left_alone {sink : Sink} (h : Logging crew base before trace history s)
    (cut : s.bus.transcript = .givenUp sink) (run : Steps (Step crew) s marks t) :
    t.bus.transcript = .givenUp sink ∧ warnings marks = [] := by
  induction run with
  | refl => exact ⟨cut, rfl⟩
  | tail run step ih =>
    obtain ⟨cut, none⟩ := ih
    obtain ⟨_, logging⟩ := h.append run
    have move := step.moves logging.kept.ne_absent
    rw [cut] at move
    obtain ⟨cut', none'⟩ := move.of_givenUp
    exact ⟨cut', by rw [warnings_append, none, none']; rfl⟩

theorem Logging.opens_none (h : Logging crew base before trace history s) (run : Steps (Step crew) s marks t) :
    ∀ event ∈ reports marks, event.isOpening = false := by
  induction run with
  | refl => exact List.forall_mem_nil _
  | tail run step ih =>
    intro event hm
    obtain ⟨_, logging⟩ := h.append run
    rw [reports_append, List.mem_append] at hm
    exact hm.elim (ih event) (step.opens_none logging.kept.ne_absent event)

theorem transcribed_of_logging (h : Logging crew base before trace history s) :
    Transcribed crew base before trace history s := by
  have recounts := h.recounts
  have kept := h.kept
  rw [recounts.entries_eq] at kept
  have silent := h.silent_before
  have opens_none (later : List Mark) (t : LiveBus ω) (run : Steps (Step crew) s later t) := h.opens_none run
  generalize transcript : s.bus.transcript = kind at kept
  generalize warned : warnings trace = causes at kept
  cases kept with
  | whole lines sink read taken write flush =>
    refine ⟨recounts, ⟨lines, read, ?_, .empty, ?_⟩, ?_, ?_, silent, ?_, opens_none⟩
    · rw [transcript]
      exact fun _ => taken
    · rw [transcript, ByteArray.append_empty]
      exact taken
    · rw [transcript]
      exact fun _ => rfl
    · rw [warned, transcript]
      rfl
    · rw [transcript]
      nofun
  | cut lines sink cause rest read taken faulty =>
    refine ⟨recounts, ⟨lines, read, ?_, rest, ?_⟩, ?_, ?_, silent, ?_, opens_none⟩
    · rw [transcript]
      nofun
    · rw [transcript]
      exact taken
    · exact fun sound => absurd sound faulty
    · rw [warned, transcript]
      rfl
    · rw [transcript]
      exact fun _ later t run => h.left_alone transcript run

/-- A sink that fails when it is flushed a second time. -/
def brittle : Sink where
  flushFault n := if n = 0 then none else some "disk full"

/-- The transcript of two messages is given up after the second. The answers to both are not in it, though they are
dispatched as well, and there is one warning. -/
theorem transcribed_of_logging_brittle : ∃ trace history s, Logging stopping brittle [] trace history s ∧
    dispatched trace = [⟨.anonymous .windData, midnight.now⟩, ⟨.anonymous .windData, midnight.now⟩,
      ⟨.anonymous .windState, midnight.now⟩] ∧
    (history.map fun d => d.outcomes.map (·.2)) = [[.returned], [.returned], []] ∧
    s.bus.transcript.bytes = (String.join (List.replicate 2
      ("[00:00:00:000] Type=WindData(1) SourceID=0 Destination=0 Received=00:00:00:000\n" ++
        "\t00:00:00:000 Consumed by Node: WindState(12)\n"))).toUTF8 ∧
    s.bus.transcript.isOpen = false ∧ warnings trace = ["disk full"] ∧
    Transcribed stopping brittle [] trace history s := by
  have registered := (Logging.given (.new {} .absent ()) rfl : Logging stopping brittle [] [] [] _).step
    (.register _ 0 (some .windData) rfl)
  have sent := (registered.step (.send _ midnight (.anonymous .windData))).step
    (.send _ midnight (.anonymous .windData))
  have swapped := ((sent.step (.enter _ midnight rfl)).step (.proceed _ rfl rfl)).step (.swap _ false rfl rfl)
  have first := (((((swapped.step (.take _ midnight false _ _ rfl rfl)).step (.call _ false _ _ _ rfl)).step
    (.halt _ false _ _ _ _ rfl)).step (.reply _ midnight false _ _ _ _ _ rfl)).step
    (.finish _ midnight false _ _ _ _ _ rfl)).step (.flush _ false _ rfl)
  have second := (((((first.step (.take _ midnight false _ _ rfl rfl)).step (.call _ false _ _ _ rfl)).step
    (.halt _ false _ _ _ _ rfl)).step (.reply _ midnight false _ _ _ _ _ rfl)).step
    (.finish _ midnight false _ _ _ _ _ rfl)).step (.flush _ false _ rfl)
  have answered := ((((second.step (.again _ rfl rfl)).step (.heed _ rfl rfl)).step (.close _ rfl)).step
    (.take _ midnight true _ _ rfl rfl)).step (.flush _ true _ rfl)
  exact ⟨_, _, _, answered, rfl, rfl, rfl, rfl, rfl, transcribed_of_logging answered⟩

end LiveBus

end VesselBus
