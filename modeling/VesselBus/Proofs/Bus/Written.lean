import VesselBus.Proofs.Bus.Lines
import VesselBus.Proofs.Bus.Routing

/-!
# What is written in the transcript

Three places write to the transcript, and any of them may be the first to fail. But each writes one line for one
thing that is reported, and nothing once the transcript is given up. So what its sink took is the lines of what was
reported, or as much of them as went through.
-/

namespace VesselBus

namespace BusEvent

/-- It tells of a message or of a delivery. -/
def isTale : BusEvent → Bool
  | .dispatching _ | .called .. | .consumed _ | .panicked .. => true
  | _ => false

/-- What is written in the transcript when it is reported. -/
def entry? : BusEvent → Option Entry
  | .dispatching e => some (.dispatched e)
  | .consumed r => some (.consumed r)
  | _ => none

def warning? : BusEvent → Option String
  | .transcriptGivenUp cause => some cause
  | _ => none

end BusEvent

def Outcome.event (m : Message) (r : Record) : Outcome → BusEvent
  | .returned => .consumed r
  | .panicked cause => .panicked r m cause

/-! ## Sinks -/

/-- What a sink has taken when it took these lines. -/
def linesTaken (lines : List String) : ByteArray := (String.join lines).toUTF8

def Sink.IsSound (s : Sink) : Prop :=
  (∀ taken offered, s.writeFault taken offered = none) ∧ ∀ n, s.flushFault n = none

/-- One try at a transcript: what was to be written, and why it was given up if it was. -/
inductive Transcript.Move (t : Transcript) : List Entry → List String → Transcript → Prop where
  | none : Move t [] [] t
  | write (now : TimeOfDay) (entry : Entry) : Move t [entry] (t.write now entry).2.toList (t.write now entry).1
  | flush : Move t [] t.flush.2.toList t.flush.1

theorem Transcript.Move.of_givenUp {sink : Sink} {entries : List Entry} {causes : List String} {t : Transcript}
    (h : Move (.givenUp sink) entries causes t) : t = .givenUp sink ∧ causes = [] := by
  cases h <;> exact ⟨rfl, rfl⟩

/-- What becomes of the sink of a transcript when these entries are to be written, and why it was given up. -/
inductive Kept (base : Sink) (entries : List Entry) : Transcript → List String → Prop where
  | whole (lines : List String) (sink : Sink) (read : List.Forall₂ Entry.Reads entries lines)
    (taken : sink.taken = base.taken ++ linesTaken lines) (write : sink.writeFault = base.writeFault)
    (flush : sink.flushFault = base.flushFault) : Kept base entries (.writing sink) []
  | cut (lines : List String) (sink : Sink) (cause : String) (rest : ByteArray)
    (read : List.Forall₂ Entry.Reads entries lines) (taken : sink.taken ++ rest = base.taken ++ linesTaken lines)
    (faulty : ¬ base.IsSound) : Kept base entries (.givenUp sink) [cause]

variable {base : Sink} {entries : List Entry} {t : Transcript} {causes : List String}

theorem linesTaken_concat (lines : List String) (line : String) :
    linesTaken (lines ++ [line]) = linesTaken lines ++ line.toUTF8 := by
  rw [linesTaken, String.join_append]
  simp [linesTaken]

theorem Entry.reads_concat {lines : List String} (read : List.Forall₂ Entry.Reads entries lines) (now : TimeOfDay)
    (entry : Entry) : List.Forall₂ Entry.Reads (entries ++ [entry]) (lines ++ [entry.line now]) :=
  List.rel_append read (.cons (entry.reads_line now) .nil)

theorem extract_append_rest (bytes : ByteArray) (n : Nat) :
    bytes.extract 0 n ++ bytes.extract n bytes.size = bytes := by
  rw [ByteArray.extract_append_extract, Nat.zero_min, ByteArray.extract_zero_max_size]

namespace Transcript

variable {sink : Sink} {now : TimeOfDay} {entry : Entry}

theorem write_of_none (h : sink.writeFault sink.taken (entry.line now).toUTF8 = none) :
    (writing sink).write now entry = (.writing { sink with taken := sink.taken ++ (entry.line now).toUTF8 }, none) := by
  simp only [write, Sink.write, h, settle]

theorem write_of_some {fault : WriteFault} (h : sink.writeFault sink.taken (entry.line now).toUTF8 = some fault) :
    (writing sink).write now entry =
      (.givenUp { sink with taken := sink.taken ++ (entry.line now).toUTF8.extract 0 fault.accepted },
        some fault.cause) := by
  simp only [write, Sink.write, h, settle]

theorem flush_of_none (h : sink.flushFault sink.flushes = none) :
    (writing sink).flush = (.writing { sink with flushes := sink.flushes + 1 }, none) := by
  simp only [flush, Sink.flush, h, settle]

theorem flush_of_some {cause : String} (h : sink.flushFault sink.flushes = some cause) :
    (writing sink).flush = (.givenUp { sink with flushes := sink.flushes + 1 }, some cause) := by
  simp only [flush, Sink.flush, h, settle]

end Transcript

namespace Kept

theorem write (h : Kept base entries t causes) (now : TimeOfDay) (entry : Entry) :
    Kept base (entries ++ [entry]) (t.write now entry).1 (causes ++ (t.write now entry).2.toList) := by
  cases h with
  | whole lines sink read taken write flush =>
    have read := Entry.reads_concat read now entry
    have longer := linesTaken_concat lines (entry.line now)
    cases fault : sink.writeFault sink.taken (entry.line now).toUTF8 with
    | none =>
      rw [Transcript.write_of_none fault]
      refine .whole _ _ read ?_ write flush
      rw [longer, ← ByteArray.append_assoc, ← taken]
    | some fault' =>
      rw [Transcript.write_of_some fault]
      refine .cut _ _ _ ((entry.line now).toUTF8.extract fault'.accepted (entry.line now).toUTF8.size) read ?_ ?_
      · rw [longer, ← ByteArray.append_assoc, ← taken, ByteArray.append_assoc, extract_append_rest]
      · intro sound
        rw [write, sound.1] at fault
        cases fault
  | cut lines sink cause rest read taken faulty =>
    refine .cut _ sink cause (rest ++ (entry.line now).toUTF8) (Entry.reads_concat read now entry) ?_ faulty
    rw [linesTaken_concat, ← ByteArray.append_assoc, ← ByteArray.append_assoc, taken]

theorem flush (h : Kept base entries t causes) : Kept base entries t.flush.1 (causes ++ t.flush.2.toList) := by
  cases h with
  | whole lines sink read taken write flush =>
    cases fault : sink.flushFault sink.flushes with
    | none =>
      rw [Transcript.flush_of_none fault]
      exact .whole lines _ read taken write flush
    | some cause =>
      rw [Transcript.flush_of_some fault]
      refine .cut lines _ cause .empty read ?_ ?_
      · rw [ByteArray.append_empty, ← taken]
      · intro sound
        rw [flush, sound.2] at fault
        cases fault
  | cut lines sink cause rest read taken faulty => exact .cut lines sink cause rest read taken faulty

theorem move {t' : Transcript} {more : List Entry} {causes' : List String} (h : Kept base entries t causes)
    (next : t.Move more causes' t') : Kept base (entries ++ more) t' (causes ++ causes') := by
  cases next with
  | none => simpa using h
  | write now entry => exact h.write now entry
  | flush => simpa using h.flush

theorem ne_absent (h : Kept base entries t causes) : t ≠ .absent := by cases h <;> nofun

end Kept

namespace Bus

/-- A run that finds a transcript opens no other. -/
theorem prepare_of_present {bus : Bus} (h : bus.transcript ≠ .absent) (host : Host) :
    (bus.prepare host).result.transcript = bus.transcript ∧
      ∀ event ∈ (bus.prepare host).reports, event.isOpening = false := by
  have kept : openTranscript host { bus with started := true } = pure { bus with started := true } := by
    unfold openTranscript
    split
    · rename_i absent _
      exact absurd absent h
    · rfl
  unfold prepare
  split
  · exact ⟨rfl, by simp⟩
  · rw [kept]
    exact ⟨rfl, by simp [Traced.report, BusEvent.isOpening]⟩

/-- The first run opens the file that the configuration names. -/
theorem prepare_of_created {bus : Bus} {host : Host} {path : String} {sink : Sink} (first : bus.started = false)
    (absent : bus.transcript = .absent) (asked : bus.config.transcriptPath = some path)
    (created : host.create path = .ok sink) : (bus.prepare host).result.transcript = .writing sink := by
  simp [prepare, openTranscript, first, absent, asked, created]

theorem isOpening_transcribe (act : Transcript → Transcript × Option String) (bus : Bus) :
    ∀ event ∈ (bus.transcribe act).reports, event.isOpening = false := by
  intro event h
  rw [reports_transcribe, Option.mem_toList] at h
  obtain ⟨cause, -, rfl⟩ := Option.map_eq_some_iff.1 h
  rfl

theorem isOpening_settle (host : Host) (m : Message) (r : Record) (outcome : Outcome) (bus : Bus) :
    ∀ event ∈ (bus.settle host m r outcome).reports, event.isOpening = false := by
  intro event h
  cases outcome with
  | returned =>
    rcases List.mem_cons.1 h with rfl | h
    · rfl
    · exact isOpening_transcribe _ _ event h
  | panicked cause =>
    obtain rfl := List.mem_singleton.1 h
    rfl

end Bus

namespace LiveBus

variable {ω : Type} {crew : Crew ω} {trace marks : List Mark} {s t : LiveBus ω}

/-! ## What is reported -/

/-- What is told of the messages and their deliveries. -/
def tale (trace : List Mark) : List BusEvent := (reports trace).filter BusEvent.isTale

def entriesIn (trace : List Mark) : List Entry := (reports trace).filterMap BusEvent.entry?

def warnings (trace : List Mark) : List String := (reports trace).filterMap BusEvent.warning?

@[simp] theorem tale_append (xs ys : List Mark) : tale (xs ++ ys) = tale xs ++ tale ys := by simp [tale]

@[simp] theorem entriesIn_append (xs ys : List Mark) : entriesIn (xs ++ ys) = entriesIn xs ++ entriesIn ys := by
  simp [entriesIn]

@[simp] theorem warnings_append (xs ys : List Mark) : warnings (xs ++ ys) = warnings xs ++ warnings ys := by
  simp [warnings]

/-- What is written is told. -/
theorem entriesIn_eq (trace : List Mark) : entriesIn trace = (tale trace).filterMap BusEvent.entry? := by
  rw [entriesIn, tale, List.filterMap_filter]
  refine congrArg (List.filterMap · _) (funext fun event => ?_)
  cases event <;> rfl

/-- Nothing is told of messages, and the transcript is not given up. -/
def IsSilent (marks : List Mark) : Prop := tale marks = [] ∧ warnings marks = []

theorem isSilent_said {α : Type} {x : Traced BusEvent α}
    (h : ∀ event ∈ x.reports, event.isTale = false ∧ event.warning? = none) : IsSilent (said x) := by
  rw [IsSilent, tale, warnings, reports_said, List.filter_eq_nil_iff, List.filterMap_eq_nil_iff]
  exact ⟨fun event hm => by simp [(h event hm).1], fun event hm => (h event hm).2⟩

theorem isSilent_register (crew : Crew ω) (ref : NodeRef) (kind : Option MessageKind) (bus : Bus) (world : ω) :
    IsSilent (said (bus.register crew ref kind world)) := by
  refine isSilent_said fun event h => ?_
  have enrollment := Bus.isEnrollment_register crew ref kind bus world event h
  cases event with
  | registered | sharedIdentity | turnedAway => exact ⟨rfl, rfl⟩
  | _ => cases enrollment

theorem isSilent_prepare (host : Host) (bus : Bus) : IsSilent (said (bus.prepare host)) := by
  refine isSilent_said fun event h => ?_
  rcases Bus.prepared_or_opening host bus h with opening | rfl
  · cases event with
    | transcriptCreated | transcriptNotCreated => exact ⟨rfl, rfl⟩
    | _ => cases opening
  · exact ⟨rfl, rfl⟩

/-- A try on the transcript tells nothing of messages; if the transcript is given up, a warning says so. -/
theorem told_transcribe (act : Transcript → Transcript × Option String) (bus : Bus) :
    tale (said (bus.transcribe act)) = [] ∧ warnings (said (bus.transcribe act)) = (act bus.transcript).2.toList := by
  rw [tale, warnings, reports_said, Bus.reports_transcribe]
  cases (act bus.transcript).2 with
  | none => exact ⟨rfl, rfl⟩
  | some cause => exact ⟨rfl, rfl⟩

theorem told_announce (host : Host) (e : Envelope) (bus : Bus) :
    tale (said (bus.announce host e)) = [.dispatching e] ∧
      warnings (said (bus.announce host e)) = (bus.transcript.write host.now (.dispatched e)).2.toList := by
  obtain ⟨tale, warned⟩ := told_transcribe (·.write host.now (.dispatched e)) bus
  exact ⟨congrArg (BusEvent.dispatching e :: ·) tale, warned⟩

theorem told_settle (host : Host) (m : Message) (r : Record) (outcome : Outcome) (bus : Bus) :
    tale (said (bus.settle host m r outcome)) = [outcome.event m r] := by
  cases outcome with
  | returned => exact congrArg (BusEvent.consumed r :: ·) (told_transcribe (·.write host.now (.consumed r)) bus).1
  | panicked => rfl

/-- Nothing happens to messages while nobody is inside. -/
theorem Step.silent_of_idle (h : Step crew s marks t) (idle : s.stage = .idle) : IsSilent marks := by
  cases h with
  | register ref kind => exact isSilent_register crew ref kind s.bus s.world
  | enter host => exact isSilent_prepare host s.bus
  | send | stop | disturb | proceed | heed | elapse | swap | close | again | leave => exact ⟨rfl, rfl⟩
  | _ => simp_all

/-- Before the first run nobody is inside, and nothing happens to messages. -/
def Fresh (trace : List Mark) (s : LiveBus ω) : Prop := s.bus.started = false → s.stage = .idle ∧ IsSilent trace

theorem Fresh.step (inv : Fresh trace s) (h : Step crew s marks t) : Fresh (trace ++ marks) t := by
  intro unopened
  have earlier : s.bus.started = false := by
    by_contra started
    rw [h.started_mono (by simpa using started)] at unopened
    cases unopened
  obtain ⟨idle, tale, warned⟩ := inv earlier
  obtain ⟨tale', warned'⟩ := h.silent_of_idle idle
  refine ⟨?_, by rw [tale_append, tale, tale']; rfl, by rw [warnings_append, warned, warned']; rfl⟩
  rcases h.registration with ⟨ref, kind, -, rfl, -⟩ | ⟨host, -, rfl, -⟩ | ⟨-, -, stays, -⟩
  · exact idle
  · simp at unopened
  · exact stays idle

theorem Reachable.fresh (h : Reachable crew trace s) : Fresh trace s := by
  induction h with
  | new => exact fun _ => ⟨rfl, rfl, rfl⟩
  | step _ step ih => exact ih.step step

/-! ## What a step writes -/

theorem IsSilent.entriesIn (silent : IsSilent marks) : LiveBus.entriesIn marks = [] := by
  rw [entriesIn_eq, silent.1]
  rfl

theorem transcript_enrolled (crew : Crew ω) (ref : NodeRef) (kind : Option MessageKind) (s : LiveBus ω) :
    (s.enrolled crew ref kind).bus.transcript = s.bus.transcript := by
  cases h : s.bus.started with
  | false => rw [enrolled_of_open h]
  | true => rw [enrolled_of_started h]

theorem moved_of_silent (silent : IsSilent marks) (same : t.bus.transcript = s.bus.transcript) :
    s.bus.transcript.Move (entriesIn marks) (warnings marks) t.bus.transcript := by
  rw [silent.entriesIn, silent.2, same]
  exact .none

/-- A step writes a line for what it tells, or flushes, or leaves the transcript alone. -/
theorem Step.moves (h : Step crew s marks t) (present : s.bus.transcript ≠ .absent) :
    s.bus.transcript.Move (entriesIn marks) (warnings marks) t.bus.transcript := by
  cases h with
  | register ref kind =>
    exact moved_of_silent (isSilent_register crew ref kind s.bus s.world) (transcript_enrolled crew ref kind s)
  | enter host => exact moved_of_silent (isSilent_prepare host s.bus) (Bus.prepare_of_present present host).1
  | take host last e rest at_ next =>
    obtain ⟨tale, warned⟩ := told_announce host e (s.bus.popped rest)
    rw [entriesIn_eq, tale, warned, Bus.result_announce, Bus.result_transcribe]
    exact .write host.now (.dispatched e)
  | finish host last e r rest world outcome at_ =>
    rw [entriesIn_eq, told_settle]
    cases outcome with
    | returned =>
      have warned := (told_transcribe (·.write host.now (.consumed r)) s.bus).2
      have transcript := congrArg Bus.transcript (Bus.result_transcribe (·.write host.now (.consumed r)) s.bus)
      exact transcript ▸ warned ▸ .write host.now (.consumed r)
    | panicked => exact .none
  | flush last e at_ =>
    obtain ⟨tale, warned⟩ := told_transcribe (·.flush) s.bus
    rw [entriesIn_eq, tale, warned, Bus.result_transcribe]
    exact .flush
  | _ => exact .none

theorem Step.opens_none (h : Step crew s marks t) (present : s.bus.transcript ≠ .absent) :
    ∀ event ∈ reports marks, event.isOpening = false := by
  intro event hm
  cases h with
  | register ref kind =>
    rw [reports_cons, reports_said] at hm
    have enrollment := Bus.isEnrollment_register crew ref kind s.bus s.world event hm
    cases event with
    | registered | sharedIdentity | turnedAway => rfl
    | _ => cases enrollment
  | enter host =>
    rw [reports_cons, reports_said] at hm
    exact (Bus.prepare_of_present present host).2 event hm
  | take host last e rest =>
    rw [reports_said, Bus.reports_announce] at hm
    rcases List.mem_cons.1 hm with rfl | hm
    · rfl
    · exact Bus.isOpening_transcribe _ _ event hm
  | flush =>
    rw [reports_said] at hm
    exact Bus.isOpening_transcribe _ _ event hm
  | finish host last e r rest world outcome =>
    rw [reports_said] at hm
    exact Bus.isOpening_settle host e.message r outcome s.bus event hm
  | leave | call | note =>
    obtain rfl := List.mem_singleton.1 hm
    rfl
  | _ => cases hm

end LiveBus

end VesselBus
