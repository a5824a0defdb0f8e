import VesselBus.Proofs.Bus.Live

/-!
# What a trace tells

The messages that were sent and dispatched, the deliveries that were begun, and what the parts of the bus
report and leave alone.
-/

namespace VesselBus

@[simp] def BusEvent.dispatched? : BusEvent → Option Envelope
  | .dispatching e => some e
  | _ => none

@[simp] def BusEvent.delivery? : BusEvent → Option (NodeRef × Message)
  | .called ref m => some (ref, m)
  | _ => none

/-- It tells of an object that was to be registered. -/
def BusEvent.isEnrollment : BusEvent → Bool
  | .registered _ | .sharedIdentity _ | .turnedAway _ => true
  | _ => false

/-- A file was opened for the transcript, or could not be. -/
def BusEvent.isOpening : BusEvent → Bool
  | .transcriptCreated _ | .transcriptNotCreated .. => true
  | _ => false

namespace Mark

@[simp] def sent? : Mark → Option Envelope
  | .sent e => some e
  | _ => none

@[simp] def event? : Mark → Option BusEvent
  | .reported event => some event
  | _ => none

def isSwap : Mark → Bool
  | .swapped => true
  | _ => false

end Mark

namespace LiveBus

/-! ## Readings of a trace -/

def sent (trace : List Mark) : List Envelope := trace.filterMap Mark.sent?

abbrev reports (trace : List Mark) : List BusEvent := trace.filterMap Mark.event?

/-- The messages that were taken off the back of the queue. -/
def dispatched (trace : List Mark) : List Envelope := (reports trace).filterMap BusEvent.dispatched?

def journal (trace : List Mark) : List (NodeRef × Message) :=
  (reports trace).filterMap BusEvent.delivery?

/-- What happened after the buffers last traded places. -/
def sinceSwap (trace : List Mark) : List Mark := trace.rtakeWhile (!·.isSwap)

@[simp] theorem sent_append (xs ys : List Mark) : sent (xs ++ ys) = sent xs ++ sent ys :=
  List.filterMap_append

@[simp] theorem sent_nil : sent [] = [] := rfl

@[simp] theorem sent_cons (m : Mark) (ms : List Mark) : sent (m :: ms) = m.sent?.toList ++ sent ms := by
  cases m <;> rfl

@[simp] theorem reports_append (xs ys : List Mark) : reports (xs ++ ys) = reports xs ++ reports ys :=
  List.filterMap_append

@[simp] theorem reports_nil : reports [] = [] := rfl

@[simp] theorem reports_cons (m : Mark) (ms : List Mark) :
    reports (m :: ms) = m.event?.toList ++ reports ms := by
  cases m <;> rfl

@[simp] theorem sent_said {α : Type} (x : Traced BusEvent α) : sent (said x) = [] := by
  simp [sent, said, List.filterMap_eq_nil_iff]

@[simp] theorem reports_said {α : Type} (x : Traced BusEvent α) : reports (said x) = x.reports := by
  simp [reports, said, List.filterMap_map, Function.comp_def]

@[simp] theorem dispatched_append (xs ys : List Mark) : dispatched (xs ++ ys) = dispatched xs ++ dispatched ys := by
  simp [dispatched]

@[simp] theorem journal_append (xs ys : List Mark) : journal (xs ++ ys) = journal xs ++ journal ys := by
  simp [journal]

theorem said_not_swap {α : Type} (x : Traced BusEvent α) : ∀ m ∈ said x, m.isSwap = false := by
  simp [said, Mark.isSwap]

@[simp] theorem sinceSwap_swapped (trace : List Mark) : sinceSwap (trace ++ [.swapped]) = [] := by
  simp [sinceSwap, Mark.isSwap]

theorem sinceSwap_append {trace marks : List Mark} (h : ∀ m ∈ marks, m.isSwap = false) :
    sinceSwap (trace ++ marks) = sinceSwap trace ++ marks := by
  rw [sinceSwap, List.rtakeWhile, List.reverse_append, List.takeWhile_append_of_pos]
  · simp [sinceSwap, List.rtakeWhile]
  · intro m hm
    simp [h m (List.mem_reverse.1 hm)]

end LiveBus

/-! ## The parts of the bus -/

def Registry.enroll (g : Registry) (call : Enrollment) : Registry :=
  let g := if g.knows call.ref then g else g.add { ref := call.ref, id := call.id, name := call.name }
  match call.kind with
  | none => g
  | some kind => g.subscribe call.ref kind

/-- A part that begins no dispatch and no delivery. -/
def Traced.IsQuiet {α : Type} (x : Traced BusEvent α) : Prop :=
  ∀ event ∈ x.reports, event.dispatched? = none ∧ event.delivery? = none

theorem Traced.IsQuiet.dispatched {α : Type} {x : Traced BusEvent α} (h : x.IsQuiet) :
    x.reports.filterMap BusEvent.dispatched? = [] :=
  List.filterMap_eq_nil_iff.2 fun event hm => (h event hm).1

theorem Traced.IsQuiet.deliveries {α : Type} {x : Traced BusEvent α} (h : x.IsQuiet) :
    x.reports.filterMap BusEvent.delivery? = [] :=
  List.filterMap_eq_nil_iff.2 fun event hm => (h event hm).2

namespace Bus

variable {ω : Type}

/-- At most one thing is reported of a try: that the transcript is given up. -/
theorem reports_transcribe (act : Transcript → Transcript × Option String) (bus : Bus) :
    (bus.transcribe act).reports = ((act bus.transcript).2.map .transcriptGivenUp).toList := by
  unfold transcribe
  rcases act bus.transcript with ⟨transcript, _ | cause⟩ <;> rfl

theorem result_transcribe (act : Transcript → Transcript × Option String) (bus : Bus) :
    (bus.transcribe act).result = { bus with transcript := (act bus.transcript).1 } := by
  unfold transcribe
  rcases act bus.transcript with ⟨transcript, _ | cause⟩ <;> rfl

@[simp] theorem queue_transcribe (act : Transcript → Transcript × Option String) (bus : Bus) :
    (bus.transcribe act).result.queue = bus.queue := by rw [result_transcribe]

@[simp] theorem registry_transcribe (act : Transcript → Transcript × Option String) (bus : Bus) :
    (bus.transcribe act).result.registry = bus.registry := by rw [result_transcribe]

@[simp] theorem started_transcribe (act : Transcript → Transcript × Option String) (bus : Bus) :
    (bus.transcribe act).result.started = bus.started := by rw [result_transcribe]

theorem isQuiet_transcribe (act : Transcript → Transcript × Option String) (bus : Bus) :
    (bus.transcribe act).IsQuiet := by
  intro event h
  rw [reports_transcribe, Option.mem_toList] at h
  obtain ⟨cause, -, rfl⟩ := Option.map_eq_some_iff.1 h
  exact ⟨rfl, rfl⟩

theorem reports_announce (host : Host) (e : Envelope) (bus : Bus) :
    (bus.announce host e).reports =
      .dispatching e :: (bus.transcribe (·.write host.now (.dispatched e))).reports := rfl

theorem result_announce (host : Host) (e : Envelope) (bus : Bus) :
    (bus.announce host e).result = (bus.transcribe (·.write host.now (.dispatched e))).result := rfl

theorem isQuiet_settle (host : Host) (m : Message) (r : Record) (outcome : Outcome) (bus : Bus) :
    (bus.settle host m r outcome).IsQuiet := by
  intro event h
  cases outcome with
  | returned =>
    rcases List.mem_cons.1 h with rfl | h
    · exact ⟨rfl, rfl⟩
    · exact isQuiet_transcribe _ _ event h
  | panicked cause =>
    obtain rfl := List.mem_singleton.1 h
    exact ⟨rfl, rfl⟩

/-- A settled delivery has touched nothing but the transcript. -/
theorem result_settle (host : Host) (m : Message) (r : Record) (outcome : Outcome) (bus : Bus) :
    ∃ transcript, (bus.settle host m r outcome).result = { bus with transcript } := by
  cases outcome with
  | returned => exact ⟨_, result_transcribe _ bus⟩
  | panicked => exact ⟨_, rfl⟩

@[simp] theorem queue_settle (host : Host) (m : Message) (r : Record) (outcome : Outcome) (bus : Bus) :
    (bus.settle host m r outcome).result.queue = bus.queue := by
  obtain ⟨transcript, h⟩ := result_settle host m r outcome bus
  rw [h]

@[simp] theorem registry_settle (host : Host) (m : Message) (r : Record) (outcome : Outcome) (bus : Bus) :
    (bus.settle host m r outcome).result.registry = bus.registry := by
  obtain ⟨transcript, h⟩ := result_settle host m r outcome bus
  rw [h]

@[simp] theorem started_settle (host : Host) (m : Message) (r : Record) (outcome : Outcome) (bus : Bus) :
    (bus.settle host m r outcome).result.started = bus.started := by
  obtain ⟨transcript, h⟩ := result_settle host m r outcome bus
  rw [h]

theorem isOpening_openTranscript (host : Host) (bus : Bus) :
    ∀ event ∈ (bus.openTranscript host).reports, event.isOpening = true := by
  intro event h
  unfold openTranscript at h
  split at h
  · split at h <;> (obtain rfl := List.mem_singleton.1 h; rfl)
  · simp at h

theorem result_openTranscript (host : Host) (bus : Bus) :
    ∃ transcript, (bus.openTranscript host).result = { bus with transcript } := by
  unfold openTranscript
  split
  · split <;> exact ⟨_, rfl⟩
  · exact ⟨_, rfl⟩

theorem reports_prepare (host : Host) (bus : Bus) :
    (bus.prepare host).reports =
      if bus.started then []
      else (openTranscript host { bus with started := true }).reports ++ [.running bus.registry.size] := by
  unfold prepare
  split
  · rfl
  · obtain ⟨transcript, h⟩ := result_openTranscript host { bus with started := true }
    rw [Traced.reports_bind, h]
    rfl

/-- A run that begins may open the transcript, and says how many nodes there are. -/
theorem prepared_or_opening (host : Host) (bus : Bus) {event : BusEvent} (h : event ∈ (bus.prepare host).reports) :
    event.isOpening = true ∨ event = .running bus.registry.size := by
  rw [reports_prepare] at h
  split at h
  · simp at h
  · rcases List.mem_append.1 h with h | h
    · exact .inl (isOpening_openTranscript _ _ event h)
    · exact .inr (List.mem_singleton.1 h)

theorem isQuiet_prepare (host : Host) (bus : Bus) : (bus.prepare host).IsQuiet := by
  intro event h
  rcases prepared_or_opening host bus h with opening | rfl
  · cases event with
    | transcriptCreated | transcriptNotCreated => exact ⟨rfl, rfl⟩
    | _ => cases opening
  · exact ⟨rfl, rfl⟩

/-- Preparing a run closes the registration, and may open the transcript. -/
theorem result_prepare (host : Host) (bus : Bus) :
    ∃ transcript, (bus.prepare host).result = { bus with started := true, transcript } := by
  unfold prepare
  split
  · rename_i h
    exact ⟨bus.transcript, by rw [← h]; rfl⟩
  · exact result_openTranscript host { bus with started := true }

@[simp] theorem queue_prepare (host : Host) (bus : Bus) : (bus.prepare host).result.queue = bus.queue := by
  obtain ⟨transcript, h⟩ := result_prepare host bus
  rw [h]

@[simp] theorem registry_prepare (host : Host) (bus : Bus) :
    (bus.prepare host).result.registry = bus.registry := by
  obtain ⟨transcript, h⟩ := result_prepare host bus
  rw [h]

@[simp] theorem started_prepare (host : Host) (bus : Bus) : (bus.prepare host).result.started = true := by
  obtain ⟨transcript, h⟩ := result_prepare host bus
  rw [h]

/-- A registration has a record made unless there is one, and adds a kind to it. -/
theorem register_of_open {bus : Bus} (h : bus.started = false) (crew : Crew ω) (ref : NodeRef)
    (kind : Option MessageKind) (world : ω) :
    (bus.register crew ref kind world).result.1 =
      .ok { bus with registry := bus.registry.enroll (crew.enrollment ref kind world) } := by
  unfold register enroll Registry.enroll Crew.enrollment
  rw [if_neg (by simp [h])]
  by_cases known : bus.registry.knows ref = true
  · cases kind <;> simp [known]
  · by_cases shared : (bus.registry.find? (crew.id ref world).1).isSome = true <;>
      cases kind <;> simp [known, shared]

theorem register_of_started {bus : Bus} (h : bus.started = true) (crew : Crew ω) (ref : NodeRef)
    (kind : Option MessageKind) (world : ω) :
    ∃ e, (bus.register crew ref kind world).result.1 = .error e := by
  unfold register
  rw [if_pos h]
  exact ⟨_, rfl⟩

theorem isEnrollment_enroll (crew : Crew ω) (ref : NodeRef) (bus : Bus) (world : ω) :
    ∀ event ∈ (bus.enroll crew ref world).reports, event.isEnrollment = true := by
  intro event h
  unfold enroll at h
  split at h
  · simp at h
  · by_cases shared : (bus.registry.find? (crew.id ref world).1).isSome = true
    · simp [shared, Traced.report] at h
      rcases h with rfl | rfl <;> rfl
    · simp [shared, Traced.report] at h
      subst h
      rfl

theorem isEnrollment_register (crew : Crew ω) (ref : NodeRef) (kind : Option MessageKind) (bus : Bus) (world : ω) :
    ∀ event ∈ (bus.register crew ref kind world).reports, event.isEnrollment = true := by
  intro event h
  unfold register at h
  split at h
  · obtain rfl := List.mem_singleton.1 h
    rfl
  · rcases List.mem_append.1 h with h | h
    · exact isEnrollment_enroll _ _ _ _ event h
    · cases kind <;> simp at h

theorem isQuiet_register (crew : Crew ω) (ref : NodeRef) (kind : Option MessageKind) (bus : Bus)
    (world : ω) : (bus.register crew ref kind world).IsQuiet := by
  intro event h
  have enrollment := isEnrollment_register crew ref kind bus world event h
  cases event with
  | registered | sharedIdentity | turnedAway => exact ⟨rfl, rfl⟩
  | _ => cases enrollment

end Bus

namespace LiveBus

variable {ω : Type} {crew : Crew ω} {s : LiveBus ω}

theorem dispatched_said {α : Type} {x : Traced BusEvent α} (h : x.IsQuiet) : dispatched (said x) = [] := by
  rw [dispatched, reports_said, h.dispatched]

theorem journal_said {α : Type} {x : Traced BusEvent α} (h : x.IsQuiet) : journal (said x) = [] := by
  rw [journal, reports_said, h.deliveries]

theorem dispatched_announce (host : Host) (e : Envelope) (bus : Bus) :
    dispatched (said (bus.announce host e)) = [e] := by
  rw [dispatched, reports_said, Bus.reports_announce]
  exact congrArg (e :: ·) (Bus.isQuiet_transcribe _ bus).dispatched

theorem journal_announce (host : Host) (e : Envelope) (bus : Bus) :
    journal (said (bus.announce host e)) = [] := by
  rw [journal, reports_said, Bus.reports_announce]
  exact (Bus.isQuiet_transcribe _ bus).deliveries

theorem enrolled_of_open (h : s.bus.started = false) (ref : NodeRef) (kind : Option MessageKind) :
    (s.enrolled crew ref kind).bus =
      { s.bus with registry := s.bus.registry.enroll (crew.enrollment ref kind s.world) } := by
  simp [enrolled, Bus.register_of_open h, Except.toOption]

theorem enrolled_of_started (h : s.bus.started = true) (ref : NodeRef) (kind : Option MessageKind) :
    (s.enrolled crew ref kind).bus = s.bus := by
  obtain ⟨e, he⟩ := Bus.register_of_started h crew ref kind s.world
  simp [enrolled, he, Except.toOption]

end LiveBus

end VesselBus
