import VesselBus.Node.Sensor
import VesselBus.Proofs.Recorder.Batching
import VesselBus.Proofs.Settings.Changes

/-!
# When new settings are heeded

The settings change while nobody looks. A node looks at them when it has been initialised and when it is told that
there are new ones, and keeps what it finds; a value that it does not find stays as it was. So each value that a node
goes by is the latest that it has found, or else the one that it was made with.
-/

namespace VesselBus

variable {α β ν : Type}

/-- What happens to a node that looks settings up, or to the settings. -/
inductive Occasion where
  | change (c : SettingsChange)
  /-- The node is initialised; what it has to open for that opens or does not. -/
  | init (opened : Except NodeError Unit)
  | deliver (now : TimeOfDay) (m : Message)

namespace Occasion

def looksUp : Occasion → Bool
  | .change _ => false
  | .init opened => opened.isOk
  | .deliver _ m => m.kind == .serverConfigsReceived

def settings (s : Settings) : Occasion → Settings
  | .change c => s.change c
  | _ => s

/-- It is not about the loop time of another node. -/
def concerns (id : NodeId) : Occasion → Bool
  | .change (.setLoopTime node _) => node == id
  | _ => true

def entry? : Occasion → Option LogEntry
  | .deliver now m => LogEntry.of? now m
  | _ => none

/-- The settings at each moment when they are looked up, oldest first. -/
def looks (s : Settings) : List Occasion → List Settings
  | [] => []
  | o :: rest => (if o.looksUp then [s] else []) ++ looks (o.settings s) rest

/-- The value that was there at the latest look at which there was one. -/
def latest? (value : Settings → Option α) (s : Settings) (occasions : List Occasion) : Option α :=
  ((looks s occasions).filterMap value).getLast?

/-- A node that meets some occasions, each with the settings as they are then. -/
def meetEach (meet : Settings → ν → Occasion → ν) (s : Settings) (node : ν) : List Occasion → ν
  | [] => node
  | o :: rest => meetEach meet (o.settings s) (meet s node o) rest

theorem meetEach_concat (meet : Settings → ν → Occasion → ν) (s : Settings) (node : ν) (occasions : List Occasion)
    (o : Occasion) : meetEach meet s node (occasions ++ [o]) =
      meet (occasions.foldl settings s) (meetEach meet s node occasions) o := by
  induction occasions generalizing s node with
  | nil => rfl
  | cons first rest ih => exact ih (first.settings s) (meet s node first)

/-! ## Values that are kept -/

/-- What a node of a kind keeps of a value of the settings: a look at them replaces it, if there is such a value. -/
structure Keeps (meet : Settings → ν → Occasion → ν) (kind : ν → Prop) (value : Settings → Option α) (convert : α → β)
    (kept : ν → β) : Prop where
  stays : ∀ s node o, kind node → kind (meet s node o)
  keeps : ∀ s node o, kind node →
    kept (meet s node o) = if o.looksUp then ((value s).map convert).getD (kept node) else kept node

variable {meet : Settings → ν → Occasion → ν} {kind : ν → Prop} {value : Settings → Option α} {convert : α → β}
  {kept : ν → β}

theorem Keeps.keptEach (keeps : Keeps meet kind value convert kept) (s : Settings) {node : ν} (is : kind node)
    (occasions : List Occasion) :
    kept (meetEach meet s node occasions) = ((latest? value s occasions).map convert).getD (kept node) := by
  induction occasions generalizing s node with
  | nil => rfl
  | cons o rest ih =>
    rw [meetEach, ih (o.settings s) (keeps.stays s node o is), keeps.keeps s node o is, latest?, latest?, looks]
    cases o.looksUp with
    | false => rfl
    | true =>
      cases found : value s with
      | none => simp [found]
      | some x =>
        -- what is found now is kept until a later look finds something
        simp only [if_true, List.cons_append, List.nil_append, List.filterMap_cons_some found, List.getLast?_cons]
        cases ((looks (o.settings s) rest).filterMap value).getLast? <;> rfl

/-! ## Values of others -/

/-- A value of the settings that the loop times of other nodes have no part in. -/
structure IsOwn (id : NodeId) (value : Settings → Option α) : Prop where
  congr : ∀ s s' c, value s = value s' → value (s.change c) = value (s'.change c)
  others : ∀ s node loopTime, node ≠ id → value (s.setLoopTime node loopTime) = value s

theorem isOwn_loopTime (id : NodeId) : IsOwn id (·.loopTime id) := by
  constructor
  · intro s s' c same
    simp only [Settings.loopTime_change, same]
  · intro s node loopTime other
    exact if_neg (Ne.symm other)

theorem isOwn_logQueueSize (id : NodeId) : IsOwn id (·.logQueueSize) := by
  constructor
  · intro s s' c same
    simp only [Settings.logQueueSize_change, same]
  · intro s node loopTime _
    rfl

theorem looksUp_of_not_concerns {id : NodeId} {o : Occasion} (foreign : ¬ o.concerns id = true) (s : Settings) :
    o.looksUp = false ∧ ∃ node loopTime, node ≠ id ∧ o.settings s = s.setLoopTime node loopTime := by
  cases o with
  | init opened => exact absurd rfl foreign
  | deliver now m => exact absurd rfl foreign
  | change c =>
    cases c with
    | setLogQueueSize size => exact absurd rfl foreign
    | setLoopTime node loopTime =>
      refine ⟨rfl, node, loopTime, fun same => foreign ?_, rfl⟩
      rw [same]
      exact beq_self_eq_true id

theorem IsOwn.looks {id : NodeId} {value : Settings → Option α} (own : IsOwn id value) {s s' : Settings}
    (same : value s = value s') (occasions : List Occasion) :
    (looks s' (occasions.filter (concerns id))).filterMap value = (looks s occasions).filterMap value := by
  induction occasions generalizing s s' with
  | nil => rfl
  | cons o rest ih =>
    by_cases concerned : o.concerns id = true
    · have next : value (o.settings s) = value (o.settings s') := by
        cases o with
        | change c => exact own.congr s s' c same
        | init opened => exact same
        | deliver now m => exact same
      rw [List.filter_cons_of_pos concerned, Occasion.looks, Occasion.looks, List.filterMap_append, List.filterMap_append,
        ih next]
      cases o.looksUp <;> simp [List.filterMap_cons, same]
    · obtain ⟨blind, node, loopTime, other, changed⟩ := looksUp_of_not_concerns concerned s
      have next : value (o.settings s) = value s' := by rw [changed, own.others s node loopTime other, same]
      rw [List.filter_cons_of_neg concerned, Occasion.looks, blind, ih next]
      rfl

theorem IsOwn.latest? {id : NodeId} {value : Settings → Option α} (own : IsOwn id value) {s s' : Settings}
    (same : value s = value s') (occasions : List Occasion) :
    latest? value s' (occasions.filter (concerns id)) = latest? value s occasions :=
  congrArg List.getLast? (own.looks same occasions)

end Occasion

/-! ## Sensors -/

namespace Sensor

def meet (settings : Settings) (s : Sensor) : Occasion → Sensor
  | .change _ => s
  | .init opened => (s.init (some settings) opened).result.toOption.getD s
  | .deliver _ m => (s.receive (some settings) m).result

theorem result_refresh (settings : Settings) (s : Sensor) :
    (s.refresh (some settings)).result =
      { s with period := ((settings.loopTime s.id).map .ofDuration).getD s.period } := by
  unfold refresh
  rw [Option.bind_some]
  cases settings.loopTime s.id <;> rfl

theorem meet_eq (settings : Settings) (s : Sensor) (o : Occasion) :
    s.meet settings o = if o.looksUp then (s.refresh (some settings)).result else s := by
  cases o with
  | change c => rfl
  | init opened => cases opened <;> rfl
  | deliver now m =>
    unfold meet receive Occasion.looksUp
    by_cases news : m.kind = .serverConfigsReceived <;> simp [news]

theorem keeps_period (id : NodeId) :
    Occasion.Keeps meet (fun s => s.id = id) (·.loopTime id) LoopPeriod.ofDuration Sensor.period := by
  constructor
  · intro settings s o is
    rw [meet_eq, result_refresh]
    split <;> exact is
  · intro settings s o is
    rw [meet_eq, result_refresh, is]
    split <;> rfl

end Sensor

/-! ## Recorders -/

namespace Recorder

def meet (settings : Settings) (r : Recorder) : Occasion → Recorder
  | .change _ => r
  | .init opened => (r.init (some settings) opened).toOption.getD r
  | .deliver now m => r.receive (some settings) now m

theorem period_refresh (settings : Settings) (r : Recorder) :
    (r.refresh (some settings)).period = ((settings.loopTime id).map .ofDuration).getD r.period := by
  unfold refresh
  cases found : settings.loopTime id <;> cases told : settings.logQueueSize <;> simp [found, told]

/-- An occasion is a look at the settings, or one entry more at most. -/
theorem meet_cases (settings : Settings) (r : Recorder) (o : Occasion) :
    (o.looksUp = true ∧ o.entry? = none ∧ r.meet settings o = r.refresh (some settings)) ∨
    (o.looksUp = false ∧ r.meet settings o = { r with buffer := (o.entry?.map r.buffer.add).getD r.buffer }) := by
  cases o with
  | change c => exact .inr ⟨rfl, rfl⟩
  | init opened =>
    cases opened with
    | error cause => exact .inr ⟨rfl, rfl⟩
    | ok => exact .inl ⟨rfl, rfl, rfl⟩
  | deliver now m =>
    by_cases news : m.kind = .serverConfigsReceived
    · left
      simp [Occasion.looksUp, Occasion.entry?, LogEntry.of?, meet, receive, news]
    · right
      simp [Occasion.looksUp, Occasion.entry?, LogEntry.of?, LogEntry.ofMessage, meet, receive, news]

theorem keeps_period :
    Occasion.Keeps meet (fun _ => True) (·.loopTime id) LoopPeriod.ofDuration Recorder.period := by
  constructor
  · exact fun _ _ _ _ => trivial
  · intro settings r o _
    rcases meet_cases settings r o with ⟨looks, -, met⟩ | ⟨blind, met⟩
    · rw [met, if_pos looks, period_refresh]
    · rw [met, blind]
      rfl

theorem keeps_size :
    Occasion.Keeps meet (fun _ => True) (·.logQueueSize) (max 1) (fun r : Recorder => r.buffer.size) := by
  constructor
  · exact fun _ _ _ _ => trivial
  · intro settings r o _
    rcases meet_cases settings r o with ⟨looks, -, met⟩ | ⟨blind, met⟩
    · rw [met, if_pos looks, size_refresh, Option.bind_some]
      cases settings.logQueueSize with
      | none => rfl
      | some size => exact Nat.max_comm size 1
    · rw [met, blind]
      cases o.entry? <;> rfl

theorem pending_meetEach (settings : Settings) (r : Recorder) (occasions : List Occasion) :
    (Occasion.meetEach meet settings r occasions).buffer.pending =
      r.buffer.pending ++ occasions.filterMap Occasion.entry? := by
  induction occasions generalizing settings r with
  | nil => exact (List.append_nil _).symm
  | cons o rest ih =>
    rw [Occasion.meetEach, ih]
    rcases meet_cases settings r o with ⟨-, nothing, met⟩ | ⟨-, met⟩
    · rw [met, LiveRecorder.pending_refresh, List.filterMap_cons_none nothing]
    · rw [met]
      cases entry : o.entry? with
      | none => rw [List.filterMap_cons_none entry]; rfl
      | some e => rw [List.filterMap_cons_some entry]; simp

end Recorder

/-! ## The result -/

/-- What a loop time is kept as: whole microseconds, and no more of them than a word can count. -/
def keptNanos (loopTime : Duration) : Nat := min (loopTime.nanos / 1000) (2 ^ (64 : Nat) - 1) * 1000

/-- Of two loop times, the one that was found or else the one that was given. -/
theorem nanos_getD_map (found : Option Duration) (given : Duration) :
    ((found.map LoopPeriod.ofDuration).getD (.ofDuration given)).duration.nanos = keptNanos (found.getD given) := by
  rw [Option.getD_map, LoopPeriod.nanos_duration_ofDuration]
  rfl

def Sensor.met (id : NodeId) (loopTime : Duration) (settings : Settings) (occasions : List Occasion) : Sensor :=
  Occasion.meetEach meet settings (.create id loopTime) occasions

structure Sensor.Heeds (id : NodeId) (loopTime : Duration) (settings : Settings) (occasions : List Occasion) : Prop where
  period : (met id loopTime settings occasions).period.duration.nanos =
    keptNanos ((Occasion.latest? (·.loopTime id) settings occasions).getD loopTime)
  /-- Only a look at the settings does anything to it. -/
  blind : ∀ o : Occasion, o.looksUp = false →
    met id loopTime settings (occasions ++ [o]) = met id loopTime settings occasions
  /-- Whatever was and is set for other nodes is as if it were not there. -/
  own : ∀ settings' : Settings, settings.loopTime id = settings'.loopTime id →
    (met id loopTime settings' (occasions.filter (·.concerns id))).period = (met id loopTime settings occasions).period
  fails : ∀ (now : Settings) (opened : Except NodeError Unit) (cause : NodeError),
    ((met id loopTime settings occasions).init (some now) opened).result = .error cause ↔ opened = .error cause

def Recorder.met (size : Nat) (loopTime : Duration) (settings : Settings) (occasions : List Occasion) : Recorder :=
  Occasion.meetEach meet settings (.create size loopTime) occasions

/-- What a recorder looks up. -/
def Recorder.tuning (r : Recorder) : LoopPeriod × Nat := (r.period, r.buffer.size)

structure Recorder.Heeds (size : Nat) (loopTime : Duration) (settings : Settings) (occasions : List Occasion) : Prop where
  period : (met size loopTime settings occasions).period.duration.nanos =
    keptNanos ((Occasion.latest? (·.loopTime Recorder.id) settings occasions).getD loopTime)
  batch : (met size loopTime settings occasions).buffer.size =
    max 1 ((Occasion.latest? (·.logQueueSize) settings occasions).getD size)
  blind : ∀ o : Occasion, o.looksUp = false →
    (met size loopTime settings (occasions ++ [o])).tuning = (met size loopTime settings occasions).tuning
  own : ∀ settings' : Settings, settings.loopTime Recorder.id = settings'.loopTime Recorder.id →
    settings.logQueueSize = settings'.logQueueSize →
    (met size loopTime settings' (occasions.filter (·.concerns Recorder.id))).tuning =
      (met size loopTime settings occasions).tuning
  /-- All messages are recorded but the news of settings. -/
  recorded : (met size loopTime settings occasions).buffer.pending = occasions.filterMap Occasion.entry?
  fails : ∀ (now : Settings) (opened : Except NodeError Unit) (cause : NodeError),
    (met size loopTime settings occasions).init (some now) opened = .error cause ↔ opened = .error cause

theorem Sensor.period_met (id : NodeId) (loopTime : Duration) (settings : Settings) (occasions : List Occasion) :
    (met id loopTime settings occasions).period =
      ((Occasion.latest? (·.loopTime id) settings occasions).map .ofDuration).getD (.ofDuration loopTime) :=
  (keeps_period id).keptEach settings rfl occasions

theorem Recorder.period_met (size : Nat) (loopTime : Duration) (settings : Settings) (occasions : List Occasion) :
    (met size loopTime settings occasions).period =
      ((Occasion.latest? (·.loopTime id) settings occasions).map .ofDuration).getD (.ofDuration loopTime) :=
  keeps_period.keptEach settings trivial occasions

theorem Recorder.size_met (size : Nat) (loopTime : Duration) (settings : Settings) (occasions : List Occasion) :
    (met size loopTime settings occasions).buffer.size =
      max 1 ((Occasion.latest? (·.logQueueSize) settings occasions).getD size) := by
  have kept : (met size loopTime settings occasions).buffer.size =
      ((Occasion.latest? (·.logQueueSize) settings occasions).map (max 1)).getD (max size 1) :=
    keeps_size.keptEach settings trivial occasions
  rw [kept, Nat.max_comm size 1, Option.getD_map]

theorem Sensor.heeds (id : NodeId) (loopTime : Duration) (settings : Settings) (occasions : List Occasion) :
    Heeds id loopTime settings occasions := by
  constructor
  case period => rw [period_met, nanos_getD_map]
  case blind =>
    intro o blind
    rw [met, Occasion.meetEach_concat, meet_eq, blind]
    rfl
  case own =>
    intro settings' same
    rw [period_met, period_met, (Occasion.isOwn_loopTime id).latest? same]
  case fails =>
    intro now opened cause
    cases opened with
    | error other => simp [init]
    | ok => simp [init]

theorem Recorder.heeds (size : Nat) (loopTime : Duration) (settings : Settings) (occasions : List Occasion) :
    Heeds size loopTime settings occasions := by
  constructor
  case period => rw [period_met, nanos_getD_map]
  case batch => exact size_met size loopTime settings occasions
  case blind =>
    intro o blind
    rw [met, Occasion.meetEach_concat]
    rcases meet_cases (occasions.foldl Occasion.settings settings) (met size loopTime settings occasions) o with
      ⟨looks, -, -⟩ | ⟨-, met⟩
    · rw [looks] at blind
      cases blind
    · rw [← Recorder.met, met]
      cases o.entry? <;> rfl
  case own =>
    intro settings' sameTime sameSize
    unfold tuning
    rw [period_met, period_met, size_met, size_met, (Occasion.isOwn_loopTime id).latest? sameTime,
      (Occasion.isOwn_logQueueSize id).latest? sameSize]
  case recorded => exact pending_meetEach settings (.create size loopTime) occasions
  case fails =>
    intro now opened cause
    cases opened with
    | error other => simp [init, Except.map]
    | ok => simp [init, Except.map]

/-- Sensors and recorders go by what they found at their latest look, whatever happens and in whatever order. -/
theorem heeds_settings (settings : Settings) (occasions : List Occasion) :
    (∀ (id : NodeId) (loopTime : Duration), Sensor.Heeds id loopTime settings occasions) ∧
    ∀ (size : Nat) (loopTime : Duration), Recorder.Heeds size loopTime settings occasions :=
  ⟨fun id loopTime => Sensor.heeds id loopTime settings occasions,
    fun size loopTime => Recorder.heeds size loopTime settings occasions⟩

/-- What is set for the compass is found by an initialisation that succeeds, and what is set after it is not. -/
example : (Sensor.met .compass .zero .empty
    [.change (.setLoopTime .compass ⟨2500, by decide⟩), .change (.setLoopTime .gpsd ⟨7000, by decide⟩),
      .init (.error (.io "gone")), .init (.ok ()), .change (.setLoopTime .compass ⟨9000, by decide⟩),
      .deliver ⟨0, 0, 0, 0⟩ (.anonymous .windData)]).period = ⟨2⟩ := by decide

end VesselBus
