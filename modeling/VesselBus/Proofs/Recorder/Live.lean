import VesselBus.Node.Recorder
import VesselBus.Proofs.Worker.Live

/-!
# A recorder in use

The dispatcher delivers, a worker looks at the buffer from time to time, and one thread starts, flushes and
stops. The buffer and the store have a lock each. So whoever takes a batch out of the buffer holds it for a
while before the store has it, and others may come in between.
-/

namespace VesselBus

/-- What a worker has in hand while it is inside its body. -/
inductive Errand where
  /-- It has read how many entries make a batch. -/
  | sized (size : Nat)
  | carrying (batch : List LogEntry)
  deriving DecidableEq, Repr

/-- Where the thread is that starts, flushes and stops. -/
inductive Control where
  | free
  /-- In a stop, it waits for a worker. -/
  | joining (index : Nat)
  | closing
  | storing (stopping : Bool) (batch : List LogEntry)
  deriving DecidableEq, Repr

structure LiveRecorder (σ : Type) where
  recorder : Recorder
  store : σ
  errands : List (Nat × Errand) := []
  control : Control := .free

inductive RecorderMark where
  | delivered (now : TimeOfDay) (m : Message)
  | handed (batch : List LogEntry)
  | stopCalled
  | stopReturned
  | reported (report : ThreadReport)

namespace Recorder

def buffering (r : Recorder) (buffer : LogBuffer) : Recorder := { r with buffer }

def manning (r : Recorder) (slot : WorkerSlot) : Recorder := { r with slot }

end Recorder

namespace LiveRecorder

variable {σ : Type}

def said {α : Type} (x : Traced ThreadReport α) : List RecorderMark := x.reports.map .reported

/-- A flush or a stop does not call the store for nothing. -/
def handing (batch : List LogEntry) : List RecorderMark := if batch.isEmpty then [] else [.handed batch]

/-- The size of a batch may change between a worker's read of it and its look at the buffer. A store that panics
takes a call of flush or stop down with it, and ends a worker. -/
inductive Step (store : LogStore σ) : LiveRecorder σ → List RecorderMark → LiveRecorder σ → Prop where
  | deliver (s : LiveRecorder σ) (settings : Option Settings) (now : TimeOfDay) (m : Message) :
    Step store s [.delivered now m] { s with recorder := s.recorder.receive settings now m }
  | refresh (s : LiveRecorder σ) (settings : Option Settings) :
    Step store s [] { s with recorder := s.recorder.refresh settings }
  | open_ (s : LiveRecorder σ) : Step store s [] { s with store := (store.opened s.store).2 }
  | start (s : LiveRecorder σ) (slot : WorkerSlot) (free : s.control = .free)
    (accepted : s.recorder.slot.start.result = .ok slot) :
    Step store s (said s.recorder.slot.start) { s with recorder := s.recorder.manning slot }
  | refuse (s : LiveRecorder σ) (e : LifecycleError) (free : s.control = .free)
    (refused : s.recorder.slot.start.result = .error e) : Step store s (said s.recorder.slot.start) s
  | starve (s : LiveRecorder σ) (free : s.control = .free) (idle : s.recorder.slot.isRunning = false) :
    Step store s (said s.recorder.slot.reap)
      { s with recorder := s.recorder.manning s.recorder.slot.reap.result }
  | flush (s : LiveRecorder σ) (free : s.control = .free) :
    Step store s []
      { s with
        recorder := s.recorder.buffering s.recorder.buffer.take.2
        control := .storing false s.recorder.buffer.take.1 }
  | stopNobody (s : LiveRecorder σ) (slot : WorkerSlot) (free : s.control = .free)
    (left : (s.recorder.slot.requestStop .outsider).result = (slot, none)) :
    Step store s (.stopCalled :: said (s.recorder.slot.requestStop .outsider))
      { s with recorder := s.recorder.manning slot, control := .closing }
  | stop (s : LiveRecorder σ) (slot : WorkerSlot) (index : Nat) (free : s.control = .free)
    (taken : (s.recorder.slot.requestStop .outsider).result = (slot, some index)) :
    Step store s (.stopCalled :: said (s.recorder.slot.requestStop .outsider))
      { s with recorder := s.recorder.manning slot, control := .joining index }
  | join (s : LiveRecorder σ) (index : Nat) (waits : s.control = .joining index)
    (ended : s.recorder.slot.isLive index = false) :
    Step store s (said (s.recorder.slot.join index)) { s with control := .closing }
  | close (s : LiveRecorder σ) (closing : s.control = .closing) :
    Step store s []
      { s with
        recorder := s.recorder.buffering s.recorder.buffer.take.2
        control := .storing true s.recorder.buffer.take.1 }
  | store (s : LiveRecorder σ) (stopping : Bool) (batch : List LogEntry) (state : σ)
    (storing : s.control = .storing stopping batch)
    (stored : (Recorder.handOver store batch s.store).result = (none, state)) :
    Step store s
      (handing batch ++ said ((Recorder.handOver store batch s.store).mapReports .caller) ++
        if stopping then [.stopReturned] else [])
      { s with store := state, control := .free }
  | storePanics (s : LiveRecorder σ) (stopping : Bool) (batch : List LogEntry) (cause : String) (state : σ)
    (storing : s.control = .storing stopping batch)
    (panicked : (Recorder.handOver store batch s.store).result = (some cause, state)) :
    Step store s
      (handing batch ++ said ((Recorder.handOver store batch s.store).mapReports .caller))
      { s with store := state, control := .free }
  | enter (s : LiveRecorder σ) (index : Nat) (poised : s.recorder.slot.phase? index = some .poised) :
    Step store s [] { s with recorder := s.recorder.manning (s.recorder.slot.update index Worker.enter) }
  | look (s : LiveRecorder σ) (index : Nat) (working : s.recorder.slot.phase? index = some .working)
    (fresh : index ∉ s.errands.map (·.1)) :
    Step store s [] { s with errands := (index, .sized s.recorder.buffer.size) :: s.errands }
  /-- There is too little in the buffer, so the worker comes back with nothing. -/
  | turnBack (s : LiveRecorder σ) (index size : Nat) (sized : (index, .sized size) ∈ s.errands)
    (few : s.recorder.buffer.pending.length < size) :
    Step store s []
      { s with
        recorder := s.recorder.manning (s.recorder.slot.leave index false)
        errands := s.errands.erase (index, .sized size) }
  | take (s : LiveRecorder σ) (index size : Nat) (sized : (index, .sized size) ∈ s.errands)
    (enough : size ≤ s.recorder.buffer.pending.length) :
    Step store s []
      { s with
        recorder := s.recorder.buffering s.recorder.buffer.take.2
        errands := (index, .carrying s.recorder.buffer.take.1) :: s.errands.erase (index, .sized size) }
  | hand (s : LiveRecorder σ) (index : Nat) (batch : List LogEntry)
    (carrying : (index, .carrying batch) ∈ s.errands) :
    Step store s
      (.handed batch :: said ((Recorder.write store batch s.store).mapReports .worker))
      { s with
        recorder := s.recorder.manning
          (s.recorder.slot.leave index (Recorder.write store batch s.store).result.1.isSome)
        store := (Recorder.write store batch s.store).result.2
        errands := s.errands.erase (index, .carrying batch) }
  | wake (s : LiveRecorder σ) (index : Nat) (waiting : s.recorder.slot.phase? index = some .waiting) :
    Step store s (said (s.recorder.slot.wake index))
      { s with recorder := s.recorder.manning (s.recorder.slot.wake index).result }

/-- What may come of a recorder that is new, with the marks that led there. -/
inductive Reachable (store : LogStore σ) : List RecorderMark → LiveRecorder σ → Prop where
  | new (size : Nat) (loopTime : Duration) (state : σ) :
    Reachable store [] { recorder := .create size loopTime, store := state }
  | step {trace marks : List RecorderMark} {s t : LiveRecorder σ} :
    Reachable store trace s → Step store s marks t → Reachable store (trace ++ marks) t

end LiveRecorder

end VesselBus
