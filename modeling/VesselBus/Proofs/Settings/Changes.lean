import VesselBus.Node.Settings

/-!
# What has been set

Settings are changed one value at a time. Each value is the one that it was set to last, and the others have no part in
it.
-/

namespace VesselBus

inductive SettingsChange where
  | setLoopTime (node : NodeId) (loopTime : Duration)
  | setLogQueueSize (size : Nat)
  deriving DecidableEq, Repr

namespace SettingsChange

/-- The loop time that a change sets for a node, if it sets one. -/
def loopTime? (node : NodeId) : SettingsChange → Option Duration
  | .setLoopTime other loopTime => if other = node then some loopTime else none
  | .setLogQueueSize _ => none

def logQueueSize? : SettingsChange → Option Nat
  | .setLoopTime .. => none
  | .setLogQueueSize size => some size

end SettingsChange

namespace Settings

def change (s : Settings) : SettingsChange → Settings
  | .setLoopTime node loopTime => s.setLoopTime node loopTime
  | .setLogQueueSize size => s.setLogQueueSize size

def changeEach (s : Settings) (changes : List SettingsChange) : Settings := changes.foldl change s

theorem loopTime_change (s : Settings) (c : SettingsChange) (node : NodeId) :
    (s.change c).loopTime node = (c.loopTime? node).or (s.loopTime node) := by
  cases c with
  | setLoopTime other loopTime =>
    rw [change, loopTime_setLoopTime, SettingsChange.loopTime?]
    by_cases same : other = node
    · rw [if_pos same, if_pos same.symm]
      rfl
    · rw [if_neg same, if_neg (Ne.symm same)]
      rfl
  | setLogQueueSize size => rfl

theorem logQueueSize_change (s : Settings) (c : SettingsChange) :
    (s.change c).logQueueSize = c.logQueueSize?.or s.logQueueSize := by
  cases c <;> rfl

/-- A value that every change sets or leaves alone is in the end the one that was set last. -/
theorem changeEach_of_change {α : Type} (value : Settings → Option α) {set? : SettingsChange → Option α}
    (change : ∀ s c, value (s.change c) = (set? c).or (value s)) (s : Settings) (changes : List SettingsChange) :
    value (s.changeEach changes) = (changes.filterMap set?).getLast?.or (value s) := by
  induction changes generalizing s with
  | nil => rfl
  | cons c rest ih =>
    rw [changeEach, List.foldl_cons, ← changeEach, ih, change]
    cases found : set? c with
    | none =>
      rw [List.filterMap_cons_none found]
      rfl
    | some x =>
      rw [List.filterMap_cons_some found, List.getLast?_cons]
      cases (rest.filterMap set?).getLast? <;> rfl

theorem loopTime_changeEach (s : Settings) (changes : List SettingsChange) (node : NodeId) :
    (s.changeEach changes).loopTime node =
      (changes.filterMap (·.loopTime? node)).getLast?.or (s.loopTime node) :=
  changeEach_of_change (·.loopTime node) (fun s c => loopTime_change s c node) s changes

theorem logQueueSize_changeEach (s : Settings) (changes : List SettingsChange) :
    (s.changeEach changes).logQueueSize =
      (changes.filterMap SettingsChange.logQueueSize?).getLast?.or s.logQueueSize :=
  changeEach_of_change (·.logQueueSize) logQueueSize_change s changes

end Settings

end VesselBus
