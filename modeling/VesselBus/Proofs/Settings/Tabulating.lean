import VesselBus.Config.Table
import VesselBus.Proofs.Settings.Changes
import VesselBus.Proofs.Time.Seconds
import Mathlib.Data.List.Perm.Basic

/-!
# Settings that a table gives

The entries of a table are visited in some order, and the first one that no settings can be made from ends it. The order
shows only in which complaint comes up if there are several: the settings are the same in every order, and so is a
complaint that is the only one.
-/

namespace VesselBus

namespace ConfigTable

/-! ## One entry -/

abbrev Entry := String × Double

/-- The name is a node's, and the number of seconds is a length of time. -/
def IsSound (e : Entry) : Prop := (∃ node : NodeId, node.name = e.1) ∧ ∃ d : Duration, e.2.Lasts d

/-- What is wrong with an entry: first of all its name, and then its time. -/
inductive IsFault : Entry → NodeError → Prop where
  | unknownNode {name : String} {seconds : Double} (unknown : ∀ node : NodeId, node.name ≠ name) :
    IsFault (name, seconds) (.config .none (.unknownNode name))
  | badLoopTime {node : NodeId} {seconds : Double} (bad : ∀ d : Duration, ¬ seconds.Lasts d) :
    IsFault (node.name, seconds) (.config node (.badLoopTime seconds))

theorem IsFault.entry {e : Entry} {cause : NodeError} (h : IsFault e cause) : entry e.1 e.2 = .error cause := by
  cases h with
  | unknownNode unknown =>
    unfold ConfigTable.entry
    rw [NodeId.ofName?_eq_none_iff.2 unknown]
  | badLoopTime bad =>
    unfold ConfigTable.entry
    rw [NodeId.ofName?_name, Double.ofSeconds?_eq_none_iff.2 bad]

theorem IsFault.unique {e : Entry} {cause other : NodeError} (h : IsFault e cause) (h' : IsFault e other) :
    cause = other :=
  Except.error.inj (h.entry.symm.trans h'.entry)

theorem entry_cases (e : Entry) :
    (∃ node d, node.name = e.1 ∧ e.2.Lasts d ∧ entry e.1 e.2 = .ok (node, d)) ∨
    ∃ cause, IsFault e cause := by
  obtain ⟨name, seconds⟩ := e
  cases named : NodeId.ofName? name with
  | none => exact .inr ⟨_, .unknownNode (NodeId.ofName?_eq_none_iff.1 named)⟩
  | some node =>
    obtain rfl := NodeId.name_of_ofName? named
    cases timed : Duration.ofSeconds? seconds with
    | none => exact .inr ⟨_, .badLoopTime (Double.ofSeconds?_eq_none_iff.1 timed)⟩
    | some d =>
      refine .inl ⟨node, d, rfl, Double.ofSeconds?_eq_some_iff.1 timed, ?_⟩
      unfold entry
      rw [named, timed]

theorem IsFault.not_isSound {e : Entry} {cause : NodeError} (h : IsFault e cause) : ¬ IsSound e := by
  rintro ⟨⟨node, named⟩, d, lasts⟩
  cases h with
  | unknownNode unknown => exact unknown node named
  | badLoopTime bad => exact bad d lasts

theorem exists_isFault {e : Entry} (unsound : ¬ IsSound e) : ∃ cause, IsFault e cause := by
  rcases entry_cases e with ⟨node, d, named, lasts, -⟩ | fault
  · exact absurd ⟨⟨node, named⟩, d, lasts⟩ unsound
  · exact fault

/-! ## One visit after the other -/

def visit (s : Settings) (e : Entry) : Except NodeError Settings := do
  let (node, loopTime) ← entry e.1 e.2
  return s.setLoopTime node loopTime

theorem ofTable_eq (table : ConfigTable) :
    Settings.ofTable table = (do
      let s ← table.loopTimes.foldlM visit Settings.empty
      return { s with logQueueSize := table.logQueueSize }) := rfl

/-- What the visits to some entries make of the settings. -/
structure Holds (entries : List Entry) (s t : Settings) : Prop where
  sound : ∀ e ∈ entries, IsSound e
  named : ∀ node seconds, (node.name, seconds) ∈ entries → ∃ d, seconds.Lasts d ∧ t.loopTime node = some d
  unnamed : ∀ node, (∀ e ∈ entries, e.1 ≠ node.name) → t.loopTime node = s.loopTime node

/-- An entry in front of others: they are about other nodes, and leave what it gives as it is. -/
theorem Holds.cons {e : Entry} {rest : List Entry} {s t : Settings} {node : NodeId} {d : Duration}
    (named : node.name = e.1) (lasts : e.2.Lasts d) (apart : e.1 ∉ rest.map Prod.fst)
    (holds : Holds rest (s.setLoopTime node d) t) : Holds (e :: rest) s t := by
  constructor
  case sound =>
    intro e' there
    rcases List.mem_cons.1 there with rfl | there
    · exact ⟨⟨node, named⟩, d, lasts⟩
    · exact holds.sound e' there
  case named =>
    intro other seconds there
    rcases List.mem_cons.1 there with rfl | there
    · obtain rfl := NodeId.name_injective named
      refine ⟨d, lasts, ?_⟩
      rw [holds.unnamed node fun e' there same => apart (List.mem_map.2 ⟨e', there, same⟩)]
      exact if_pos rfl
    · exact holds.named other seconds there
  case unnamed =>
    intro other absent
    rw [holds.unnamed other fun e' there => absent e' (List.mem_cons_of_mem _ there)]
    apply if_neg
    rintro rfl
    exact absent e List.mem_cons_self named.symm

theorem visits_cases (entries : List Entry) (distinct : (entries.map Prod.fst).Nodup) (s : Settings) :
    (∃ t, entries.foldlM visit s = .ok t ∧ Holds entries s t) ∨
    ∃ e ∈ entries, ∃ cause, IsFault e cause ∧ entries.foldlM visit s = .error cause := by
  induction entries generalizing s with
  | nil =>
    left
    refine ⟨s, rfl, ?_, ?_, ?_⟩
    · simp
    · simp
    · exact fun node _ => rfl
  | cons e rest ih =>
    rw [List.map_cons, List.nodup_cons] at distinct
    rcases entry_cases e with ⟨node, d, named, lasts, taken⟩ | ⟨cause, fault⟩
    · have visited : visit s e = .ok (s.setLoopTime node d) := by
        rw [visit, taken]
        rfl
      rw [List.foldlM_cons, visited]
      rcases ih distinct.2 (s.setLoopTime node d) with ⟨t, done, holds⟩ | ⟨e', there, cause, fault, failed⟩
      · exact .inl ⟨t, done, holds.cons named lasts distinct.1⟩
      · exact .inr ⟨e', List.mem_cons_of_mem _ there, cause, fault, failed⟩
    · right
      refine ⟨e, List.mem_cons_self, cause, fault, ?_⟩
      rw [List.foldlM_cons, visit, fault.entry]
      rfl

variable {table : ConfigTable} {entries others : List Entry} {s t u : Settings}

/-- The order of the entries does not show in the settings that they make. -/
theorem Holds.loopTime_eq (h : Holds entries s t) (h' : Holds others s u) (same : others.Perm entries) :
    u.loopTime = t.loopTime := by
  funext node
  by_cases present : ∃ e ∈ entries, e.1 = node.name
  · obtain ⟨⟨_, seconds⟩, there, rfl⟩ := present
    obtain ⟨d, lasts, held⟩ := h.named node seconds there
    obtain ⟨d', lasts', held'⟩ := h'.named node seconds (same.mem_iff.2 there)
    rw [held, held', lasts.unique lasts']
  · have absent : ∀ e ∈ entries, e.1 ≠ node.name := fun e there named => present ⟨e, there, named⟩
    rw [h.unnamed node absent, h'.unnamed node fun e there => absent e (same.mem_iff.1 there)]

def visiting (table : ConfigTable) (entries : List Entry) : ConfigTable := { table with loopTimes := entries }

theorem ofTable_cases (table : ConfigTable) (distinct : (entries.map Prod.fst).Nodup) :
    (∃ s, Settings.ofTable (table.visiting entries) = .ok s ∧ Holds entries .empty s ∧
      s.logQueueSize = table.logQueueSize) ∨
    ∃ e ∈ entries, ∃ cause, IsFault e cause ∧ Settings.ofTable (table.visiting entries) = .error cause := by
  rw [ofTable_eq]
  rcases visits_cases entries distinct .empty with ⟨t, done, holds⟩ | ⟨e, there, cause, fault, failed⟩
  · left
    refine ⟨{ t with logQueueSize := table.logQueueSize }, ?_, ⟨holds.sound, holds.named, holds.unnamed⟩, rfl⟩
    rw [visiting, done]
    rfl
  · right
    refine ⟨e, there, cause, fault, ?_⟩
    rw [visiting, failed]
    rfl

theorem holds_of_ok (distinct : (table.loopTimes.map Prod.fst).Nodup) (done : Settings.ofTable table = .ok s) :
    Holds table.loopTimes .empty s ∧ s.logQueueSize = table.logQueueSize := by
  rcases ofTable_cases table distinct with ⟨t, done', holds, size⟩ | ⟨e, -, cause, -, failed⟩
  · have same : s = t := Except.ok.inj (done.symm.trans done')
    exact same ▸ ⟨holds, size⟩
  · cases done.symm.trans failed

/-! ## The result -/

/-- What the settings hold that a table gives, and what becomes of them when they are changed. -/
structure Gives (table : ConfigTable) (s : Settings) : Prop where
  named : ∀ node seconds, (node.name, seconds) ∈ table.loopTimes → ∃ d, seconds.Lasts d ∧ s.loopTime node = some d
  unnamed : ∀ node : NodeId, (∀ e ∈ table.loopTimes, e.1 ≠ node.name) → s.loopTime node = none
  size : s.logQueueSize = table.logQueueSize
  /-- Each value is the last that was set, or else the table's. -/
  changed : ∀ changes node, (s.changeEach changes).loopTime node =
    (changes.filterMap (·.loopTime? node)).getLast?.or (s.loopTime node)
  resized : ∀ changes, (s.changeEach changes).logQueueSize =
    (changes.filterMap SettingsChange.logQueueSize?).getLast?.or table.logQueueSize
  /-- A change leaves alone whatever it does not set. -/
  alone : ∀ changes c,
    (∀ node, c.loopTime? node = none →
      (s.changeEach (changes ++ [c])).loopTime node = (s.changeEach changes).loopTime node) ∧
    (c.logQueueSize? = none → (s.changeEach (changes ++ [c])).logQueueSize = (s.changeEach changes).logQueueSize)

structure Tabulates (table : ConfigTable) : Prop where
  succeeds : ∀ entries : List Entry, entries.Perm table.loopTimes →
    ((∃ s, Settings.ofTable (table.visiting entries) = .ok s) ↔ ∀ e ∈ table.loopTimes, IsSound e)
  same : ∀ s, Settings.ofTable table = .ok s → ∀ entries : List Entry, entries.Perm table.loopTimes →
    Settings.ofTable (table.visiting entries) = .ok s
  gives : ∀ s, Settings.ofTable table = .ok s → table.Gives s
  /-- An entry that is the only bad one is complained of in every order. -/
  fails : ∀ bad ∈ table.loopTimes, ¬ IsSound bad → (∀ e ∈ table.loopTimes, e ≠ bad → IsSound e) →
    ∃ cause, IsFault bad cause ∧ ∀ entries : List Entry, entries.Perm table.loopTimes →
      Settings.ofTable (table.visiting entries) = .error cause

theorem gives_of_holds (holds : Holds table.loopTimes .empty s) (size : s.logQueueSize = table.logQueueSize) :
    table.Gives s := by
  constructor
  case named => exact holds.named
  case unnamed => exact holds.unnamed
  case size => exact size
  case changed => exact s.loopTime_changeEach
  case resized =>
    intro changes
    rw [s.logQueueSize_changeEach, size]
  case alone =>
    intro changes c
    have last : s.changeEach (changes ++ [c]) = (s.changeEach changes).change c := List.foldl_concat ..
    rw [last]
    constructor
    · intro node untouched
      rw [Settings.loopTime_change, untouched]
      rfl
    · intro untouched
      rw [Settings.logQueueSize_change, untouched]
      rfl

/-- A table that names nobody twice says what the settings are, in whatever order it is read. -/
theorem tabulates_of_distinct (table : ConfigTable) (distinct : (table.loopTimes.map Prod.fst).Nodup) :
    table.Tabulates := by
  have outcome (entries : List Entry) (perm : entries.Perm table.loopTimes) :=
    ofTable_cases table ((perm.map Prod.fst).nodup_iff.2 distinct)
  constructor
  case succeeds =>
    intro entries perm
    rcases outcome entries perm with ⟨s, done, holds, -⟩ | ⟨e, there, cause, fault, failed⟩
    · exact ⟨fun _ e there => holds.sound e (perm.mem_iff.2 there), fun _ => ⟨s, done⟩⟩
    · constructor
      · rintro ⟨s, done⟩
        rw [failed] at done
        cases done
      · intro sound
        exact absurd (sound e (perm.mem_iff.1 there)) fault.not_isSound
  case same =>
    intro s done entries perm
    obtain ⟨holds, size⟩ := holds_of_ok distinct done
    rcases outcome entries perm with ⟨t, done', holds', size'⟩ | ⟨e, there, cause, fault, -⟩
    · have equal : t = s := by
        cases s
        cases t
        exact congrArg₂ Settings.mk (holds.loopTime_eq holds' perm) (size'.trans size.symm)
      rw [done', equal]
    · exact absurd (holds.sound e (perm.mem_iff.1 there)) fault.not_isSound
  case gives =>
    intro s done
    obtain ⟨holds, size⟩ := holds_of_ok distinct done
    exact gives_of_holds holds size
  case fails =>
    intro bad there unsound sound
    obtain ⟨cause, fault⟩ := exists_isFault unsound
    refine ⟨cause, fault, fun entries perm => ?_⟩
    rcases outcome entries perm with ⟨s, -, holds, -⟩ | ⟨e, there', other, fault', failed⟩
    · exact absurd (holds.sound bad (perm.mem_iff.2 there)) unsound
    · by_cases same : e = bad
      · subst same
        rw [failed, fault.unique fault']
      · exact absurd (sound e (perm.mem_iff.1 there') same) fault'.not_isSound

/-- Half a nanosecond too much twice over, once to be left out and once to be filled up, and the longest time below
`2 ^ 64` seconds. -/
def halves : ConfigTable where
  loopTimes := [("Compass", ⟨0x3f50000000000000⟩), ("Gpsd", ⟨0x3f68000000000000⟩), ("None", ⟨0x43efffffffffffff⟩)]
  logQueueSize := some 8

theorem tabulates_of_distinct_halves : (halves.loopTimes.map Prod.fst).Nodup ∧ halves.Tabulates ∧
    ((Settings.ofTable (halves.visiting halves.loopTimes.reverse)).map fun s =>
      [NodeId.compass, .gpsd, .none, .simulator].map fun node => (s.loopTime node).map (·.nanos)) =
      .ok [some 976562, some 2929688, some 18446744073709549568000000000, none] :=
  ⟨by decide, tabulates_of_distinct halves (by decide), by decide +kernel⟩

end ConfigTable

end VesselBus
