import VesselBus.Bus.Transcript
import Mathlib.Data.List.Forall2

/-!
# How a line of the transcript reads

A header names the kind of a message, where it came from and whom it is for, and a line under it names a node. Every
line also has times of day in it, which are left open but for their form.
-/

namespace VesselBus

/-! ## Times of day -/

/-- Decimal digits, and so many of them at least. -/
structure IsNumeral (width : Nat) (text : String) : Prop where
  long : width ≤ text.length
  digits : ∀ c ∈ text.toList, c.isDigit = true

/-- Some time of day: hours, minutes, seconds and thousandths. -/
def IsStamp (text : String) : Prop :=
  ∃ hour minute second milli, IsNumeral 2 hour ∧ IsNumeral 2 minute ∧ IsNumeral 2 second ∧ IsNumeral 3 milli ∧
    text = hour ++ ":" ++ minute ++ ":" ++ second ++ ":" ++ milli

namespace TimeOfDay

theorem isNumeral_padded (width n : Nat) : IsNumeral width (padded width n) := by
  unfold padded
  constructor
  case long =>
    rw [String.length_append, String.length_ofList, List.length_replicate]
    omega
  case digits =>
    intro c hc
    rw [String.toList_append, String.toList_ofList, List.mem_append] at hc
    rcases hc with padding | digit
    · rw [List.eq_of_mem_replicate padding]
      rfl
    · rw [Nat.toString_eq_repr, Nat.toList_repr] at digit
      exact Nat.isDigit_of_mem_toDigits (by decide) (by decide) digit

theorem isStamp_stamp (t : TimeOfDay) : IsStamp t.stamp :=
  ⟨_, _, _, _, isNumeral_padded 2 t.hour, isNumeral_padded 2 t.minute, isNumeral_padded 2 t.second,
    isNumeral_padded 3 t.milli, rfl⟩

end TimeOfDay

/-! ## Lines -/

namespace Entry

/-- The text of a line, its times of day apart. -/
inductive Reads : Entry → String → Prop where
  | header (m : Message) (time : TimeOfDay) {now received : String} (written : IsStamp now)
    (queued : IsStamp received) :
    Reads (.dispatched ⟨m, time⟩)
      ("[" ++ now ++ "] Type=" ++ m.kind.name ++ "(" ++ toString m.kind.code.toNat ++ ") SourceID=" ++
        toString m.source.code.toNat ++ " Destination=" ++ toString m.destination.code.toNat ++ " Received=" ++
        received ++ "\n")
  | consumer (r : Record) {now : String} (written : IsStamp now) :
    Reads (.consumed r) ("\t" ++ now ++ " Consumed by Node: " ++ r.name ++ "(" ++ toString r.id.code.toNat ++ ")\n")

theorem reads_line (now : TimeOfDay) (entry : Entry) : entry.Reads (entry.line now) := by
  cases entry with
  | dispatched e =>
    have header := Reads.header e.message e.received now.isStamp_stamp e.received.isStamp_stamp
    simpa only [line, toString, String.append_assoc] using header
  | consumed r =>
    have consumer := Reads.consumer r now.isStamp_stamp
    simpa only [line, toString, String.append_assoc] using consumer

end Entry

end VesselBus
