import ApiTypes.Proofs.Failing
import ApiTypes.Yaml.Scalars

/-!
# Texts without a value

A text need not have a value under a tag: `ApiTypes.Yaml.Refuses` says when it has none, and
`ApiTypes.Yaml.Refusal` lists what is wrong then, tag by tag. A text under a tag of its own can be
refused as well, since the form that a tag asks for says nothing about the length of a month.
-/

namespace ApiTypes.Yaml

/-- **A text has no value** under a tag, with what is wrong. -/
inductive Refuses : Tag → Text → Failure → Prop
  /-- It is no truth value. -/
  | bool {t : Text} {e : Failure} : boolValue t = .error e → Refuses .bool t e
  /-- It is no integer. -/
  | int {t : Text} {e : Failure} : intValue t = .error e → Refuses .int t e
  /-- It is no double. -/
  | float {label : Nat} {t : Text} {e : Failure} : floatValue label t = .error e →
      Refuses .float t e
  /-- It is no date and no moment. -/
  | timestamp {t : Text} {e : Failure} : stampValue t = .error e → Refuses .timestamp t e

/-- **What can be wrong** with what has a tag. -/
inductive Refusal : Tag → Failure → Prop
  /-- A word is no truth value. -/
  | notTruthValue (word : Text) : Refusal .bool (.notTruthValue word)
  /-- An integer has no digits. -/
  | noInteger : Refusal .int .emptyNumber
  /-- Some digits are no integer. -/
  | notInteger (base : Nat) (digits : Text) : Refusal .int (.notInteger base digits)
  /-- A double has no digits. -/
  | noFloat : Refusal .float .emptyNumber
  /-- Some digits are no double. -/
  | notFloat (digits : Text) : Refusal .float (.notFloat digits)
  /-- A double has too many parts. -/
  | beyondDoubles : Refusal .float .beyondDoubles
  /-- A text has not the form of a date or of a moment. -/
  | notTimestamp : Refusal .timestamp .notTimestamp
  /-- There is no such date or moment. -/
  | noSuchTime (cause : CalendarError) : Refusal .timestamp (.noSuchTime cause)
  /-- A date or a moment is no scalar. -/
  | notText : Refusal .timestamp (.notText .list)

theorem refusal_boolValue (t : Text) : FailsOnly (Refusal .bool) (boolValue t) := by
  unfold boolValue
  dsimp only
  split
  · simp
  · exact failsOnly_error.2 (.notTruthValue _)

theorem refusal_integer (base : Nat) (t : Text) : FailsOnly (Refusal .int) (integer base t) := by
  unfold integer
  split
  · simp
  · exact failsOnly_error.2 (.notInteger base t)

theorem refusal_magnitude (t : Text) : FailsOnly (Refusal .int) (magnitude t) := by
  unfold magnitude
  split
  · exact failsOnly_error.2 .noInteger
  · simp
  · exact refusal_integer 2 _
  · exact refusal_integer 16 _
  · exact refusal_integer 8 _
  · split
    · exact failsOnly_map.2 (FailsOnly.mapM (refusal_integer 10) _)
    · exact refusal_integer 10 _

theorem refusal_intValue (t : Text) : FailsOnly (Refusal .int) (intValue t) := by
  unfold intValue
  split
  · exact failsOnly_error.2 .noInteger
  · exact failsOnly_map.2 (refusal_magnitude _)
  · exact failsOnly_map.2 (refusal_magnitude _)
  · exact failsOnly_map.2 (refusal_magnitude _)

theorem refusal_double (t : Text) : FailsOnly (Refusal .float) (double t) := by
  unfold double
  split
  · simp
  · exact failsOnly_error.2 (.notFloat t)

theorem refusal_sixtiesFloat (sum : Float) (base : Nat) (parts : List Float) :
    FailsOnly (Refusal .float) (sixtiesFloat sum base parts) := by
  induction parts generalizing sum base with
  | nil => simp [sixtiesFloat]
  | cons x rest ih =>
    rw [sixtiesFloat]
    split
    · exact ih _ _
    · exact failsOnly_error.2 .beyondDoubles

theorem refusal_floatMagnitude (t : Text) : FailsOnly (Refusal .float) (floatMagnitude t) := by
  unfold floatMagnitude
  split
  · simp
  · split
    · exact (FailsOnly.mapM refusal_double _).bind fun parts _ => refusal_sixtiesFloat 0 1 _
    · exact refusal_double t

theorem refusal_floatValue (label : Nat) (t : Text) :
    FailsOnly (Refusal .float) (floatValue label t) := by
  unfold floatValue
  dsimp only
  split
  · exact failsOnly_error.2 .noFloat
  · split
    · simp
    · exact failsOnly_map.2 (refusal_floatMagnitude _)

theorem refusal_ofCalendar {α : Type} (r : Except CalendarError α) :
    FailsOnly (Refusal .timestamp) (ofCalendar r) := by
  unfold ofCalendar
  split
  · simp
  · exact failsOnly_error.2 (.noSuchTime _)

theorem refusal_stampValue (t : Text) : FailsOnly (Refusal .timestamp) (stampValue t) := by
  unfold stampValue
  split
  · exact failsOnly_error.2 .notTimestamp
  · dsimp only
    split
    · exact failsOnly_map.2 (refusal_ofCalendar _)
    · exact failsOnly_map.2 (refusal_ofCalendar _)

/-- What is wrong with a text that has no value. -/
theorem Refuses.refusal {tag : Tag} {t : Text} {e : Failure} (h : Refuses tag t e) :
    Refusal tag e := by
  cases h with
  | bool h => exact refusal_boolValue t e h
  | int h => exact refusal_intValue t e h
  | float h => exact refusal_floatValue _ t e h
  | timestamp h => exact refusal_stampValue t e h

theorem failsOnly_binaryValue (t : Text) : FailsOnly (· = .unparsable) (binaryValue t) := by
  unfold binaryValue
  repeat' split
  all_goals simp

end ApiTypes.Yaml
