import FileMode.Calendar
import FileMode.Text.Quoted

/-!
Why a text is not read as a document, or why a scalar of a document has no value.
-/

namespace FileMode.Document

/-- A cause for which a document has no value. -/
inductive Fault where
  /-- The text does not follow the grammar, or a node does not suit its tag. -/
  | malformed
  /-- An escape names a number that is no code point. -/
  | codePoint (n : Nat)
  /-- An escape names half of a character, which no text here can hold. -/
  | surrogate (n : Nat)
  /-- The text of an integer is no literal of the base. -/
  | integer (base : Nat) (text : String)
  /-- An integer, of a scalar or of a version, has more digits than are converted. -/
  | integerSize (digits : Nat)
  /-- The text of a number is empty, or that of an integer nothing but a sign. -/
  | emptyNumber
  /-- The text of a floating point number is no literal. -/
  | float (text : String)
  /-- A number of base sixty has too many places for floating point. -/
  | floatSize
  /-- The text of a truth value is none of the words for one. -/
  | truth (text : String)
  /-- The text of a point in time does not have the form of one. -/
  | timestamp
  /-- The text of a point in time names no date or time. -/
  | calendar (e : CalendarError)
  /-- A point in time is asked of a node that is not a scalar. -/
  | timestampNode
deriving DecidableEq, Repr

end FileMode.Document
