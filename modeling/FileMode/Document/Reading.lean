import FileMode.Document.Assembly
import FileMode.Document.Meaning
import FileMode.Document.Tokens

/-!
Reading a text as a document. The text holds at most one document, and none stands for no value.

Mirrors `safe_load`, but that nothing here limits how deep a document is nested, and that a text
with an escape for half of a character has no value.
-/

namespace FileMode.Document

/-- The value of the document that a text holds. -/
def read (text : String) : Except Fault Value := do
  match ← Node.ofTokens (tokens text.toList) with
  | none => return .null
  | some n => n.value

/-- A document stage by stage: the tokens of its text, their node, and the value of the node. -/
theorem read_of_stages {text : String} {ts : List Token} {n : Node}
    (scanned : tokens text.toList = ts) (made : Node.ofTokens ts = .ok (some n)) :
    read text = n.value := by
  rw [read, scanned, made]
  rfl

end FileMode.Document
