import FileMode.Document.Character

/-!
Gaps in scalars that run over several lines. One line break between two lines of a scalar stands for
a space; each blank line beyond it stands for a break.
-/

namespace FileMode.Document

/-- The blank lines at some place of a text. -/
structure BlankLines where
  /-- What each of their breaks stands for. -/
  breaks : List Char
  /-- The number of characters that they and the indentation of the next line take. -/
  taken : Nat
  /-- The column at which the next line goes on. -/
  column : Nat
  /-- Whether a line that follows is a document marker. -/
  marker : Bool
deriving DecidableEq, Repr

namespace BlankLines

def none (column : Nat) (marker : Bool) : BlankLines := ⟨[], 0, column, marker⟩

def indent (b : BlankLines) (n : Nat) : BlankLines := { b with taken := b.taken + n }

def after (b : BlankLines) (value : Char) (n : Nat) : BlankLines :=
  { b with breaks := value :: b.breaks, taken := b.taken + n }

/-- Reads blank lines from a column on; `fresh` holds at the start of a line. `pad` says which
characters indent a line. -/
def read (pad : Char → Bool) : (fresh : Bool) → (column : Nat) → List Char → BlankLines
  | _, column, [] => none column false
  | _, _, '\r' :: '\n' :: cs => (read pad true 0 cs).after '\n' 2
  | fresh, column, c :: cs =>
    if fresh && atMarker (c :: cs) then none column true
    else if pad c then (read pad false (column + 1) cs).indent 1
    else match breakValue? c with
      | some value => (read pad true 0 cs).after value 1
      | Option.none => none column false

end BlankLines

/-- What a break and the breaks of the blank lines after it stand for. -/
def foldBreaks (first : Char) (breaks : List Char) : List Char :=
  if first ≠ '\n' then first :: breaks
  else if breaks.isEmpty then [' ']
  else breaks

end FileMode.Document
