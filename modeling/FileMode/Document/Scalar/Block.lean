import FileMode.Document.Fault
import FileMode.Document.Folding
import FileMode.Number.Radix

/-!
Block scalars, which keep the lines under a header as they are or fold them. The header may say how
far the lines are indented and what becomes of the breaks at the end.

Mirrors `scan_block_scalar`.
-/

namespace FileMode.Document.Block

/-- Whether lines are kept or folded. -/
inductive Style where
  | literal | folded
deriving DecidableEq, Repr

/-- What becomes of the breaks after the last line: all go, one stays, or all stay. -/
inductive Chomping where
  | strip | clip | keep
deriving DecidableEq, Repr

structure Header where
  chomping : Chomping
  /-- The indentation beyond that of the collection around the scalar. -/
  indent? : Option Nat
  taken : Nat
deriving DecidableEq, Repr

def chomping? (c : Char) : Option Chomping :=
  if c = '+' then some .keep else if c = '-' then some .strip else none

/-- Reads the indicators after the mark of a block scalar, in either order. An indentation of zero
is refused. -/
def indicators (cs : List Char) : Except Fault Header :=
  match cs with
  | [] => .ok ⟨.clip, none, 0⟩
  | c :: rest =>
    match chomping? c, Radix.digitValue? 10 c with
    | some chomping, _ =>
      match rest.head?.bind (Radix.digitValue? 10) with
      | some 0 => .error .malformed
      | some n => .ok ⟨chomping, some n, 2⟩
      | none => .ok ⟨chomping, none, 1⟩
    | none, some 0 => .error .malformed
    | none, some n =>
      match rest.head?.bind chomping? with
      | some chomping => .ok ⟨chomping, some n, 2⟩
      | none => .ok ⟨.clip, some n, 1⟩
    | none, none => .ok ⟨.clip, none, 0⟩

/-- Reads the header: the indicators and the rest of their line with its break. -/
def header (cs : List Char) : Except Fault Header := do
  let h ← indicators cs
  let rest := cs.drop h.taken
  if !endsOr isSpaceOrBreak rest then throw .malformed
  let some n := restOfLine? rest | throw .malformed
  let breakSize := match lineBreak? (rest.drop n) with
    | some (_, size) => size
    | none => 0
  return { h with taken := h.taken + n + breakSize }

/-- The blank lines before the first line of a scalar, when its indentation is still to be found:
what their breaks stand for, the characters they take, the greatest column that their spaces reach,
and the column at which the first line begins. -/
structure Opening where
  breaks : List Char
  taken : Nat
  widest : Nat
  column : Nat
deriving DecidableEq, Repr

def opening : (column widest : Nat) → List Char → Opening
  | column, widest, [] => ⟨[], 0, widest, column⟩
  | _, widest, '\r' :: '\n' :: cs =>
    let more := opening 0 widest cs
    { more with breaks := '\n' :: more.breaks, taken := more.taken + 2 }
  | column, widest, c :: cs =>
    if c = ' ' then
      let more := opening (column + 1) (max widest (column + 1)) cs
      { more with taken := more.taken + 1 }
    else match breakValue? c with
      | some value =>
        let more := opening 0 widest cs
        { more with breaks := value :: more.breaks, taken := more.taken + 1 }
      | none => ⟨[], 0, widest, column⟩

/-- Reads blank lines up to the line that reaches column `indent`, from a column on. Spaces beyond
`indent` belong to a line. -/
def blankLines (indent : Nat) : (column : Nat) → List Char → BlankLines
  | column, [] => .none column false
  | _, '\r' :: '\n' :: cs => (blankLines indent 0 cs).after '\n' 2
  | column, c :: cs =>
    if c = ' ' then
      if column < indent then (blankLines indent (column + 1) cs).indent 1 else .none column false
    else match breakValue? c with
      | some value => (blankLines indent 0 cs).after value 1
      | none => .none column false

structure Body where
  /-- The lines and the breaks between them. -/
  text : List Char
  /-- The break after the last line, if there is one. -/
  last : List Char
  /-- The breaks of the blank lines after that. -/
  tail : List Char
  taken : Nat
deriving DecidableEq, Repr

/-- What the break between two lines stands for. Folding turns a lone break between lines that both
begin with text into a space. -/
def join (style : Style) (textBefore : Bool) (value : List Char) (breaks : List Char)
    (textAfter : Bool) : List Char :=
  if style = .folded && value = ['\n'] && textBefore && textAfter then
    if breaks.isEmpty then [' '] else []
  else value

/-- Reads the lines of a scalar after `skip` characters, at the start of a line that is indented as
far as the scalar is. -/
def lines (style : Style) (indent : Nat) : (skip : Nat) → List Char → Body
  | _, [] => ⟨[], [], [], 0⟩
  | skip + 1, _ :: cs => lines style indent skip cs
  | 0, c :: cs =>
    let line := c :: cs.takeWhile (!isBreak ·)
    let rest := (c :: cs).drop line.length
    let (value, n) := match lineBreak? rest with
      | some (value, n) => ([value], n)
      | none => ([], 0)
    let blank := blankLines indent 0 (rest.drop n)
    let after := (rest.drop n).drop blank.taken
    let taken := line.length + n + blank.taken
    if n ≠ 0 && blank.column = indent && !after.isEmpty then
      let more := lines style indent (taken - 1) cs
      { more with
        text := line ++ join style (!isSpaceOrTab c) value blank.breaks
            (!begins isSpaceOrTab after) ++ blank.breaks ++ more.text
        taken := taken + more.taken }
    else ⟨line, value, blank.breaks, taken⟩

def chomp (chomping : Chomping) (body : Body) : List Char :=
  match chomping with
  | .strip => body.text
  | .clip => body.text ++ body.last
  | .keep => body.text ++ body.last ++ body.tail

/-- Reads a block scalar after its mark; `parent` is the least column that a line may be indented
to. Its text and the number of characters it takes result. -/
def read (style : Style) (parent : Nat) (cs : List Char) : Except Fault (List Char × Nat) := do
  let h ← header cs
  let rest := cs.drop h.taken
  let least := max parent 1
  let (indent, blank) := match h.indent? with
    | some n =>
      let indent := least + n - 1
      (indent, blankLines indent 0 rest)
    | none =>
      let o := opening 0 0 rest
      (max least o.widest, ⟨o.breaks, o.taken, o.column, false⟩)
  let first := rest.drop blank.taken
  let body :=
    if blank.column = indent && !first.isEmpty then
      let body := lines style indent 0 first
      { body with text := blank.breaks ++ body.text }
    else ⟨[], [], blank.breaks, 0⟩
  return (chomp h.chomping body, h.taken + blank.taken + body.taken)

end FileMode.Document.Block
