import FileMode.Number.Binary64
import FileMode.Number.Radix
import FileMode.Text.Digit

/-!
Number literals in texts: integers in a base and decimal floating point numbers. Blanks around a
literal are skipped, digits of all scripts count as the ASCII ones, and single underscores may
stand between digits.

Mirrors `int` and `float` where they are given a text.
-/

namespace FileMode.Literal

open FileMode.Text

inductive IntegerError where
  | malformed
  /-- It has more decimal digits than are converted. -/
  | tooLong (digits : Nat)
deriving DecidableEq, Repr

/-- The number of digits up to which a literal is converted in a base that is no power of two. -/
def maxDigits : Nat := 4300

/-- The values of digits with single underscores between them. Nothing results if there is no digit,
or if an underscore stands first, last or beside another. -/
def digits? (base : Nat) : List Char → Option (List Nat)
  | [] => none
  | [c] => (Radix.digitValue? base c).map ([·])
  | c :: '_' :: cs => do
    let d ← Radix.digitValue? base c
    let ds ← digits? base cs
    return d :: ds
  | c :: cs => do
    let d ← Radix.digitValue? base c
    let ds ← digits? base cs
    return d :: ds

/-- Splits a sign off: whether it is a minus, and the rest. -/
def splitSign : List Char → Bool × List Char
  | '-' :: cs => (true, cs)
  | '+' :: cs => (false, cs)
  | cs => (false, cs)

/-- The letter that may follow a zero to announce the base. -/
def announces (base : Nat) (c : Char) : Bool :=
  match base with
  | 2 => c = 'b' || c = 'B'
  | 8 => c = 'o' || c = 'O'
  | 16 => c = 'x' || c = 'X'
  | _ => false

/-- Drops an announcement of the base, and one underscore after it. -/
def dropAnnouncement (base : Nat) : List Char → List Char
  | '0' :: c :: cs =>
    if announces base c then
      match cs with
      | '_' :: rest => rest
      | _ => cs
    else '0' :: c :: cs
  | cs => cs

/-- The magnitude that the part of a literal after its sign denotes. -/
def magnitude (base : Nat) (cs : List Char) : Except IntegerError Nat :=
  match digits? base (dropAnnouncement base cs) with
  | none => .error .malformed
  | some ds =>
    if base = 10 && maxDigits < ds.length then .error (.tooLong ds.length)
    else .ok (Radix.ofDigits base ds)

/-- Reads an integer literal in `base`. -/
def integer (base : Nat) (cs : List Char) : Except IntegerError Int := do
  let (negative, body) := splitSign (trimBlanks (cs.map foldAscii))
  let n ← magnitude base body
  return if negative then -n else n

/-! ### Floating point literals -/

def optionalDigits? : List Char → Option (List Nat)
  | [] => some []
  | cs => digits? 10 cs

def exponent? (cs : List Char) : Option Int := do
  let (negative, body) := splitSign cs
  let ds ← digits? 10 body
  let n : Int := Radix.ofDigits 10 ds
  return if negative then -n else n

/-- Reads digits with a point among them and an exponent after them, without a sign. -/
def decimal? (negative : Bool) (cs : List Char) : Option Binary64 := do
  let (body, tail) := cs.span fun c => c ≠ 'e' && c ≠ 'E'
  let power ← match tail with
    | [] => some 0
    | _ :: cs => exponent? cs
  let (whole, tail) := body.span (· ≠ '.')
  let wholeDigits ← optionalDigits? whole
  let fractionDigits ← match tail with
    | [] => some []
    | _ :: cs => optionalDigits? cs
  let ds := wholeDigits ++ fractionDigits
  if ds.isEmpty then none
  else return .ofDecimal negative (Radix.ofDigits 10 ds) (power - fractionDigits.length)

/-- Reads a floating point literal: a decimal number, or one of the words for infinity and for an
undefined number, with a sign. -/
def float? (cs : List Char) : Option Binary64 :=
  let (negative, body) := splitSign (trimBlanks (cs.map foldAscii))
  match String.ofList (body.map Char.toLower) with
  | "inf" => some (.infinite negative)
  | "infinity" => some (.infinite negative)
  | "nan" => some .nan
  | _ => decimal? negative body

end FileMode.Literal
