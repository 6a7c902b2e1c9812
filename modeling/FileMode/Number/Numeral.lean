import FileMode.Number.Radix
import FileMode.Text.Digit

/-!
Decimal numerals of integers. In its plain form a numeral is a minus sign, if any, and ASCII digits
without a needless zero in front. What is not plain may be tidied: blanks around it, a plus sign,
zeros in front, behind a minus sign too, a fraction of zeros and underscores among the digits are
left out. A point with nothing behind it makes no fraction.

A field of settings that is given a byte string is read so.
-/

namespace FileMode.Numeral

inductive Fault where
  | malformed
  /-- It reaches further than numerals are read. -/
  | tooLong
deriving DecidableEq, Repr

def maxLength : Nat := 4300

/-- Splits a minus sign off: whether it is there, and the rest. -/
def splitMinus : List Char → Bool × List Char
  | '-' :: cs => (true, cs)
  | cs => (false, cs)

/-- Reads a plain numeral. A long row of digits is too long whatever follows it. -/
def plain (cs : List Char) : Except Fault Int :=
  let (negative, body) := splitMinus cs
  let digits := body.takeWhile Char.isDigit
  let n : Int := Radix.ofDigits 10 (digits.filterMap (Radix.digitValue? 10))
  match digits with
  | [] => .error .malformed
  | '0' :: _ => if body.length = 1 then .ok 0 else .error .malformed
  | _ =>
    if maxLength < cs.length - body.length + digits.length then .error .tooLong
    else if digits.length < body.length then .error .malformed
    else .ok (if negative then -n else n)

def trim (cs : List Char) : List Char :=
  ((cs.dropWhile Text.isSpacing).reverse.dropWhile Text.isSpacing).reverse

/-- Splits a sign of either kind off: whether it is a minus, and the rest. -/
def splitSign : List Char → Bool × List Char
  | '+' :: cs => (false, cs)
  | cs => splitMinus cs

/-- Drops the zeros, and underscores among them, at the start of a text; nothing results if the text
begins like no number. One character stays where no other digit follows. -/
def dropZeros? (cs : List Char) : Option (List Char) :=
  let isZero (c : Char) : Bool := c = '0' || c = '_'
  match cs with
  | [] => none
  | '0' :: _ =>
    let zeros := cs.takeWhile isZero
    match cs.drop zeros.length with
    | [] => some (zeros.drop (zeros.length - 1))
    | '.' :: rest => some (zeros.drop (zeros.length - 1) ++ '.' :: rest)
    | c :: rest => if c.isDigit then some (c :: rest) else none
  | c :: _ => if c.isDigit then some cs else none

/-- Drops a point and what follows it, if that is one zero or more and nothing else. -/
def dropFraction (cs : List Char) : List Char :=
  let whole := cs.takeWhile (· ≠ '.')
  let fraction := cs.drop (whole.length + 1)
  if !fraction.isEmpty && fraction.all (· = '0') then whole else cs

def hasDoubled : List Char → Bool
  | '_' :: '_' :: _ => true
  | _ :: cs => hasDoubled cs
  | [] => false

/-- Drops the underscores, if none of them stands first, last or beside another. -/
def dropUnderscores (cs : List Char) : List Char :=
  if cs.head? = some '_' || cs.getLast? = some '_' || hasDoubled cs then cs
  else cs.filter (· ≠ '_')

/-- A text without what a plain numeral does not have; nothing results if it begins like no
number. -/
def tidy? (cs : List Char) : Option (List Char) := do
  let (negative, unsigned) := splitSign (trim cs)
  let body ← dropZeros? unsigned
  let digits := dropUnderscores (dropFraction body)
  return if negative then '-' :: digits else digits

/-- Reads a numeral, which is tidied if it is not plain. -/
def read (cs : List Char) : Except Fault Int :=
  match plain cs, tidy? cs with
  | .error .malformed, some tidied => plain tidied
  | outcome, _ => outcome

end FileMode.Numeral
