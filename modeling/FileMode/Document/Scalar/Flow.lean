import FileMode.Document.Fault
import FileMode.Document.Folding
import FileMode.Number.Radix

/-!
Scalars between quotes. Between apostrophes only the apostrophe is special, which is written twice;
between double quotes a backslash begins an escape. Lines fold in both.

Mirrors `scan_flow_scalar`, but that an escape may not name half of a character, for which a text
here has no place.
-/

namespace FileMode.Document.Flow

inductive Style where
  | single | double
deriving DecidableEq, Repr

def Style.quote : Style → Char
  | single => '\x27'
  | double => '\x22'

/-- The character that a backslash and a letter stand for. -/
def simpleEscape? (c : Char) : Option Char :=
  match c with
  | '0' => some '\x00'
  | 'a' => some '\x07'
  | 'b' => some '\x08'
  | 't' => some '\t'
  | '\t' => some '\t'
  | 'n' => some '\n'
  | 'v' => some '\x0b'
  | 'f' => some '\x0c'
  | 'r' => some '\r'
  | 'e' => some '\x1b'
  | ' ' => some ' '
  | '\x22' => some '\x22'
  | '\x5c' => some '\x5c'
  | '/' => some '/'
  | 'N' => some '\x85'
  | '_' => some '\xa0'
  | 'L' => some '\u2028'
  | 'P' => some '\u2029'
  | _ => none

/-- The number of hexadecimal digits after the letter of an escape by code point. -/
def codeWidth? (c : Char) : Option Nat :=
  match c with
  | 'x' => some 2
  | 'u' => some 4
  | 'U' => some 8
  | _ => none

/-- The number that `width` hexadecimal digits at the start of a text denote. -/
def hexNumber? (width : Nat) (cs : List Char) : Option Nat := do
  let ds ← (cs.take width).mapM (Radix.digitValue? 16)
  if ds.length = width then return Radix.ofDigits 16 ds else none

def blankLines (cs : List Char) : Except Fault BlankLines :=
  let lines := BlankLines.read isSpaceOrTab true 0 cs
  if lines.marker then .error .malformed else .ok lines

/-- Reads what follows a backslash: what the escape stands for and the number of characters it
takes. An escaped break leaves only the blank lines after it. -/
def escape : List Char → Except Fault (List Char × Nat)
  | [] => .error .malformed
  | c :: cs =>
    match simpleEscape? c with
    | some value => .ok ([value], 1)
    | none =>
      match codeWidth? c with
      | some width =>
        match hexNumber? width cs with
        | none => .error .malformed
        | some n =>
          if n.isValidChar then .ok ([Char.ofNat n], width + 1)
          else if n < 0x110000 then .error (.surrogate n)
          else .error (.codePoint n)
      | none =>
        match lineBreak? (c :: cs) with
        | none => .error .malformed
        | some (_, n) => do
          let lines ← blankLines ((c :: cs).drop n)
          return (lines.breaks, n + lines.taken)

/-- Reads a gap: what it stands for and the number of characters it takes. Spaces and tabs stand for
themselves unless a break follows them. -/
def gap (cs : List Char) : Except Fault (List Char × Nat) :=
  let pad := cs.takeWhile isSpaceOrTab
  let rest := cs.drop pad.length
  match lineBreak? rest with
  | none => .ok (pad, pad.length)
  | some (value, n) => do
    let lines ← blankLines (rest.drop n)
    return (foldBreaks value lines.breaks, pad.length + n + lines.taken)

/-- A scalar that begins with some characters which `n` characters of the text stand for. -/
def before (value : List Char) (n : Nat) (scalar : List Char × Nat) : List Char × Nat :=
  (value ++ scalar.1, n + scalar.2)

/-- Reads a quoted scalar after its opening quote and `skip` more characters: its text, and the
number of characters up to and with the closing quote. -/
def read (style : Style) : (skip : Nat) → List Char → Except Fault (List Char × Nat)
  | _, [] => .error .malformed
  | skip + 1, _ :: cs => read style skip cs
  | 0, c :: cs =>
    if c = style.quote then
      if style = .single && begins (· = style.quote) cs then
        return before [c] 2 (← read style 1 cs)
      else .ok ([], 1)
    else if style = .double && c = '\x5c' then do
      let (value, n) ← escape cs
      return before value (n + 1) (← read style n cs)
    else if isGap c then do
      let (value, n) ← gap (c :: cs)
      return before value n (← read style (n - 1) cs)
    else return before [c] 1 (← read style 0 cs)

end FileMode.Document.Flow
