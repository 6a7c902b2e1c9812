import FileMode.Number.Radix
import FileMode.Text.Quoted

/-!
The rights that one class of users holds on a file. A `Triad` is a set of rights, kept as a word of
three bits; `grants` reads it as a set, and the lattice operations work on the word. The display
form shows each right by its letter or by a dash, in the order read, write, execute.

Mirrors `PermissionBits`: `ofValue?`, `parse` and `display` are `from_value`, `from_display_string`
and `to_display_string`; `implies`, `inter`, `union` and `compl` are `imply`, `and_`, `or_` and
`not_`.
-/

namespace FileMode

/-- One of the things that a class of users may be allowed to do with a file. -/
inductive Right where
  | read | write | execute
deriving DecidableEq, Repr

namespace Right

def all : List Right := [.read, .write, .execute]

def letter : Right → Char
  | read => 'r'
  | write => 'w'
  | execute => 'x'

/-- The place of a right in the word of a triad, counted from the least significant bit. -/
def place : Right → Nat
  | read => 2
  | write => 1
  | execute => 0

end Right

/-- A set of rights, as a word in which bit 2 stands for read, bit 1 for write and bit 0 for
execute. -/
structure Triad where
  word : BitVec 3
deriving DecidableEq, Repr

/-- A text that is not a display form, and the number of characters that one would have. -/
structure DisplayError where
  text : String
  expected : Nat
deriving DecidableEq, Repr

namespace Triad

def empty : Triad := ⟨0⟩

def full : Triad := ⟨7⟩

/-- The number from 0 to 7 that the word is. -/
def value (t : Triad) : Nat := t.word.toNat

/-- The triad whose word is the low three bits of `n`, in two's complement if `n` is negative. -/
def ofInt (n : Int) : Triad := ⟨BitVec.ofInt 3 n⟩

/-- The triad whose word is `n`, if `n` is one of 0 to 7. -/
def ofValue? (n : Int) : Option Triad :=
  if 0 ≤ n && n ≤ 7 then some (ofInt n) else none

def all : List Triad := (List.range 8).map fun n : Nat => ofInt n

def grants (t : Triad) (r : Right) : Bool := t.word.getLsbD r.place

def inter (t u : Triad) : Triad := ⟨t.word &&& u.word⟩

def union (t u : Triad) : Triad := ⟨t.word ||| u.word⟩

def compl (t : Triad) : Triad := ⟨~~~t.word⟩

/-- Whether `t` holds every right that `u` holds. -/
def implies (t u : Triad) : Bool := (t.word &&& u.word) == u.word

def name (t : Triad) : String :=
  match t.value with
  | 0 => "NONE"
  | 1 => "EXECUTE"
  | 2 => "WRITE"
  | 3 => "WRITE_EXECUTE"
  | 4 => "READ"
  | 5 => "READ_EXECUTE"
  | 6 => "READ_WRITE"
  | _ => "ALL"

/-! ### Display form -/

def mark (t : Triad) (r : Right) : Char :=
  if t.grants r then r.letter else '-'

def marks (t : Triad) : List Char := Right.all.map t.mark

def display (t : Triad) : String := String.ofList t.marks

/-- The word of the rights whose letters stand in `cs`, one mark for each of `rights`; nothing if a
mark is neither a dash nor the letter of its place. -/
def wordOfMarks? : List Right → List Char → Option (BitVec 3)
  | [], [] => some 0
  | r :: rights, c :: cs =>
    if c = r.letter then (wordOfMarks? rights cs).map (BitVec.twoPow 3 r.place ||| ·)
    else if c = '-' then wordOfMarks? rights cs
    else none
  | _, _ => none

def ofMarks? (cs : List Char) : Option Triad :=
  (wordOfMarks? Right.all cs).map Triad.mk

def markCount : Nat := 3

def parse (text : String) : Except DisplayError Triad :=
  match ofMarks? text.toList with
  | some t => .ok t
  | none => .error ⟨text, markCount⟩

end Triad

end FileMode
