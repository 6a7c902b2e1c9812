import FileMode.Journal

/-!
Umasks as configurations hold them. The text of a umask is at most four characters long and has the
form of an integer; each character counts as one octal digit by its distance from the digit zero,
signs and the digits beyond seven included, and the low nine bits of the sum are the mask.

Mirrors `parse_umask` (`parse`), `InvalidUmaskConfiguration` (`UmaskError`) and `get_umask`
(`inForce`).
-/

namespace FileMode

/-- A text that is no umask, and the name of the setting that it was given for. -/
structure UmaskError where
  text : Value
  setting : Value

namespace Umask

/-- The name of the setting that overrides the umask. -/
def key : String := "posix_mode.security.authorization.permission.umask"

def maxLength : Nat := 4

def isDigits (cs : List Char) : Bool := !cs.isEmpty && cs.all Char.isDigit

/-- Whether a text has the form of an integer: digits after at most one sign. -/
def isInteger : List Char → Bool
  | '+' :: cs => isDigits cs
  | '-' :: cs => isDigits cs
  | cs => isDigits cs

/-- What a character counts: its distance from the digit zero. -/
def weight (c : Char) : Int := (c.toNat : Int) - '0'.toNat

def digital (cs : List Char) : Int := cs.foldl (fun n c => n * 8 + weight c) 0

def ofText? (text : String) : Option Mode :=
  let cs := text.toList
  if cs.length ≤ maxLength && isInteger cs then some (.ofDigital (digital cs)) else none

/-- Reads the text of a umask, which is given for a setting. -/
def parse (text setting : String) : Except UmaskError Mode :=
  match ofText? text with
  | some m => .ok m
  | none => .error ⟨.text text, .text setting⟩

/-- The umask in force, and the note about it: the override if there is one, and otherwise the low
nine bits of a default. -/
def inForce (override : Option String) (default : Int) : Except UmaskError (Mode × Note) :=
  match override with
  | none => .ok (.ofDigital default, .umaskDefault (.int default))
  | some text => (parse text key).map fun m => (m, .umaskTaken (.text text) m)

end Umask

end FileMode
