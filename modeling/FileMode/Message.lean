import FileMode.Value.Written

/-!
The catalog of messages with places for arguments. A template says for each place which argument
stands there, and in which form.

Mirrors `ExceptionMessage`, with `get_message` (`render`).
-/

namespace FileMode

inductive Piece where
  | text (s : String)
  | plain (index : Nat)
  | quoted (index : Nat)
deriving DecidableEq, Repr

namespace Piece

/-- The number of the argument that a piece shows. -/
def index? : Piece → Option Nat
  | text _ => none
  | plain i => some i
  | quoted i => some i

/-- A piece as the catalog writes it. -/
def source : Piece → String
  | text s => s
  | plain i => "\x7b" ++ Radix.decimal i ++ "\x7d"
  | quoted i => "\x7b" ++ Radix.decimal i ++ "!r\x7d"

/-- What a piece shows; a place without an argument stays empty. -/
def fill (args : List Value) : Piece → String
  | text s => s
  | plain i => (args[i]?.map Value.plain).getD ""
  | quoted i => (args[i]?.map Value.quoted).getD ""

end Piece

/-- A message with places for arguments. -/
structure Template where
  name : String
  pieces : List Piece
deriving DecidableEq, Repr

namespace Template

def invalidSetting : Template :=
  ⟨"INVALID_CONFIGURATION_VALUE",
    [.text "Invalid value ", .plain 0, .text " for configuration ", .plain 1]⟩

def invalidTriad : Template :=
  ⟨"INVALID_PERMISSION_BITS",
    [.text "Invalid permission bits value ", .plain 0, .text ", expected 0-7"]⟩

def invalidDisplay : Template :=
  ⟨"INVALID_DISPLAY_STRING",
    [.text "Invalid permission string ", .quoted 0, .text ", expected ", .plain 1,
      .text " characters of r/w/x/-"]⟩

def all : List Template := [invalidSetting, invalidTriad, invalidDisplay]

def named? (name : String) : Option Template := all.find? fun t => t.name = name

def source (t : Template) : String := String.join (t.pieces.map Piece.source)

/-- The message with its arguments. Arguments without a place are left out. -/
def fill (t : Template) (args : List Value) : String := String.join (t.pieces.map (Piece.fill args))

/-- The message with its arguments, or the number of the first that is missing. -/
def render (t : Template) (args : List Value) : Except Nat String :=
  match (t.pieces.filterMap Piece.index?).find? fun i => args.length ≤ i with
  | some i => .error i
  | none => .ok (t.fill args)

end Template

/-- The message about a text that is no display form. -/
def DisplayError.message (e : DisplayError) : String :=
  Template.invalidDisplay.fill [.text e.text, .int e.expected]

end FileMode
