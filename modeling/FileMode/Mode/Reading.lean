import FileMode.Mode

/-!
Modes as people type them: up to four octal digits, or a display form.

Mirrors `_parse_mode`.
-/

namespace FileMode.Mode

def maxDigits : Nat := 4

/-- The digital form that one to four octal digits denote. -/
def ofOctal? (cs : List Char) : Option Nat :=
  if cs.isEmpty || maxDigits < cs.length then none
  else (cs.mapM (Radix.digitValue? 8)).map (Radix.ofDigits 8)

/-- Reads a mode. A text that is not octal is reported as no display form. -/
def read (text : String) : Except DisplayError Mode :=
  match ofOctal? text.toList with
  | some n => .ok (.ofDigital n)
  | none => parse text

end FileMode.Mode
