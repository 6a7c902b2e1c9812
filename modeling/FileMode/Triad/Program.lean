import FileMode.Triad

/-!
Programs over triads: postfix sequences of lattice operations that work on a stack.
-/

namespace FileMode.Triad

inductive Instruction where
  | push (t : Triad)
  | compl
  | dup
  | reparse
  | inter
  | union
  | implies
deriving DecidableEq, Repr

/-- The triad that stands for a truth value: all rights for true, none for false. -/
def ofBool (b : Bool) : Triad := if b then full else empty

/-- Runs one step on a stack whose top comes first. `reparse` replaces the top by what its display
form reads as; a step of two operands takes the right one from the top. Nothing results if the
stack is too short. -/
def Instruction.run : Instruction → List Triad → Option (List Triad)
  | push t, stack => some (t :: stack)
  | compl, t :: stack => some (t.compl :: stack)
  | dup, t :: stack => some (t :: t :: stack)
  | reparse, t :: stack =>
    match Triad.parse t.display with
    | .ok u => some (u :: stack)
    | .error _ => none
  | inter, right :: left :: stack => some (left.inter right :: stack)
  | union, right :: left :: stack => some (left.union right :: stack)
  | implies, right :: left :: stack => some (ofBool (left.implies right) :: stack)
  | _, _ => none

/-- The stack after each step of a program, from the stack it starts on. -/
def trace : List Instruction → List Triad → Option (List (List Triad))
  | [], _ => some []
  | i :: program, stack => do
    let next ← i.run stack
    let later ← trace program next
    return next :: later

/-- A stack in text: the display forms from the bottom to the top, with single spaces between. -/
def showStack (stack : List Triad) : String :=
  " ".intercalate (stack.reverse.map display)

end FileMode.Triad
