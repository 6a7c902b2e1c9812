import FileMode.Failure

/-!
Arguments of any kind. Where a text, a list or a number is wanted, a value of another kind fails in
the way that its kind lacks.

The operations of `PermissionBits` and `Mode` and the function `parse_umask` meet such arguments,
since they may be called with anything.
-/

namespace FileMode.Argument

/-- The members that a value is counted by: the characters of a text, the members of a list or a
set, the keys of a map. -/
def members? : Value → Option (List Value)
  | .text s => some (s.toList.map fun c => .text (String.ofList [c]))
  | .bytes bs => some (bs.map fun b => .int b.toNat)
  | .list xs => some xs
  | .set xs => some xs
  | .map entries => some (entries.map Prod.fst)
  | _ => none

/-- The members of a value, or the failure of a kind that has no length. -/
def members (v : Value) : Except Failure (List Value) :=
  match members? v with
  | some xs => .ok xs
  | none => .error (.noLength v.kind)

def integer (operation : String) (v : Value) : Except Failure Int :=
  match v.toInt? with
  | some n => .ok n
  | none => .error (.noNumber operation v.kind)

/-- The mode that a value is. The first member of a mode is asked for, which other kinds lack. -/
def mode (v : Value) : Except Failure Mode :=
  match v with
  | .mode m => .ok m
  | _ => .error (.noMember v.kind UserClass.owner.name)

def triad (v : Value) : Except Failure Triad :=
  match v with
  | .triad t => .ok t
  | _ => .error (.noTriad v.kind)

def char? : Value → Option Char
  | .text s =>
    match s.toList with
    | [c] => some c
    | _ => none
  | _ => none

def part (v : Value) (members : List Value) : Except Failure Value :=
  match v with
  | .text _ => .ok (.text (String.join (members.map Value.plain)))
  | .list _ => .ok (.list members)
  | _ => .error .noParts

end FileMode.Argument
