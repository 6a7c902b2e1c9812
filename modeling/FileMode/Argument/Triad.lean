import FileMode.Argument

/-!
Operations on triads with arguments of any kind.

Mirrors `PermissionBits.from_value`, `from_display_string` and the operators, with `_require_bits`
in front of each.
-/

namespace FileMode.Argument

def triadOfValue (v : Value) : Except Failure Triad :=
  match v with
  | .int n =>
    match Triad.ofValue? n with
    | some t => .ok t
    | none => .error (.triad v)
  | _ => .error (.triad v)

/-- The triad that three marks show; `v` is the value that they come from. -/
def triadOfMembers (v : Value) (members : List Value) : Except Failure Triad :=
  match (members.mapM char?).bind Triad.ofMarks? with
  | some t => .ok t
  | none => .error (.display v Triad.markCount)

def triadOfDisplay (v : Value) : Except Failure Triad := do
  triadOfMembers v (← members v)

/-- The operations that take a second triad. -/
inductive TriadOperation where
  | implies | inter | union
deriving DecidableEq, Repr

def combine (operation : TriadOperation) (t : Triad) (other : Value) :
    Except Failure (Bool ⊕ Triad) :=
  match operation with
  | .implies =>
    match other with
    | .null => .ok (.inl false)
    | .triad u => .ok (.inl (t.implies u))
    | _ => .error (.noMember other.kind "value")
  | .inter => return .inr (t.inter (← triad other))
  | .union => return .inr (t.union (← triad other))

end FileMode.Argument
