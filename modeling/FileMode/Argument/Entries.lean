import FileMode.Argument
import FileMode.Value.Entries

/-!
Entries of maps given in a form of any kind. A list of pairs stands for the entries that arise when
the pairs are written one after the other, and anything with two members is a pair.

Mirrors the copy that `Configuration` makes of the table of its settings.
-/

namespace FileMode.Argument

/-- The entry that a member is; `index` is its number among the members. -/
def entry (index : Nat) (v : Value) : Except Failure (Value × Value) :=
  match members? v with
  | none => .error (.noEntry index)
  | some [key, value] => if key.isKey then .ok (key, value) else .error (.noKey key.kind)
  | some xs => .error (.noPair index xs.length)

def entriesFrom (index : Nat) : List Value → Except Failure (List (Value × Value))
  | [] => .ok []
  | v :: vs => do
    let e ← entry index v
    return e :: (← entriesFrom (index + 1) vs)

def entries (v : Value) : Except Failure (List (Value × Value)) :=
  match v with
  | .map own => .ok own
  | _ =>
    match members? v with
    | none => .error (.noEntries v.kind)
    | some xs => (entriesFrom 0 xs).map (Value.ofPairs Value.same)

end FileMode.Argument
