/-!
Sets of characters given by the code points at which membership changes. The tables of the
character properties that the rest of the library needs are written in this form.
-/

namespace FileMode

/-- A set of characters. `changes` holds, in ascending order, the code points at which membership
changes; the characters below the first of them are outside the set. -/
structure CharClass where
  changes : List Nat

namespace CharClass

/-- Membership of code point `n`, when `inside` holds just below the first of the changes. -/
def holds (n : Nat) : Bool → List Nat → Bool
  | inside, [] => inside
  | inside, change :: changes => if n < change then inside else holds n (!inside) changes

def contains (k : CharClass) (c : Char) : Bool :=
  holds c.toNat false k.changes

end CharClass

end FileMode
