import FileMode.Triad

/-!
The access mode of a file: a triad each for its owner, its group and everyone else. The digital form
packs the three words into nine bits; decoding one reads the low nine bits of any integer. The
display form is that of the three triads in a row.

Mirrors `Mode`: `ofDigital`, `digital`, `parse`, `display` and `applyUmask` are `from_digital_form`,
`to_digital_form`, `from_display_string`, `to_display_string` and `apply_umask`, and `extract` is
`extract_owner_bits`, `extract_group_bits` and `extract_other_bits`.
-/

namespace FileMode

/-- The rights of the owner, the group and everyone else. -/
structure Mode where
  owner : Triad
  group : Triad
  other : Triad
deriving DecidableEq, Repr

/-- The classes of users that a mode tells apart. -/
inductive UserClass where
  | owner | group | other
deriving DecidableEq, Repr

namespace UserClass

def all : List UserClass := [.owner, .group, .other]

def name : UserClass → String
  | owner => "owner"
  | group => "group"
  | other => "other"

/-- The place of the lowest bit of a class in the digital form. -/
def shift : UserClass → Nat
  | owner => 6
  | group => 3
  | other => 0

end UserClass

namespace Mode

def triad (m : Mode) : UserClass → Triad
  | .owner => m.owner
  | .group => m.group
  | .other => m.other

/-- The mode that gives each class the triad that `f` says. -/
def ofTriads (f : UserClass → Triad) : Mode := ⟨f .owner, f .group, f .other⟩

def noAccess : Mode := ⟨.empty, .empty, .empty⟩

def fullAccess : Mode := ⟨.full, .full, .full⟩

/-! ### Digital form -/

/-- The triad that the digital form `n` holds for a class. -/
def extract (c : UserClass) (n : Int) : Triad := .ofInt (n >>> c.shift)

/-- The mode that the low nine bits of `n` pack. -/
def ofDigital (n : Int) : Mode := ofTriads fun c => extract c n

/-- The digital form, a number below 512. -/
def digital (m : Mode) : Nat :=
  m.owner.value <<< 6 ||| m.group.value <<< 3 ||| m.other.value

/-- A mode is hashed to its digital form. -/
instance : Hashable Mode := ⟨fun m => .ofNat m.digital⟩

def octal (m : Mode) : String := Radix.octal 4 m.digital

/-! ### Display form -/

def marks (m : Mode) : List Char := UserClass.all.flatMap fun c => (m.triad c).marks

def display (m : Mode) : String := String.ofList m.marks

def markCount : Nat := 9

/-- Reads a display form. A text of another length is refused as a whole; otherwise the first of
its three parts that shows no triad is. -/
def parse (text : String) : Except DisplayError Mode :=
  let cs := text.toList
  if cs.length ≠ markCount then .error ⟨text, markCount⟩
  else do
    let owner ← Triad.parse (String.ofList (cs.take 3))
    let group ← Triad.parse (String.ofList ((cs.drop 3).take 3))
    let other ← Triad.parse (String.ofList (cs.drop 6))
    return ⟨owner, group, other⟩

/-! ### Masking -/

/-- The mode without the rights that `umask` names. -/
def applyUmask (m umask : Mode) : Mode :=
  ofTriads fun c => (m.triad c).inter (umask.triad c).compl

end Mode

end FileMode
