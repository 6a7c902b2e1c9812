import FileMode.Document.Node
import FileMode.Document.Scalar.Meaning
import FileMode.Value.Entries

/-!
The values of nodes. Nodes are given their values level by level, and of several faults the one at
the least depth counts, the first from the left if there are several; so each outcome carries the
depth of its fault. A collection is made one level below the place where it stands: what its members
lack is found at depth one, and what their members lack deeper.

Mirrors `construct_object`, `construct_mapping` and `flatten_mapping`.
-/

namespace FileMode.Document

/-- A value, or a fault with its depth. -/
abbrev Outcome (α : Type) := Except (Nat × Fault) α

namespace Outcome

def deeper {α : Type} : Outcome α → Outcome α
  | .ok a => .ok a
  | .error (depth, fault) => .error (depth + 1, fault)

/-- The outcome at the depth where a node stands. -/
def here {α : Type} : Except Fault α → Outcome α
  | .ok a => .ok a
  | .error fault => .error (0, fault)

def malformed {α : Type} : Outcome α := .error (0, .malformed)

/-- Two outcomes, the first of which stands to the left. -/
def both {α β : Type} : Outcome α → Outcome β → Outcome (α × β)
  | .ok a, .ok b => .ok (a, b)
  | .ok _, .error f => .error f
  | .error e, .ok _ => .error e
  | .error e, .error f => .error (if f.1 < e.1 then f else e)

def all {α : Type} : List (Outcome α) → Outcome (List α)
  | [] => .ok []
  | o :: row => (both o (all row)).map fun (a, rest) => a :: rest

end Outcome

namespace Node

/-- The text that a node gives where one is asked for: that of a scalar, or what the first value
marked as standing for its mapping gives. -/
def heldText : Node → Option (List Char)
  | .scalar _ text => some text
  | .sequence .. => none
  | .mapping _ entries => entryText entries
where
  /-- The text that the entries of a mapping give. -/
  entryText : List (Node × Node) → Option (List Char)
    | [] => none
    | e :: entries =>
      match pairText e with
      | some given => given
      | none => entryText entries
  /-- The text that an entry gives, if its value stands for the mapping. -/
  pairText : Node × Node → Option (Option (List Char))
    | (k, v) => if k.tag = .value then some (heldText v) else none

/-- The outcome of a node that is not a collection of the kind that its tag names. -/
def single (n : Node) (tag : Tag) : Outcome Value :=
  if tag.isCollection then Outcome.malformed.deeper
  else match n.heldText with
    | none => .malformed
    | some text =>
      match n, tag with
      | .scalar .., _ => .here (Scalar.meaning tag text)
      | _, .timestamp => .error (0, .timestampNode)
      | _, _ => .here (Scalar.meaning tag text)

end Node

/-- The tag under which a key is read: one that marks a value for its mapping is read as text. -/
def Tag.ofKey (tag : Tag) : Tag := if tag = .value then .text else tag

abbrev EntryOutcome := Outcome (Value × Value)

/-- The entries of a mapping: those that it takes in from others, and its own. -/
structure Entries where
  taken : List EntryOutcome
  own : List EntryOutcome

namespace Entries

/-- Whether two values are the same key: two equal ones, or two undefined numbers, which in a
document are one value. -/
def sameKey : Value → Value → Bool
  | .float .nan, .float .nan => true
  | a, b => Value.same a b

/-- The value that `make` makes of the entries, which come in the order in which they are written.
The entries taken in stand before the mapping's own; nothing can be taken in from some nodes. -/
def outcome (make : List (Value × Value) → Value) : Option Entries → Outcome Value
  | none => Outcome.malformed.deeper
  | some e => Outcome.deeper ((Outcome.all (e.taken ++ e.own)).map make)

def toSet (entries : List (Value × Value)) : Value :=
  .set (Value.distinct sameKey (entries.map Prod.fst))

def toMap (entries : List (Value × Value)) : Value := .map (Value.ofPairs sameKey entries)

end Entries

namespace Node

mutual

/-- The outcome of a node that is read under a tag. -/
def outcomeAs : Node → Tag → Outcome Value
  | .scalar own text, tag => single (.scalar own text) tag
  | .sequence own items, tag =>
    match tag with
    | .sequence => Outcome.deeper ((Outcome.all (itemOutcomes items)).map .list)
    | .orderedMap => Outcome.deeper ((Outcome.all (pairOutcomes items)).map .list)
    | .pairs => Outcome.deeper ((Outcome.all (pairOutcomes items)).map .list)
    | _ => single (.sequence own items) tag
  | .mapping own entries, tag =>
    match tag with
    | .mapping => Entries.outcome Entries.toMap (entriesOf entries)
    | .set => Entries.outcome Entries.toSet (entriesOf entries)
    | _ => single (.mapping own entries) tag

def itemOutcomes : List Node → List (Outcome Value)
  | [] => []
  | n :: items => outcomeAs n n.tag :: itemOutcomes items

def pairOutcomes : List Node → List (Outcome Value)
  | [] => []
  | n :: items => pairOutcome n :: pairOutcomes items

/-- The outcome of an item of an ordered map, which is a mapping of a single entry. -/
def pairOutcome : Node → Outcome Value
  | .mapping _ entries =>
    match plainEntries entries with
    | [o] => o.map fun (k, v) => .list [k, v]
    | _ => .malformed
  | _ => .malformed

def plainEntries : List (Node × Node) → List EntryOutcome
  | [] => []
  | e :: entries => plainEntry e :: plainEntries entries

def plainEntry : Node × Node → EntryOutcome
  | (k, v) => Outcome.both (outcomeAs k k.tag) (outcomeAs v v.tag)

def entriesOf : List (Node × Node) → Option Entries
  | [] => some ⟨[], []⟩
  | e :: entries => do
    let first ← entryOf e
    let rest ← entriesOf entries
    return ⟨first.taken ++ rest.taken, first.own ++ rest.own⟩

/-- What one entry adds to a mapping. A collection is no key. -/
def entryOf : Node × Node → Option Entries
  | (k, v) =>
    if k.tag = .merge then (takenFrom v).map fun taken => ⟨taken, []⟩
    else
      let key := if k.tag.isCollection then .malformed else outcomeAs k k.tag.ofKey
      some ⟨[], [Outcome.both key (outcomeAs v v.tag)]⟩

/-- The entries that a mapping takes in from a node: those of a mapping, or of the mappings in a
sequence, the last of which comes first. -/
def takenFrom : Node → Option (List EntryOutcome)
  | .scalar .. => none
  | .sequence _ items => takenFromItems items
  | .mapping _ entries => (entriesOf entries).map fun e => e.taken ++ e.own

def takenFromItems : List Node → Option (List EntryOutcome)
  | [] => some []
  | n :: items => do
    let first ← takenFromItem n
    let rest ← takenFromItems items
    return rest ++ first

def takenFromItem : Node → Option (List EntryOutcome)
  | .mapping _ entries => (entriesOf entries).map fun e => e.taken ++ e.own
  | _ => none

end

def value (n : Node) : Except Fault Value :=
  (outcomeAs n n.tag).mapError Prod.snd

end Node

end FileMode.Document
