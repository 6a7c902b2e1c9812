import FileMode.Calendar
import FileMode.Mode
import FileMode.Number.Binary64

/-!
Values whose kind is known only when they arrive: what a document holds, what a configuration's
fields may be set to, and the arguments that requests pass.
-/

namespace FileMode

/-- A value of any kind. Sets and maps keep the order in which their members arrived. -/
inductive Value where
  | null
  | bool (b : Bool)
  | int (n : Int)
  | float (x : Binary64)
  | text (s : String)
  | bytes (bs : List UInt8)
  | date (d : Date)
  | moment (t : Moment)
  | list (xs : List Value)
  | set (xs : List Value)
  | map (entries : List (Value × Value))
  | triad (t : Triad)
  | mode (m : Mode)
deriving Inhabited

/-- The kinds of values that messages name. -/
inductive Kind where
  | null | bool | int | float | text | bytes | date | moment | list | set | map | triad | mode
deriving DecidableEq, Repr

def Kind.name : Kind → String
  | null => "NoneType"
  | bool => "bool"
  | int => "int"
  | float => "float"
  | text => "str"
  | bytes => "bytes"
  | date => "date"
  | moment => "datetime"
  | list => "list"
  | set => "set"
  | map => "dict"
  | triad => "PermissionBits"
  | mode => "Mode"

namespace Value

def kind : Value → Kind
  | null => .null
  | bool _ => .bool
  | int _ => .int
  | float _ => .float
  | text _ => .text
  | bytes _ => .bytes
  | date _ => .date
  | moment _ => .moment
  | list _ => .list
  | set _ => .set
  | map _ => .map
  | triad _ => .triad
  | mode _ => .mode

/-- The integer that a value counts as. Truth values count as 1 and 0. -/
def toInt? : Value → Option Int
  | bool b => some (if b then 1 else 0)
  | int n => some n
  | _ => none

/-- Whether a value counts as nothing: no value, false, a zero, or anything without members. -/
def isVacant : Value → Bool
  | null => true
  | bool b => !b
  | int n => n = 0
  | float x => x.toInt? = some 0
  | text s => s.isEmpty
  | bytes bs => bs.isEmpty
  | list xs => xs.isEmpty
  | set xs => xs.isEmpty
  | map entries => entries.isEmpty
  | _ => false

/-- Whether a value may be a key of a map or a member of a set. -/
def isKey : Value → Bool
  | list _ | set _ | map _ => false
  | _ => true

/-! ### Equality

Numbers are equal across kinds when they are the same number. Lists are compared in order, sets and
maps whatever their order is. -/

/-- Whether two numbers are the same, neither or both of them floating point. -/
def sameNumber : Value → Value → Bool
  | float x, float y => x.same y
  | float x, b => b.toInt?.any (x.toInt? == some ·)
  | a, float y => a.toInt?.any (y.toInt? == some ·)
  | a, b => a.toInt?.any (b.toInt? == some ·)

mutual

def same : Value → Value → Bool
  | null, null => true
  | text s, text t => s == t
  | bytes a, bytes b => a == b
  | date d, date e => d == e
  | moment t, moment u => t.same u
  | triad t, triad u => t == u
  | mode m, mode n => m == n
  | list xs, list ys => sameList xs ys
  | set xs, set ys => xs.length == ys.length && within xs ys
  | map xs, map ys => xs.length == ys.length && entriesWithin xs ys
  | a, b => sameNumber a b
termination_by structural x => x

def sameList : List Value → List Value → Bool
  | [], [] => true
  | x :: xs, y :: ys => same x y && sameList xs ys
  | _, _ => false
termination_by structural x => x

/-- Whether each value of the first list equals one of the second. -/
def within : List Value → List Value → Bool
  | [], _ => true
  | x :: xs, ys => (ys.any fun y => same x y) && within xs ys
termination_by structural x => x

/-- Whether each entry of the first list equals one of the second. -/
def entriesWithin : List (Value × Value) → List (Value × Value) → Bool
  | [], _ => true
  | e :: es, fs => (fs.any fun f => sameEntry e f) && entriesWithin es fs
termination_by structural x => x

def sameEntry : Value × Value → Value × Value → Bool
  | (k, v), (l, w) => same k l && same v w
termination_by structural x => x

end

end Value

end FileMode
