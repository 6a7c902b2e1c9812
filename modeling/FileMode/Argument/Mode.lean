import FileMode.Argument.Triad

/-!
Operations on modes and umasks with arguments of any kind.

Mirrors `Mode` and its class methods (`newMode`, `modeOfDigital`, `extract`, `modeOfDisplay`,
`Factory.make`, `copy`, `applyUmask`), `parse_umask`, `get_umask` and `apply_umask_from_config`.
-/

namespace FileMode.Argument

def triadFor (c : UserClass) (v : Value) : Except Failure Triad :=
  match v with
  | .triad t => .ok t
  | _ => .error (.noTriadFor c v.kind)

def newMode (arguments : List Value) : Except Failure Mode :=
  match arguments with
  | [owner, group, other] => do
    return ⟨← triadFor .owner owner, ← triadFor .group group, ← triadFor .other other⟩
  | _ =>
    if arguments.length < 3 then .error (.missingTriads (UserClass.all.drop arguments.length))
    else .error (.excessArguments "Mode.__init__" 4 4 (arguments.length + 1))

def modeOfDigital (v : Value) : Except Failure Mode :=
  (integer ">>" v).map .ofDigital

/-- The triad that a digital form holds for a class. The last class is read without a shift, which a
triad takes for an operation of its own. -/
def extract (c : UserClass) (v : Value) : Except Failure Triad :=
  match c, v with
  | .other, .triad _ => .error (.noTriad .int)
  | .other, _ => (integer "&" v).map (Mode.extract c)
  | _, _ => (integer ">>" v).map (Mode.extract c)

def modeOfDisplay (v : Value) : Except Failure Mode := do
  let xs ← members v
  if xs.length ≠ Mode.markCount then throw (.display v Mode.markCount)
  let third (start : Nat) : Except Failure Triad := do
    let marks := (xs.drop start).take 3
    triadOfMembers (← part v marks) marks
  return ⟨← third 0, ← third 3, ← third 6⟩

/-- The ways to a mode that need no mode. -/
inductive Factory where
  | default | noAccess | fullAccess
deriving DecidableEq, Repr

def make (f : Factory) (arguments : List Value) : Except Failure Mode :=
  match f, arguments with
  | .default, [] => .ok (.ofDigital Settings.initialMode)
  | .default, [v] => modeOfDigital v
  | .noAccess, [] => .ok .noAccess
  | .fullAccess, [] => .ok .fullAccess
  | .default, _ => .error (.excessArguments "Mode.default" 1 2 (arguments.length + 1))
  | .noAccess, _ => .error (.excessArguments "Mode.no_access" 1 1 (arguments.length + 1))
  | .fullAccess, _ => .error (.excessArguments "Mode.full_access" 1 1 (arguments.length + 1))

/-- A copy of a mode. Lists and maps can be copied too, but the copy is no mode. -/
def copy (v : Value) : Except Failure Mode :=
  match v with
  | .mode m => .ok m
  | .list _ => .error (.noMember .list "to_digital_form")
  | .map _ => .error (.noMember .map "to_digital_form")
  | _ => .error (.noMember v.kind "copy")

def applyUmask (m : Mode) (umask : Value) : Except Failure Mode :=
  (mode umask).map m.applyUmask

/-- The umask of a value, which is given for a setting. A list is measured like a text. -/
def parseUmask (v setting : Value) : Except Failure Mode :=
  match v with
  | .text s =>
    match Umask.ofText? s with
    | some m => .ok m
    | none => .error (.umask ⟨v, setting⟩)
  | _ => do
    let xs ← members v
    if Umask.maxLength < xs.length then .error (.umask ⟨v, setting⟩)
    else .error (.noText v.kind)

/-- The umask in force, and the note about it, where the override and the default may be of any
kind. -/
def umaskInForce (override default : Value) : Except Failure (Mode × Note) :=
  match override with
  | .null => do return (← modeOfDigital default, .umaskDefault default)
  | _ => do
    let m ← parseUmask override (.text Umask.key)
    return (m, .umaskTaken override m)

/-- What a source of settings answers for the umask. Without a source there is no answer. -/
def umaskAnswer (source : Option (String → Value)) : Value :=
  match source with
  | some get => get Umask.key
  | none => .null

/-- A mode without the rights that the umask in force names, and the note about that umask. The
source may answer anything. -/
def applyUmaskInForce (m : Mode) (source : Option (String → Value)) (default : Value) :
    Except Failure (Mode × Note) := do
  let (umask, note) ← umaskInForce (umaskAnswer source) default
  return (m.applyUmask umask, note)

end FileMode.Argument
