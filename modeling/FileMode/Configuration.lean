import FileMode.Argument.Entries
import FileMode.Argument.Mode
import FileMode.Settings

/-!
Settings that can be changed, and configurations over them. A configuration copies the table of its
settings when it is built, and from then on the two tables are apart; the defaults it does not copy
but reads from the settings each time.

Mirrors `Configuration`, and the assignments that `ModeSettings` lets pass without validation.
-/

namespace FileMode

/-- Settings whose fields may have been given any value since they were read. -/
structure SettingsRecord where
  defaultMode : Value
  defaultUmask : Value
  table : Value
  extra : Table Value

namespace SettingsRecord

def ofSettings (s : Settings) : SettingsRecord :=
  ⟨.int s.defaultMode, .int s.defaultUmask, Settings.tableValue s.table, s.extra⟩

def isHidden (name : String) : Bool := name.startsWith "_"

/-- Sets a field. A field that the schema does not know is one of the other entries. -/
def assign (r : SettingsRecord) (field : String) (v : Value) : SettingsRecord :=
  if field = Settings.modeField then { r with defaultMode := v }
  else if field = Settings.umaskField then { r with defaultUmask := v }
  else if field = Settings.tableField then { r with table := v }
  else if isHidden field then r
  else { r with extra := r.extra.insert field v }

def put (r : SettingsRecord) (key : String) (v : Value) : Except Failure SettingsRecord :=
  match r.table with
  | .map entries =>
    .ok { r with table := .map (Value.insertEntry Value.same (.text key) v entries) }
  | other => .error (.noWriting other.kind)

/-- A copy of the entries of the table, which need not be a map. -/
def copyEntries (r : SettingsRecord) : Except Failure (List (Value × Value)) :=
  Argument.entries r.table

end SettingsRecord

/-- A configuration: the number of the settings it was built from, and the entries of its own
table. -/
structure Configuration where
  record : Nat
  entries : List (Value × Value)

namespace Configuration

def get (c : Configuration) (key : String) : Value :=
  (Value.valueUnder? (.text key) c.entries).getD .null

def set (c : Configuration) (key : String) (v : Value) : Configuration :=
  { c with entries := Value.insertEntry Value.same (.text key) v c.entries }

def unset (c : Configuration) (key : String) : Configuration :=
  { c with entries := Value.eraseEntry (.text key) c.entries }

def toValue (c : Configuration) : Value := .map c.entries

end Configuration

/-- The umask that a configuration has in force, and the note about it; without a configuration it
is the default. -/
def Configuration.umask (c : Option Configuration) (default : Value) :
    Except Failure (Mode × Note) :=
  let override := match c with
    | some c => c.get Umask.key
    | none => .null
  Argument.umaskInForce override default

end FileMode
