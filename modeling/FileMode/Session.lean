import FileMode.Configuration
import FileMode.Loading

/-!
Sessions: sequences of steps on named settings, configurations and modes. Settings are kept by
number, so that a configuration goes on seeing the settings it was built from, whatever their name
is given to later. A step that fails changes nothing.

The steps call `ModeSettings.model_validate`, `ConfigLoader`, `Configuration`, `parse_umask`,
`get_umask` and the methods of `Mode`.
-/

namespace FileMode

/-- What a session has stored. -/
structure Store where
  /-- The settings, by number. -/
  records : List SettingsRecord
  /-- The numbers of the named settings. -/
  settings : Table Nat
  configurations : Table Configuration
  modes : Table Mode

namespace Store

def empty : Store := ⟨[], .empty, .empty, .empty⟩

def addRecord (st : Store) (r : SettingsRecord) : Nat × Store :=
  (st.records.length, { st with records := st.records ++ [r] })

def nameSettings (st : Store) (name : String) (s : Settings) : Store :=
  let (number, st) := st.addRecord (.ofSettings s)
  { st with settings := st.settings.insert name number }

def nameConfiguration (st : Store) (name : String) (c : Configuration) : Store :=
  { st with configurations := st.configurations.insert name c }

def nameMode (st : Store) (name : String) (m : Mode) : Store :=
  { st with modes := st.modes.insert name m }

def find {α : Type} (t : Table α) (name : String) : Except Failure α :=
  match t.get? name with
  | some a => .ok a
  | none => .error (.unknownName name)

def record (st : Store) (number : Nat) : SettingsRecord :=
  (st.records[number]?).getD (.ofSettings .initial)

def recordOf (st : Store) (c : Configuration) : SettingsRecord := st.record c.record

def setRecord (st : Store) (number : Nat) (r : SettingsRecord) : Store :=
  { st with records := st.records.set number r }

/-- Builds a configuration over the settings of a number. -/
def configure (st : Store) (name : String) (number : Nat) : Except Failure Store := do
  let entries ← (st.record number).copyEntries
  return st.nameConfiguration name ⟨number, entries⟩

/-- The configuration that a name stands for, or none without a name. -/
def configuration? (st : Store) (name : Option String) : Except Failure (Option Configuration) :=
  match name with
  | none => .ok none
  | some name => (find st.configurations name).map some

end Store

/-- Which default a step takes for the umask. -/
inductive UmaskDefault where
  /-- The one where none is given. -/
  | usual
  | given (v : Value)
  /-- The one of the configuration. -/
  | configured

inductive Step where
  | validate (name : String) (data : Value)
  | loadText (name text : String)
  | loadFile (name path : String)
  | configureFile (name path : String)
  | configure (name : String) (settings : Option String)
  | assign (settings field : String) (v : Value)
  | put (settings key : String) (v : Value)
  | get (configuration key : String)
  | set (configuration key : String) (v : Value)
  | unset (configuration key : String)
  | mode (name : String) (v : Value)
  | defaultMode (name configuration : String)
  | parseUmask (name : String) (text : Value)
  | umask (name : String) (configuration : Option String) (default : UmaskDefault)
  | applyUmask (name mode umask : String)
  | applyConfigured (name mode : String) (configuration : Option String) (default : UmaskDefault)

/-- What a step that does not fail leaves behind. -/
structure StepResult where
  value : Value
  notes : List Note
  store : Store

namespace StepResult

def change (st : Store) : StepResult := ⟨.null, [], st⟩

end StepResult

namespace Store

def umaskDefault (st : Store) (c : Option Configuration) : UmaskDefault → Except Failure Value
  | .usual => .ok (.int Settings.initialUmask)
  | .given v => .ok v
  | .configured =>
    match c with
    | some c => .ok (st.recordOf c).defaultUmask
    | none => .error (.noMember .null Settings.umaskField)

/-- The umask in force that a step asks for, and the note about it. -/
def umaskInForce (st : Store) (configuration : Option String) (default : UmaskDefault) :
    Except Failure (Mode × Note) := do
  let c ← st.configuration? configuration
  Configuration.umask c (← st.umaskDefault c default)

def step (files : FileTree) (st : Store) : Step → Except Failure StepResult
  | .validate name data => return .change (st.nameSettings name (← Settings.ofData data))
  | .loadText name text => return .change (st.nameSettings name (← Settings.ofText text none))
  | .loadFile name path => do
    let (s, note) ← Settings.load files path
    return ⟨.null, [note], st.nameSettings name s⟩
  | .configureFile name path => do
    let (s, note) ← Settings.load files path
    let (number, st) := st.addRecord (.ofSettings s)
    return ⟨.null, [note], ← st.configure name number⟩
  | .configure name none => do
    let (number, st) := st.addRecord (.ofSettings .initial)
    return .change (← st.configure name number)
  | .configure name (some settings) => do
    return .change (← st.configure name (← find st.settings settings))
  | .assign settings field v => do
    let number ← find st.settings settings
    return .change (st.setRecord number ((st.record number).assign field v))
  | .put settings key v => do
    let number ← find st.settings settings
    return .change (st.setRecord number (← (st.record number).put key v))
  | .get configuration key => do
    let c ← find st.configurations configuration
    return ⟨c.get key, [], st⟩
  | .set configuration key v => do
    let c ← find st.configurations configuration
    return .change (st.nameConfiguration configuration (c.set key v))
  | .unset configuration key => do
    let c ← find st.configurations configuration
    return .change (st.nameConfiguration configuration (c.unset key))
  | .mode name v => return .change (st.nameMode name (← Argument.modeOfDigital v))
  | .defaultMode name configuration => do
    let c ← find st.configurations configuration
    return .change (st.nameMode name (← Argument.modeOfDigital (st.recordOf c).defaultMode))
  | .parseUmask name text => do
    return .change (st.nameMode name (← Argument.parseUmask text (.text Umask.key)))
  | .umask name configuration default => do
    let (m, note) ← st.umaskInForce configuration default
    return ⟨.null, [note], st.nameMode name m⟩
  | .applyUmask name mode umask => do
    let m ← find st.modes mode
    return .change (st.nameMode name (m.applyUmask (← find st.modes umask)))
  | .applyConfigured name mode configuration default => do
    let m ← find st.modes mode
    let (umask, note) ← st.umaskInForce configuration default
    return ⟨.null, [note], st.nameMode name (m.applyUmask umask)⟩

end Store

/-- What is reported of a step: its value and notes, or its failure, and the store after it. -/
structure StepReport where
  outcome : Except Failure (Value × List Note)
  store : Store

def Session.run (files : FileTree) (st : Store) : List Step → List StepReport
  | [] => []
  | s :: steps =>
    match st.step files s with
    | .ok r => ⟨.ok (r.value, r.notes), r.store⟩ :: Session.run files r.store steps
    | .error f => ⟨.error f, st⟩ :: Session.run files st steps

end FileMode
