import FileMode.Command.Grid
import FileMode.Command.Help
import FileMode.Loading
import FileMode.Mode.Reading
import FileMode.Text.Markup
import FileMode.Text.Wrap
import FileMode.Umask

/-!
What a run of the program reports: its exit code, and the texts that it writes.

Mirrors `show_command`, `umask_command` and `version_command`, with `_load_configuration`
(`settingsFor`, `settingsFailure`) and `_mode_table` (`modeGrid`).
-/

namespace FileMode.Command

structure Report where
  code : Nat
  out : String
  err : String
  /-- Whether the errors go on behind `err`, in words that a failure does not hold. -/
  goesOn : Bool
  /-- The failure on which the run broke down. -/
  breakdown : Option Failure

def unlines (lines : List String) : String := String.join (lines.map fun line => line ++ "\n")

namespace Report

def success (lines : List String) : Report := ⟨0, unlines lines, "", false, none⟩

def ofFault (n : Option Name) (f : UsageFault) : Report :=
  let lines :=
    if f.showsUsage then
      [usage n, "Try '" ++ callWords n ++ " --help' for help.", ""]
    else []
  ⟨2, "", unlines (lines ++ ["Error: " ++ f.message]), false, none⟩

def ofBreakdown (f : Failure) : Report := ⟨1, "", "", false, some f⟩

/-- The report of a run without a command line, which is told how to call the program. -/
def ofNothing : Report := ⟨2, "", unlines (help none), false, none⟩

/-- A report with lines of the log before its errors. -/
def withLog (lines : List String) (r : Report) : Report := { r with err := unlines lines ++ r.err }

end Report

def screenWidth : Nat := 80

/-- A message with a heading, as lines of the screen. -/
def notice (heading message : String) : List String :=
  (Text.wrap screenWidth (heading.toList ++ ' ' :: Text.showMarkup message.toList)).map
    String.ofList

/-! ### Tables -/

def yesNo (b : Bool) : String := if b then "yes" else "no"

def classRow (m : Mode) (c : UserClass) : List String :=
  let t := m.triad c
  [c.name, t.display] ++ Right.all.map fun r => yesNo (t.grants r)

def modeGrid (m : Mode) : Grid :=
  ⟨"Permissions", ["Class", "Bits", "Read", "Write", "Execute"], UserClass.all.map (classRow m)⟩

def effectRow (name : String) (m : Mode) : List String := [name, m.octal, m.display]

def umaskGrid (m umask : Mode) : Grid :=
  ⟨"Umask Application", ["", "Octal", "Symbolic"],
    [effectRow "mode" m, effectRow "umask" umask, effectRow "result" (m.applyUmask umask)]⟩

/-! ### The commands -/

def showReport (m : Mode) : Report :=
  .success ((m.octal ++ "  " ++ m.display) :: (modeGrid m).lines)

def versionPanel : List String :=
  let inner := screenWidth - 4
  let row (s : String) : String := "│ " ++ Grid.padRight inner s ++ " │"
  let line (n : Nat) : String := String.ofList (List.replicate n '─')
  ["╭" ++ line 34 ++ " Version " ++ line 35 ++ "╮",
    row ("posix-mode  v" ++ version),
    row "POSIX style file/directory access modes.",
    "╰" ++ line (screenWidth - 2) ++ "╯"]

structure UmaskRequest where
  mode : Option String
  umask : Option String
  config : String
deriving DecidableEq, Repr

/-- The settings that a command goes by, and the notes about them: those that the path leads to, or
those of empty data if it leads nowhere. -/
def settingsFor (entry : Option FileEntry) (path : String) :
    Except Failure (Settings × List Note) :=
  match entry with
  | none => .ok (.initial, [])
  | _ => (Settings.ofEntry entry path).map fun (s, note) => (s, [note])

def UmaskRequest.startMode (r : UmaskRequest) (s : Settings) : Except UsageFault Mode :=
  match r.mode with
  | none => .ok (.ofDigital s.defaultMode)
  | some text => (Mode.read text).mapError fun e => .invalidOperand "MODE" e.message

/-- The umask of a request, and the notes about it. -/
def UmaskRequest.mask (r : UmaskRequest) (s : Settings) : Except UmaskError (Mode × List Note) :=
  match r.umask with
  | some text => (Umask.parse text Umask.key).map (·, [])
  | none =>
    (Umask.inForce (s.table.get? Umask.key) s.defaultUmask).map fun (m, note) => (m, [note])

/-- What the report about settings that are refused begins with. -/
def settingsHeading : String := "Invalid config:"

/-- The report about a failure to load settings. What is refused is reported as such. -/
def settingsFailure (f : Failure) : Report :=
  if f.isRefusal then
    if f.isAbridged then ⟨1, "", settingsHeading, true, none⟩
    else ⟨1, "", unlines (notice settingsHeading f.message), false, none⟩
  else .ofBreakdown f

def umaskFailure (e : UmaskError) : Report :=
  ⟨1, "", unlines (notice "Invalid umask:" (Failure.umask e).message), false, none⟩

/-- The report on a request, given what its path leads to: the settings are loaded first, then the
mode is read, and the umask last. -/
def UmaskRequest.report (r : UmaskRequest) (entry : Option FileEntry) (verbose : Bool) : Report :=
  let log (notes : List Note) : List String := if verbose then Note.lines notes else []
  match settingsFor entry (Path.parse r.config).text with
  | .error f => settingsFailure f
  | .ok (s, loaded) =>
    match r.startMode s with
    | .error f => (Report.ofFault (some .umask) f).withLog (log loaded)
    | .ok m =>
      match r.mask s with
      | .error e => (umaskFailure e).withLog (log loaded)
      | .ok (umask, taken) =>
        (Report.success (umaskGrid m umask).lines).withLog (log (loaded ++ taken))

end FileMode.Command
