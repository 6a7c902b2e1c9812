import FileMode.Command.Options

/-!
The commands, their options, and the texts that explain them.

Mirrors the declarations of `cli`, `show_command`, `umask_command` and `version_command`.
-/

namespace FileMode.Command

def version : String := "0.1.0"

inductive Name where
  | showMode | umask | version
deriving DecidableEq, Repr

namespace Name

def all : List Name := [.showMode, .umask, .version]

def word : Name → String
  | showMode => "show"
  | umask => "umask"
  | version => "version"

def ofWord? (s : String) : Option Name := all.find? fun n => n.word = s

def purpose : Name → String
  | showMode => "Render MODE in octal and symbolic form."
  | umask => "Apply a umask to a mode and show the result."
  | version => "Show detailed version information."

/-- What follows the word of a command in its usage. -/
def arguments : Name → String
  | showMode => "[OPTIONS] MODE"
  | umask => "[OPTIONS]"
  | version => "[OPTIONS]"

end Name

def helpOption : OptionSpec := ⟨"--help", none, false⟩

def versionOption : OptionSpec := ⟨"--version", none, false⟩

def verboseOption : OptionSpec := ⟨"--verbose", some 'v', false⟩

def modeOption : OptionSpec := ⟨"--mode", some 'm', true⟩

def umaskOption : OptionSpec := ⟨"--umask", some 'u', true⟩

def configOption : OptionSpec := ⟨"--config", some 'c', true⟩

def defaultConfig : String := "posix_mode.yaml"

def generalOptions : List OptionSpec := [versionOption, verboseOption, helpOption]

def Name.options : Name → List OptionSpec
  | .showMode => [helpOption]
  | .umask => [modeOption, umaskOption, configOption, helpOption]
  | .version => [helpOption]

/-- The words that call the program, or a command of it. -/
def callWords : Option Name → String
  | none => "cli"
  | some n => "cli " ++ n.word

def usage (n : Option Name) : String :=
  "Usage: " ++ callWords n ++ " " ++
    match n with
    | none => "[OPTIONS] COMMAND [ARGS]..."
    | some n => n.arguments

/-- A block of a help text: its heading, and its lines. -/
def helpBlock (heading : String) (lines : List String) : List String :=
  "" :: (heading ++ ":") :: lines.map fun line => "  " ++ line

def generalLines : List String :=
  ["--version      Show the version and exit.",
    "-v, --verbose  Enable debug logging.",
    "--help         Show this message and exit."]

def commandLines : List String :=
  ["show     " ++ Name.showMode.purpose,
    "umask    " ++ Name.umask.purpose,
    "version  " ++ Name.version.purpose]

def optionLines : Name → List String
  | .umask =>
    ["-m, --mode TEXT    Starting mode in octal or symbolic form. Defaults to the",
      "                   configured default mode.",
      "-u, --umask TEXT   Umask text such as 0022. Overrides the configured umask.",
      "-c, --config PATH  Path to posix_mode.yaml.  [default: posix_mode.yaml]",
      "--help             Show this message and exit."]
  | _ => ["--help  Show this message and exit."]

/-- The lines of the help text of the program, or of a command. -/
def help (n : Option Name) : List String :=
  match n with
  | none =>
    [usage none, "", "  POSIX mode tools: render modes and apply umasks."] ++
      helpBlock "Options" generalLines ++ helpBlock "Commands" commandLines
  | some n => [usage (some n), "", "  " ++ n.purpose] ++ helpBlock "Options" (optionLines n)

end FileMode.Command
