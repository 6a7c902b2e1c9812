import FileMode.Command.Report

/-!
Runs of the program. The words of the command line decide what is asked for; only the umask command
then needs to know what a path leads to.

Mirrors `cli`.
-/

namespace FileMode.Command

inductive Plan where
  | done (r : Report)
  | umask (r : UmaskRequest) (verbose : Bool)

/-- The answer to an option that asks for help or for the version; of several such options, the
first counts. -/
def answer? (n : Option Name) (p : Parsed) : Option Report :=
  p.uses.findSome? fun u =>
    if u.option = helpOption.long then some (.success (help n))
    else if u.option = versionOption.long then some (.success ["cli, version " ++ version])
    else none

/-- What is asked for by a command and the operands and options after it. Options are checked before
the number of operands is. -/
def Name.planParsed (n : Name) (verbose : Bool) (p : Parsed) : Plan :=
  match n, p.operands with
  | .showMode, [] => .done (.ofFault n (.missingOperand "MODE"))
  | .showMode, [text] =>
    match Mode.read text with
    | .ok m => .done (showReport m)
    | .error e => .done (.ofFault n (.invalidOperand "MODE" e.message))
  | .showMode, _ :: extra => .done (.ofFault n (.extraOperands extra))
  | .umask, operands =>
    let config := (p.value? configOption.long).getD defaultConfig
    if (Path.parse config).hasNull then .done (.ofBreakdown .nullInPath)
    else match operands with
      | [] => .umask ⟨p.value? modeOption.long, p.value? umaskOption.long, config⟩ verbose
      | extra => .done (.ofFault n (.extraOperands extra))
  | .version, [] => .done (.success versionPanel)
  | .version, extra => .done (.ofFault n (.extraOperands extra))

def Name.plan (n : Name) (verbose : Bool) (words : List String) : Plan :=
  match parse n.options true words with
  | .error f => .done (.ofFault n f)
  | .ok p =>
    match answer? n p with
    | some r => .done r
    | none => n.planParsed verbose p

/-- The report about a word that is no command. One that begins with a dash is read as an option
once more, which it is not taken for behind two dashes. -/
def unknownCommand (word : String) (words : List String) : Report :=
  let unknown := Report.ofFault none
    (.noSuchCommand word (Text.closeTo word (Name.all.map Name.word)))
  if word.startsWith "-" then
    match parse generalOptions false words with
    | .error f => .ofFault none f
    | .ok p => (answer? none p).getD unknown
  else unknown

/-- What a command line asks for. -/
def plan (words : List String) : Plan :=
  if words.isEmpty then .done .ofNothing
  else
    match parse generalOptions false words with
    | .error f => .done (.ofFault none f)
    | .ok p =>
      match answer? none p, p.operands with
      | some r, _ => .done r
      | none, [] => .done (.ofFault none .missingCommand)
      | none, word :: rest =>
        match Name.ofWord? word with
        | some n => n.plan (p.has verboseOption.long) rest
        | none => .done (unknownCommand word (word :: rest))

/-- The report on a command line in a tree of files. -/
def run (files : FileTree) (words : List String) : Report :=
  match plan words with
  | .done r => r
  | .umask r verbose => r.report (files.find? (Path.parse r.config)) verbose

end FileMode.Command
