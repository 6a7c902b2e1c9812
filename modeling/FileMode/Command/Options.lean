import FileMode.Command.Usage
import FileMode.Text.Similarity

/-!
Options and operands of a command line. A word that begins with a dash holds options: a long one,
with its value behind an equals sign, or a bundle of short ones, the last of which may have its
value right behind it. A value that is not attached is the next word, whatever that looks like. Two
dashes end the options.
-/

namespace FileMode.Command

structure OptionSpec where
  /-- The long name, with its dashes. -/
  long : String
  short : Option Char
  takesValue : Bool
deriving DecidableEq, Repr

/-- An option as it is used: its long name and its value. -/
structure Use where
  option : String
  value : Option String
deriving DecidableEq, Repr

/-- The options and operands of a command line, in order. -/
structure Parsed where
  uses : List Use
  operands : List String
deriving DecidableEq, Repr

namespace Parsed

/-- The value of an option: the last one if it is used repeatedly. -/
def value? (p : Parsed) (option : String) : Option String :=
  (p.uses.reverse.find? fun u => u.option = option).bind Use.value

def has (p : Parsed) (option : String) : Bool := p.uses.any fun u => u.option = option

def after (p : Parsed) (uses : List Use) : Parsed := { p with uses := uses ++ p.uses }

def afterOperand (p : Parsed) (operand : String) : Parsed :=
  { p with operands := operand :: p.operands }

end Parsed

/-- The options that one word holds. -/
structure Word where
  uses : List Use
  /-- The option whose value is the next word: its name as it is written, and its long name. -/
  waiting : Option (String × String)

inductive WordKind where
  | operand
  | final
  | options (w : Word)
  | fault (f : UsageFault)

def readBundle (specs : List OptionSpec) : List Char → WordKind
  | [] => .options ⟨[], none⟩
  | c :: cs =>
    let name := String.ofList ['-', c]
    match specs.find? fun s => s.short = some c with
    | none => .fault (.noSuchOption name [])
    | some s =>
      if s.takesValue then
        if cs.isEmpty then .options ⟨[], some (name, s.long)⟩
        else .options ⟨[⟨s.long, some (String.ofList cs)⟩], none⟩
      else
        match readBundle specs cs with
        | .options w => .options { w with uses := ⟨s.long, none⟩ :: w.uses }
        | other => other

def readLong (s : OptionSpec) (value : Option String) : WordKind :=
  if s.takesValue then
    match value with
    | some v => .options ⟨[⟨s.long, some v⟩], none⟩
    | none => .options ⟨[], some (s.long, s.long)⟩
  else if value.isSome then .fault (.unexpectedValue s.long)
  else .options ⟨[⟨s.long, none⟩], none⟩

/-- Splits a word at its first equals sign. -/
def splitValue (cs : List Char) : String × Option String :=
  let name := cs.takeWhile (· ≠ '=')
  match cs.drop name.length with
  | [] => (String.ofList name, none)
  | _ :: value => (String.ofList name, some (String.ofList value))

def readWord (specs : List OptionSpec) (word : String) : WordKind :=
  match word.toList with
  | ['-', '-'] => .final
  | '-' :: c :: cs =>
    let (name, value) := splitValue ('-' :: c :: cs)
    match specs.find? fun s => s.long = name with
    | some s => readLong s value
    | none =>
      if c = '-' then .fault (.noSuchOption name (Text.closeTo name (specs.map OptionSpec.long)))
      else readBundle specs (c :: cs)
  | _ => .operand

/-- Reads the words of a command line. If `mixed` is false, everything from the first operand on is
an operand. `waiting` is the option whose value is due. -/
def readWords (specs : List OptionSpec) (mixed : Bool) :
    (waiting : Option (String × String)) → List String → Except UsageFault Parsed
  | none, [] => .ok ⟨[], []⟩
  | some (name, _), [] => .error (.missingValue name)
  | some (_, option), value :: words => do
    let p ← readWords specs mixed none words
    return p.after [⟨option, some value⟩]
  | none, word :: words =>
    match readWord specs word with
    | .operand => do
      if mixed then
        let p ← readWords specs mixed none words
        return p.afterOperand word
      else return ⟨[], word :: words⟩
    | .final => .ok ⟨[], words⟩
    | .options w => do
      let p ← readWords specs mixed w.waiting words
      return p.after w.uses
    | .fault f => .error f

def parse (specs : List OptionSpec) (mixed : Bool) (words : List String) :
    Except UsageFault Parsed :=
  readWords specs mixed none words

end FileMode.Command
