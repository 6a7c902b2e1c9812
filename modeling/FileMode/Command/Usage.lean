import FileMode.Text.Quoted

/-!
What is wrong with the words of a command line, and how it is told.
-/

namespace FileMode.Command

/-- A fault of a command line. -/
inductive UsageFault where
  | noSuchOption (name : String) (close : List String)
  | missingValue (option : String)
  | unexpectedValue (option : String)
  | missingCommand
  | noSuchCommand (name : String) (close : List String)
  | missingOperand (name : String)
  | extraOperands (operands : List String)
  | invalidOperand (name message : String)
deriving DecidableEq, Repr

namespace UsageFault

def hint (close : List String) : String :=
  match close with
  | [] => ""
  | [c] => " Did you mean " ++ Text.Quoted.quote c ++ "?"
  | _ =>
    let sorted := close.mergeSort fun a b => a ≤ b
    " (Did you mean one of: " ++ ", ".intercalate (sorted.map Text.Quoted.quote) ++ "?)"

def message : UsageFault → String
  | noSuchOption name close => "No such option " ++ Text.Quoted.quote name ++ "." ++ hint close
  | missingValue option => "Option " ++ Text.Quoted.quote option ++ " requires an argument."
  | unexpectedValue option => "Option " ++ Text.Quoted.quote option ++ " does not take a value."
  | missingCommand => "Missing command."
  | noSuchCommand name close => "No such command " ++ Text.Quoted.quote name ++ "." ++ hint close
  | missingOperand name => "Missing argument '" ++ name ++ "'."
  | extraOperands operands =>
    "Got unexpected extra argument" ++ (if operands.length = 1 then "" else "s") ++ " (" ++
      " ".intercalate operands ++ ")"
  | invalidOperand name message => "Invalid value for " ++ name ++ ": " ++ message

def showsUsage : UsageFault → Bool
  | missingValue _ | unexpectedValue _ => false
  | _ => true

end UsageFault

end FileMode.Command
