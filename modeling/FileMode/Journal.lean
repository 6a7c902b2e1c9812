import FileMode.Value.Written

/-!
The notes that operations leave in the log.

Mirrors what `get_umask` and `load` log.
-/

namespace FileMode

inductive Note where
  | umaskDefault (default : Value)
  | umaskTaken (text : Value) (umask : Mode)
  /-- Settings have been read from a file: its path and the size of the table. -/
  | settingsRead (path : String) (size : Nat)

namespace Note

/-- The line of a note in the log. A default that is no integer has none. -/
def line? : Note → Option String
  | umaskDefault d =>
    d.toInt?.map fun n =>
      "DEBUG posix_mode.authorization.umask: No umask configured; using default " ++
        Radix.octal 4 n
  | umaskTaken text umask =>
    some ("DEBUG posix_mode.authorization.umask: Using configured umask " ++ text.quoted ++
      " (" ++ umask.display ++ ")")
  | settingsRead path size =>
    some ("INFO posix_mode.config.loader: Loaded mode config from " ++ path ++ " (" ++
      Radix.decimal size ++ " settings)")

def lines (notes : List Note) : List String := notes.filterMap line?

end Note

end FileMode
