import FileMode.Command.Run

/-!
The program: it takes its command line, reads the one file that a command may need, and writes the
report.
-/

namespace FileMode

def directoryCode : UInt32 := 21

/-- What a path leads to in the file system. -/
def entryAt (path : String) : IO (Option FileEntry) := do
  try
    let bytes ← IO.FS.readBinFile (Path.parse path).text
    return some (.file bytes.toList)
  catch
    | .noFileOrDirectory .. => return none
    | .inappropriateType _ code _ => return if code = directoryCode then some .directory else none
    | e => throw e

def reportOn (words : List String) : IO Command.Report := do
  match Command.plan words with
  | .done r => return r
  | .umask r verbose => return r.report (← entryAt r.config) verbose

end FileMode

def main (words : List String) : IO UInt32 := do
  let r ← FileMode.reportOn words
  IO.print r.out
  IO.eprint r.err
  if r.goesOn then IO.eprintln ""
  match r.breakdown with
  | some f => IO.eprintln f.message
  | none => pure ()
  return r.code.toUInt32
