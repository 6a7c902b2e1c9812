import FileMode.Document.Reading
import FileMode.Failure
import FileMode.Files
import FileMode.Files.Text
import FileMode.Journal

/-!
Loading settings from documents and from files. A document whose value counts as nothing stands for
settings without entries.

Mirrors `ConfigLoader`: `ofText` is `load_string`, and `load` is `load`.
-/

namespace FileMode

namespace Settings

/-- Reads data as settings, as `validate` does, with one failure for all complaints. -/
def ofData (data : Value) : Except Failure Settings :=
  (validate data).mapError .settings

def ofDocument (v : Value) : Except Failure Settings :=
  ofData (if v.isVacant then .map [] else v)

def ofText (text : String) (path : Option String) : Except Failure Settings := do
  let v ← (Document.read text).mapError (.document · path)
  ofDocument v

def ofBytes (bytes : List UInt8) (path : String) : Except Failure (Settings × Note) := do
  let text ← (Files.textOf bytes).mapError .encoding
  let s ← ofText text (some path)
  return (s, .settingsRead path s.table.size)

def ofEntry (entry : Option FileEntry) (path : String) : Except Failure (Settings × Note) :=
  match entry with
  | none => .error (.missingFile path)
  | some .directory => .error (.directory path)
  | some .unreachable => .error (.longPath path)
  | some (.file bytes) => ofBytes bytes path

/-- The settings in a file of a tree, and the note about them. -/
def load (t : FileTree) (path : String) : Except Failure (Settings × Note) :=
  let p := Path.parse path
  ofEntry (t.find? p) p.text

end Settings

end FileMode
