import FileMode.Files.Path

/-!
A tree of files. A path is followed name by name; every name but the last has to be that of a
directory, and two dots lead back to the directory above. The directories above the tree are known
to be there, and nothing else in them is known.
-/

namespace FileMode

/-- What a path leads to. -/
inductive FileEntry where
  | directory
  | file (bytes : List UInt8)
  /-- Nothing can be looked up, because the path or a name on it is too long. -/
  | unreachable
deriving DecidableEq, Repr

/-- Files and directories, by the names on the way to them. -/
structure FileTree where
  files : List (List String × List UInt8)
  directories : List (List String)

namespace FileTree

def empty : FileTree := ⟨[], []⟩

def ofLists (files : List (String × List UInt8)) (directories : List String) : FileTree :=
  ⟨files.map fun f => ((Path.parse f.1).names, f.2), directories.map fun d => (Path.parse d).names⟩

/-- Whether a directory stands at the end of some names: one that is given, or one on the way to
something. -/
def isDirectory (t : FileTree) (names : List String) : Bool :=
  names.isEmpty || t.directories.any (names.isPrefixOf ·) ||
    t.files.any fun f => names.length < f.1.length && names.isPrefixOf f.1

/-- What stands at the end of some names. -/
def at? (t : FileTree) (names : List String) : Option FileEntry :=
  match t.files.lookup names with
  | some bytes => some (.file bytes)
  | none => if t.isDirectory names then some .directory else none

def maxName : Nat := 255

def maxPath : Nat := 4095

/-- Follows names from a directory outside the tree. -/
def followOutside : List String → Option FileEntry
  | [] => some .directory
  | name :: names =>
    if name = ".." then followOutside names
    else if maxName < name.utf8ByteSize then some .unreachable
    else none

def follow (t : FileTree) (here : List String) : List String → Option FileEntry
  | [] => t.at? here
  | name :: names =>
    if t.isDirectory here then
      if name = ".." then
        if here.isEmpty then followOutside names else t.follow here.dropLast names
      else if maxName < name.utf8ByteSize then some .unreachable
      else t.follow (here ++ [name]) names
    else none

/-- What a path leads to. No file has the null character in its name. -/
def find? (t : FileTree) (p : Path) : Option FileEntry :=
  if p.hasNull then none
  else if maxPath < p.text.utf8ByteSize then some .unreachable
  else if p.root = "" then t.follow [] p.names
  else followOutside p.names

end FileTree

end FileMode
