import FileMode.Text.Splitting

/-!
Paths and their written form. A path is a root and the names on the way from it; empty names and
single dots do not count, two dots do.

Mirrors `Path`.
-/

namespace FileMode

structure Path where
  /-- The slashes that it starts with, of which there are at most two. -/
  root : String
  names : List String
deriving DecidableEq, Repr

namespace Path

/-- The root of the path that a text names: exactly two slashes are a root of their own. -/
def rootOf (cs : List Char) : String :=
  match (cs.takeWhile (· = '/')).length with
  | 0 => ""
  | 2 => "//"
  | _ => "/"

def parse (text : String) : Path :=
  let names := (Text.splitAt '/' text.toList).map fun part => String.ofList part
  ⟨rootOf text.toList, names.filter fun name => name ≠ "" && name ≠ "."⟩

def text (p : Path) : String :=
  if p.root = "" && p.names.isEmpty then "." else p.root ++ "/".intercalate p.names

def hasNull (p : Path) : Bool := p.names.any fun name => name.toList.contains '\x00'

end Path

end FileMode
