import FileMode.Document.Tag

/-!
The nodes of a document: scalars with their texts, sequences and mappings. Aliases are gone: each
stands replaced by the node that it names.
-/

namespace FileMode.Document

inductive Node where
  | scalar (tag : Tag) (text : List Char)
  | sequence (tag : Tag) (items : List Node)
  | mapping (tag : Tag) (entries : List (Node × Node))

namespace Node

def tag : Node → Tag
  | scalar t _ => t
  | sequence t _ => t
  | mapping t _ => t

/-- The node that stands where nothing is written. -/
def missing : Node := scalar .null []

end Node

end FileMode.Document
