import FileMode.Document.Fault

/-!
The tokens of a document. Indicators of flow collections, entries and pairs stand for themselves;
block collections, which the text shows by indentation alone, have tokens for their starts and
their common end.
-/

namespace FileMode.Document

/-- A line at the head of a document that says how to read it. -/
inductive Directive where
  | version (major minor : Nat)
  | handle (name target : String)
  /-- Any other directive, which is ignored. -/
  | other
deriving DecidableEq, Repr

/-- A tag as it is written: in full, or by a handle and what follows it. -/
inductive TagText where
  | full (uri : String)
  | short (handle suffix : String)
deriving DecidableEq, Repr

inductive Token where
  | directive (d : Directive)
  | documentStart
  | documentEnd
  | blockSequence
  | blockMapping
  | blockEnd
  | flowSequence
  | flowSequenceEnd
  | flowMapping
  | flowMappingEnd
  | flowEntry
  | blockEntry
  | key
  | value
  | anchor (name : String)
  | alias (name : String)
  | tag (t : TagText)
  | scalar (text : String) (plain : Bool)
  | textEnd
  /-- The place beyond which the text cannot be read. -/
  | fault (f : Fault)
deriving DecidableEq, Repr

end FileMode.Document
