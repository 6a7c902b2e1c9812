import FileMode.Document.Property
import FileMode.Document.Scalar.Block
import FileMode.Document.Scalar.Flow
import FileMode.Document.Scalar.Plain

/-!
The tokens of a text. A text is read once from left to right; at the start of each token the
indicator there decides how far the token reaches. Indentation opens and closes block collections.
What comes before a colon turns out to be a key only at the colon, so the last place where a key may
have begun is remembered, one for each open flow collection and one outside them.

Mirrors `fetch_more_tokens` and the functions that it calls for each kind of token.
-/

namespace FileMode.Document

structure Place where
  index : Nat
  line : Nat
  column : Nat
deriving DecidableEq, Repr

/-- The place after character `c`, which `cs` follows. A mark of byte order takes no column. -/
def Place.pass (p : Place) (c : Char) (cs : List Char) : Place :=
  if c = '\r' && begins (· = '\n') cs then ⟨p.index + 1, p.line, p.column + 1⟩
  else if isBreak c then ⟨p.index + 1, p.line + 1, 0⟩
  else if c = byteOrderMark then ⟨p.index + 1, p.line, p.column⟩
  else ⟨p.index + 1, p.line, p.column + 1⟩

/-- A place where a key may have begun. -/
structure Candidate where
  /-- The number of tokens before it. -/
  number : Nat
  /-- Whether nothing but a key may stand there. -/
  required : Bool
  place : Place
deriving DecidableEq, Repr

/-- The greatest number of characters from the start of a key to its colon. -/
def maxKeyLength : Nat := 1024

/-- Whether a key that began at a candidate can no longer end at a place. -/
def Candidate.isStale (k : Candidate) (p : Place) : Bool :=
  k.place.line ≠ p.line || maxKeyLength < p.index - k.place.index

/-- The state of reading a text. -/
structure Reader where
  place : Place
  /-- The columns of the open block collections, innermost first. -/
  indents : List Nat
  /-- The candidates of the open flow collections, innermost first. -/
  flow : List (Option Candidate)
  /-- The candidate outside flow collections. -/
  outer : Option Candidate
  keyAllowed : Bool
  /-- The tokens read, last first, and how many they are. -/
  tokens : List Token
  count : Nat

namespace Reader

def start : Reader := ⟨⟨0, 0, 0⟩, [], [], none, true, [], 0⟩

/-- The column of the innermost block collection counts as open, if there is one. -/
def indent? (r : Reader) : Option Nat := r.indents.head?

/-- The least column to which the lines of a scalar may be indented. -/
def scalarIndent (r : Reader) : Nat :=
  match r.indent? with
  | none => 0
  | some n => n + 1

def inFlow (r : Reader) : Bool := !r.flow.isEmpty

def pass (r : Reader) (c : Char) (cs : List Char) : Reader :=
  { r with place := r.place.pass c cs }

def push (r : Reader) (t : Token) : Reader :=
  { r with tokens := t :: r.tokens, count := r.count + 1 }

def allowKey (r : Reader) (allowed : Bool) : Reader := { r with keyAllowed := allowed }

/-! ### Candidates -/

/-- The candidate of the innermost flow collection, or the one outside flow collections. -/
def candidate? (r : Reader) : Option Candidate :=
  match r.flow with
  | [] => r.outer
  | k :: _ => k

def setCandidate (r : Reader) (k : Option Candidate) : Reader :=
  match r.flow with
  | [] => { r with outer := k }
  | _ :: flow => { r with flow := k :: flow }

/-- Gives the candidate up, which is a fault if only a key may stand there. -/
def dropCandidate (r : Reader) : Except Fault Reader :=
  if r.candidate?.any Candidate.required then .error .malformed else .ok (r.setCandidate none)

/-- Makes the next token a candidate if a key may begin there. Where a block collection has its
column, only a key may stand. -/
def noteCandidate (r : Reader) : Except Fault Reader :=
  if r.keyAllowed then do
    let r ← r.dropCandidate
    return r.setCandidate (some ⟨r.count, !r.inFlow && r.indent? = some r.place.column, r.place⟩)
  else .ok r

/-- Keeps a candidate that a key may still have begun at. -/
def fresh? (p : Place) (k : Option Candidate) : Option Candidate :=
  k.filter fun k => !k.isStale p

/-- Gives up the candidates whose key can no longer end. -/
def dropStale (r : Reader) : Except Fault Reader :=
  let isLost (k : Option Candidate) := k.any fun k => k.isStale r.place && k.required
  if isLost r.outer || r.flow.any isLost then .error .malformed
  else .ok { r with outer := fresh? r.place r.outer, flow := r.flow.map (fresh? r.place) }

/-! ### Indentation -/

/-- Closes the block collections whose column is not within `keep`. Flow collections do not look at
columns. -/
def closeBlocks (keep : Nat → Bool) (r : Reader) : Reader :=
  if r.inFlow then r
  else
    let closed := r.indents.takeWhile (!keep ·)
    { r with
      indents := r.indents.drop closed.length
      tokens := List.replicate closed.length .blockEnd ++ r.tokens
      count := r.count + closed.length }

def closeDeeper (column : Nat) (r : Reader) : Reader := r.closeBlocks (· ≤ column)

def closeAll (r : Reader) : Reader := r.closeBlocks fun _ => false

/-- Whether a collection at `column` is indented further than the innermost one. -/
def isDeeper (r : Reader) (column : Nat) : Bool := r.indent?.all (· < column)

/-- Opens a block collection at the present column, if it is indented further than the innermost
one. -/
def openBlock (r : Reader) (t : Token) : Reader :=
  if r.isDeeper r.place.column then
    { r with indents := r.place.column :: r.indents }.push t
  else r

/-! ### Tokens

Each function reads one token: the state after it and the number of characters it takes result. -/

def documentMarker (r : Reader) (t : Token) : Except Fault (Reader × Nat) := do
  let r ← r.closeAll.dropCandidate
  return ((r.allowKey false).push t, 3)

def directiveLine (r : Reader) (cs : List Char) : Except Fault (Reader × Nat) := do
  let r ← r.closeAll.dropCandidate
  let (d, n) ← directive cs
  return ((r.allowKey false).push (.directive d), n + 1)

/-- The start of a flow collection, which may begin a key. -/
def flowStart (r : Reader) (t : Token) : Except Fault (Reader × Nat) := do
  let r ← r.noteCandidate
  return ({ r with flow := none :: r.flow, keyAllowed := true }.push t, 1)

def flowEnd (r : Reader) (t : Token) : Except Fault (Reader × Nat) := do
  if !r.inFlow then throw .malformed
  let r ← r.dropCandidate
  return ({ r with flow := r.flow.drop 1, keyAllowed := false }.push t, 1)

def flowSeparator (r : Reader) : Except Fault (Reader × Nat) := do
  let r ← r.dropCandidate
  return ((r.allowKey true).push .flowEntry, 1)

/-- The dash of an entry. Outside flow collections it may open a block sequence. -/
def entryDash (r : Reader) : Except Fault (Reader × Nat) := do
  if !r.inFlow && !r.keyAllowed then throw .malformed
  let r := if r.inFlow then r else r.openBlock .blockSequence
  let r ← r.dropCandidate
  return ((r.allowKey true).push .blockEntry, 1)

/-- The question mark of a key. Outside flow collections it may open a block mapping. -/
def keyMark (r : Reader) : Except Fault (Reader × Nat) := do
  if !r.inFlow && !r.keyAllowed then throw .malformed
  let r := if r.inFlow then r else r.openBlock .blockMapping
  let r ← r.dropCandidate
  return ((r.allowKey !r.inFlow).push .key, 1)

/-- Turns a candidate into a key: a key token, and before it the start of a block mapping if the
candidate is indented further than the innermost collection, go in before the candidate. -/
def markKey (r : Reader) (k : Candidate) : Reader :=
  let opens := !r.inFlow && r.isDeeper k.place.column
  let marks := if opens then [Token.key, Token.blockMapping] else [Token.key]
  let (later, earlier) := r.tokens.splitAt (r.count - k.number)
  { r with
    indents := if opens then k.place.column :: r.indents else r.indents
    tokens := later ++ marks ++ earlier
    count := r.count + marks.length }

/-- The colon of a value: of the key at the candidate, or of one that a question mark has begun. -/
def valueColon (r : Reader) : Except Fault (Reader × Nat) :=
  match r.candidate? with
  | some k => .ok ((((r.setCandidate none).markKey k).allowKey false).push .value, 1)
  | none => do
    if !r.inFlow && !r.keyAllowed then throw .malformed
    let r := if r.inFlow then r else r.openBlock .blockMapping
    let r ← r.dropCandidate
    return ((r.allowKey !r.inFlow).push .value, 1)

def anchorMark (r : Reader) (make : String → Token) (cs : List Char) :
    Except Fault (Reader × Nat) := do
  let r ← r.noteCandidate
  let (name, n) ← anchorName cs
  return ((r.allowKey false).push (make name), n + 1)

def tagMark (r : Reader) (cs : List Char) : Except Fault (Reader × Nat) := do
  let r ← r.noteCandidate
  let (t, n) ← tag cs
  return ((r.allowKey false).push (.tag t), n + 1)

def blockScalar (r : Reader) (style : Block.Style) (cs : List Char) :
    Except Fault (Reader × Nat) := do
  let r ← r.dropCandidate
  let (text, n) ← Block.read style r.scalarIndent cs
  return ((r.allowKey true).push (.scalar (String.ofList text) false), n + 1)

def flowScalar (r : Reader) (style : Flow.Style) (cs : List Char) :
    Except Fault (Reader × Nat) := do
  let r ← r.noteCandidate
  let (text, n) ← Flow.read style 0 cs
  return ((r.allowKey false).push (.scalar (String.ofList text) false), n + 1)

/-- A plain scalar. After a line break a key may begin again. -/
def plainScalar (r : Reader) (cs : List Char) : Except Fault (Reader × Nat) := do
  let r ← r.noteCandidate
  let p := Plain.read r.inFlow r.scalarIndent 0 false cs
  return ((r.allowKey p.broke).push (.scalar (String.ofList p.text) true), p.taken)

/-- Whether `c` is an indicator, which begins no plain scalar unless `mayBeginPlain` says so. -/
def isIndicator (c : Char) : Bool :=
  ['-', '?', ':', ',', '[', ']', '\x7b', '\x7d', '#', '&', '*', '!', '|', '>', '\x27', '\x22', '%',
    '@', '\x60'].contains c

/-- Whether a plain scalar begins with `c`, which `cs` follows. -/
def mayBeginPlain (r : Reader) (c : Char) (cs : List Char) : Bool :=
  !(isGap c || isIndicator c) ||
    (!endsOr isGap cs && (c = '-' || (!r.inFlow && (c = '?' || c = ':'))))

def dispatch (r : Reader) (c : Char) (cs : List Char) : Except Fault (Reader × Nat) :=
  let lineStart := r.place.column = 0
  if c = '%' && lineStart then r.directiveLine cs
  else if c = '-' && lineStart && atMarker (c :: cs) then r.documentMarker .documentStart
  else if c = '.' && lineStart && atMarker (c :: cs) then r.documentMarker .documentEnd
  else if c = '[' then r.flowStart .flowSequence
  else if c = '\x7b' then r.flowStart .flowMapping
  else if c = ']' then r.flowEnd .flowSequenceEnd
  else if c = '\x7d' then r.flowEnd .flowMappingEnd
  else if c = ',' then r.flowSeparator
  else if c = '-' && endsOr isGap cs then r.entryDash
  else if c = '?' && (r.inFlow || endsOr isGap cs) then r.keyMark
  else if c = ':' && (r.inFlow || endsOr isGap cs) then r.valueColon
  else if c = '*' then r.anchorMark .alias cs
  else if c = '&' then r.anchorMark .anchor cs
  else if c = '!' then r.tagMark cs
  else if c = '|' && !r.inFlow then r.blockScalar .literal cs
  else if c = '>' && !r.inFlow then r.blockScalar .folded cs
  else if c = '\x27' then r.flowScalar .single cs
  else if c = '\x22' then r.flowScalar .double cs
  else if r.mayBeginPlain c cs then r.plainScalar (c :: cs)
  else .error .malformed

/-- Reads the token that begins with `c`, after closing what ends before it. -/
def token (r : Reader) (c : Char) (cs : List Char) : Except Fault (Reader × Nat) := do
  let r ← r.dropStale
  (r.closeDeeper r.place.column).dispatch c cs

def finish (r : Reader) : Except Fault Reader := do
  let r ← r.dropStale
  let r ← r.closeAll.dropCandidate
  return r.push .textEnd

/-- The number of tokens of which it is settled whether they begin a key. The candidate of the
innermost collection is about to be replaced where a key may begin. -/
def settled (r : Reader) : Nat :=
  let candidates := r.flow ++ [r.outer]
  let kept := if r.keyAllowed then candidates.drop 1 else candidates
  (kept.filterMap id).foldl (fun n k => min n k.number) r.count

/-- The tokens of a state. A fault stands after those that are settled, since it is found before the
others are used. -/
def result (r : Reader) (f : Option Fault) : List Token :=
  match f with
  | none => r.tokens.reverse
  | some f => r.tokens.reverse.take r.settled ++ [.fault f]

/-- Reads the rest of a text after `skip` characters, which belong to the token before. -/
def read (r : Reader) : (skip : Nat) → List Char → List Token
  | _, [] =>
    match r.finish with
    | .ok r => r.result none
    | .error f => r.result (some f)
  | skip + 1, c :: cs => read (r.pass c cs) skip cs
  | 0, c :: cs =>
    if c = ' ' then read (r.pass c cs) 0 cs
    else if c = '#' then read (r.pass c cs) (cs.takeWhile (!isBreak ·)).length cs
    else match lineBreak? (c :: cs) with
      | some (_, n) => read ((r.allowKey (r.keyAllowed || !r.inFlow)).pass c cs) (n - 1) cs
      | none =>
        match r.token c cs with
        | .ok (next, n) => read (next.pass c cs) (n - 1) cs
        | .error f => r.result (some f)

end Reader

/-- The tokens of a text. A mark of byte order at its start is skipped; a character that no document
holds makes the whole text malformed. -/
def tokens (cs : List Char) : List Token :=
  if cs.all isAdmitted then
    match cs with
    | c :: rest => if c = byteOrderMark then Reader.start.read 0 rest else Reader.start.read 0 cs
    | [] => Reader.start.read 0 []
  else [.fault .malformed]

end FileMode.Document
