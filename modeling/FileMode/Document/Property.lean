import FileMode.Document.Character
import FileMode.Document.Token
import FileMode.Number.Literal
import FileMode.Text.Utf8

/-!
Anchors, aliases, tags and directives: the parts of a document whose text is read by their own
rules. Each reader is given the text after the indicator that the part begins with.

Mirrors `scan_anchor`, `scan_tag` and `scan_directive`.
-/

namespace FileMode.Document

def wordEnds (cs : List Char) : Bool := endsOr isSpaceOrBreak cs

/-! ### Anchors and aliases -/

def endsAnchor (c : Char) : Bool :=
  isGap c || c = '?' || c = ':' || c = ',' || c = ']' || c = '\x7d' || c = '%' || c = '@' ||
    c = '\x60'

/-- Reads the name of an anchor or alias, and the number of characters it takes. -/
def anchorName (cs : List Char) : Except Fault (String × Nat) :=
  let name := cs.takeWhile isNameChar
  if name.isEmpty || !endsOr endsAnchor (cs.drop name.length) then .error .malformed
  else .ok (String.ofList name, name.length)

/-! ### Tags -/

def isUriChar (c : Char) : Bool :=
  isNameChar c ||
    [';', '/', '?', ':', '@', '&', '=', '+', '$', ',', '.', '!', '~', '*', '\x27', '(', ')', '[',
      ']'].contains c

/-- Text of a tag that has been read: characters, or bytes of which the last may be the start of a
character. -/
structure UriPart where
  text : List Char
  pending : List UInt8

/-- Ends a run of escaped bytes, which have to encode a text. -/
def UriPart.settle (u : UriPart) : Except Fault (List Char) :=
  match Text.Utf8.decode u.pending with
  | .ok cs => .ok (u.text ++ cs)
  | .error _ => .error .malformed

/-- Reads the text of a tag after `skip` characters: the text and the number of characters it takes.
Bytes are written by a percent sign and two hexadecimal digits. -/
def uriText (u : UriPart) : (skip : Nat) → List Char → Except Fault (List Char × Nat)
  | _, [] => return (← u.settle, 0)
  | skip + 1, _ :: cs => uriText u skip cs
  | 0, c :: cs =>
    if c = '%' then
      match (cs.take 2).mapM (Radix.digitValue? 16) with
      | some [high, low] => do
        let byte := UInt8.ofNat (16 * high + low)
        let (text, n) ← uriText { u with pending := u.pending ++ [byte] } 2 cs
        return (text, n + 3)
      | _ => .error .malformed
    else if isUriChar c then do
      let settled ← u.settle
      let (text, n) ← uriText ⟨settled ++ [c], []⟩ 0 cs
      return (text, n + 1)
    else return (← u.settle, 0)

def uri (cs : List Char) : Except Fault (String × Nat) := do
  let (text, n) ← uriText ⟨[], []⟩ 0 cs
  if n = 0 then throw .malformed
  return (String.ofList text, n)

/-- Reads a tag handle, from its exclamation mark on: the mark alone before a space, and otherwise a
name between two marks. -/
def handle (cs : List Char) : Except Fault (String × Nat) :=
  match cs with
  | '!' :: rest =>
    if begins (· = ' ') rest then .ok ("!", 1)
    else
      let name := rest.takeWhile isNameChar
      if begins (· = '!') (rest.drop name.length) then
        .ok (String.ofList ('!' :: name ++ ['!']), name.length + 2)
      else .error .malformed
  | _ => .error .malformed

/-- Reads a tag after its exclamation mark: in full between angle brackets, the mark alone, or what
follows a handle. A space or the end of the line has to follow. -/
def tag (cs : List Char) : Except Fault (TagText × Nat) := do
  let (t, n) ←
    if begins (· = '<') cs then do
      let (text, n) ← uri (cs.drop 1)
      if begins (· = '>') (cs.drop (n + 1)) then pure (TagText.full text, n + 2)
      else throw .malformed
    else if endsOr isGap cs then pure (TagText.full "!", 0)
    else if (cs.takeWhile (!isSpaceOrBreak ·)).contains '!' then do
      let (name, size) ← handle ('!' :: cs)
      let (text, n) ← uri (cs.drop (size - 1))
      pure (TagText.short name text, size - 1 + n)
    else do
      let (text, n) ← uri cs
      pure (TagText.short "!" text, n)
  if wordEnds (cs.drop n) then return (t, n) else throw .malformed

/-! ### Directives -/

def spaces (cs : List Char) : Nat := (cs.takeWhile (· = ' ')).length

/-- Reads decimal digits: the number and how many there are, which is limited as in literals. -/
def number (cs : List Char) : Except Fault (Nat × Nat) :=
  match (cs.takeWhile Char.isDigit).mapM (Radix.digitValue? 10) with
  | some (d :: ds) =>
    let n := ds.length + 1
    if Literal.maxDigits < n then .error (.integerSize n) else .ok (Radix.ofDigits 10 (d :: ds), n)
  | _ => .error .malformed

def version (cs : List Char) : Except Fault (Directive × Nat) := do
  let start := spaces cs
  let (major, n) ← number (cs.drop start)
  let rest := cs.drop (start + n)
  if !begins (· = '.') rest then throw .malformed
  let (minor, m) ← number (rest.drop 1)
  if !wordEnds (rest.drop (m + 1)) then throw .malformed
  return (.version major minor, start + n + m + 1)

/-- Reads what a tag handle is to stand for. -/
def handleTarget (cs : List Char) : Except Fault (Directive × Nat) := do
  let start := spaces cs
  let (name, n) ← handle (cs.drop start)
  let rest := cs.drop (start + n)
  if !begins (· = ' ') rest then throw .malformed
  let gap := spaces rest
  let (target, m) ← uri (rest.drop gap)
  if !wordEnds (rest.drop (gap + m)) then throw .malformed
  return (.handle name target, start + n + gap + m)

/-- Reads a directive after its percent sign, to the end of its line. -/
def directive (cs : List Char) : Except Fault (Directive × Nat) := do
  let name := cs.takeWhile isNameChar
  let rest := cs.drop name.length
  if name.isEmpty || !wordEnds rest then throw .malformed
  let (d, n) ←
    if String.ofList name = "YAML" then version rest
    else if String.ofList name = "TAG" then handleTarget rest
    else pure (Directive.other, (rest.takeWhile (!isBreak ·)).length)
  let some m := restOfLine? (rest.drop n) | throw .malformed
  return (d, name.length + n + m)

end FileMode.Document
