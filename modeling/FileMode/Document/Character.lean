/-!
Characters of documents: which may stand in one, which break lines, and which end a word.

`isAdmitted` mirrors `check_printable`.
-/

namespace FileMode.Document

def byteOrderMark : Char := '\ufeff'

/-- Whether a document may hold `c`: the controls are left out except tab and the line breaks, and
so are the two code points that are no characters at the end of the first plane. -/
def isAdmitted (c : Char) : Bool :=
  let n := c.toNat
  n = 9 || n = 10 || n = 13 || (0x20 ≤ n && n ≤ 0x7e) || n = 0x85 ||
    (0xa0 ≤ n && n ≤ 0xfffd) || 0x10000 ≤ n

/-- What a line break stands for in a scalar, if `c` is one: a line feed, except that the two
separators stand for themselves. -/
def breakValue? (c : Char) : Option Char :=
  if c = '\n' || c = '\r' || c = '\x85' then some '\n'
  else if c = '\u2028' || c = '\u2029' then some c
  else none

def isBreak (c : Char) : Bool := (breakValue? c).isSome

def isSpaceOrBreak (c : Char) : Bool := c = ' ' || isBreak c

def isSpaceOrTab (c : Char) : Bool := c = ' ' || c = '\t'

def isGap (c : Char) : Bool := isSpaceOrTab c || isBreak c

/-- Whether a text is at its end, or its first character satisfies `p`. -/
def endsOr (p : Char → Bool) : List Char → Bool
  | [] => true
  | c :: _ => p c

def begins (p : Char → Bool) : List Char → Bool
  | [] => false
  | c :: _ => p c

/-- Whether `c` may stand in the name of an anchor, a directive or a tag handle. -/
def isNameChar (c : Char) : Bool :=
  ('0' ≤ c && c ≤ '9') || ('A' ≤ c && c ≤ 'Z') || ('a' ≤ c && c ≤ 'z') || c = '-' || c = '_'

/-- The line break at the start of a text: what it stands for and the number of characters it
takes. A carriage return and a line feed after it are one break. -/
def lineBreak? : List Char → Option (Char × Nat)
  | '\r' :: '\n' :: _ => some ('\n', 2)
  | c :: _ => (breakValue? c).map (·, 1)
  | [] => none

/-- Whether a line that starts here marks the start or the end of a document: three dashes or three
dots, and a gap or the end of the text after them. -/
def atMarker (cs : List Char) : Bool :=
  (cs.take 3 = ['-', '-', '-'] || cs.take 3 = ['.', '.', '.']) && endsOr isGap (cs.drop 3)

/-- The number of characters up to the next line break, if they are spaces and perhaps a comment. -/
def restOfLine? (cs : List Char) : Option Nat :=
  let spaces := cs.takeWhile (· = ' ')
  let rest := cs.drop spaces.length
  match rest with
  | [] => some spaces.length
  | c :: _ =>
    if c = '#' then some (spaces.length + (rest.takeWhile (!isBreak ·)).length)
    else if isBreak c then some spaces.length
    else none

end FileMode.Document
