import FileMode.Text.Column
import FileMode.Text.Digit
import FileMode.Text.Splitting

/-!
Breaking texts into lines of a given number of columns. Lines break before words; the blanks after a
word belong to it, but need not fit. A word that no line has room for is cut.
-/

namespace FileMode.Text

/-- Whether a line shows `c` at all: the bell, the backspace and the breaks other than the line feed
are left out. -/
def isShown (c : Char) : Bool :=
  c ≠ '\x07' && c ≠ '\x08' && c ≠ '\x0b' && c ≠ '\x0c' && c ≠ '\r'

def tabSize : Nat := 8

/-- The parts of a line between its tabs, each but the last filled up with at least one space to the
next stop; `column` is that of the start. -/
def fillParts (column : Nat) : List (List Char) → List Char
  | [] => []
  | [part] => part
  | part :: parts =>
    let filled := part ++ [' ']
    let reached := column + width filled
    let gap := (tabSize - reached % tabSize) % tabSize
    filled ++ List.replicate gap ' ' ++ fillParts (reached + gap) parts

/-- A line with spaces in place of its tabs. -/
def expandTabs (cs : List Char) : List Char := fillParts 0 (splitAt '\t' cs)

/-- Puts a character before the words of a line that follow it, and the blanks that come before
them. -/
def addToWords (c : Char) : List Char × List (List Char) → List Char × List (List Char)
  | (blanks, ws) =>
    if isAnyBlank c then (c :: blanks, ws)
    else match blanks, ws with
      | [], w :: ws => ([], (c :: w) :: ws)
      | _, _ => ([], (c :: blanks) :: ws)

/-- The words of a line, each with the blanks after it, and the first also with those before it.
Blanks alone are one word. -/
def words (cs : List Char) : List (List Char) :=
  match cs.foldr addToWords ([], []) with
  | (blanks, []) => [blanks]
  | (blanks, w :: ws) => (blanks ++ w) :: ws

def dropFinalBlanks (cs : List Char) : List Char := (cs.reverse.dropWhile isAnyBlank).reverse

/-- Cuts a word into pieces of at most `size` columns; `piece` is the piece so far, and `used` its
columns. -/
def cut (size : Nat) (piece : List Char) (used : Nat) : List Cluster → List (List Char)
  | [] => [piece]
  | k :: ks =>
    if size < used + k.columns then piece :: cut size k.chars k.columns ks
    else cut size (piece ++ k.chars) (used + k.columns) ks

/-- Lines under construction: those that are complete, last first, and the one that grows, with its
columns. -/
structure Lines where
  complete : List (List Char)
  line : List Char
  used : Nat

def Lines.isEmpty (l : Lines) : Bool := l.complete.isEmpty && l.line.isEmpty

def Lines.begin (l : Lines) (piece : List Char) : Lines :=
  if l.isEmpty then ⟨[], piece, width piece⟩ else ⟨l.line :: l.complete, piece, width piece⟩

/-- Places a word: on the line that grows if it fits without its blanks, and otherwise on lines of
its own. -/
def Lines.place (size : Nat) (l : Lines) (word : List Char) : Lines :=
  let need := width (dropFinalBlanks word)
  if l.used + need ≤ size then ⟨l.complete, l.line ++ word, l.used + width word⟩
  else if size < need then (cut size [] 0 (clusters word)).foldl Lines.begin l
  else l.begin word

/-- The clusters of a line that fit into `size` columns; one of two columns that does not fit leaves
a space. -/
def cropClusters (size : Nat) : List Cluster → List Char
  | [] => []
  | k :: ks =>
    if k.columns ≤ size then k.chars ++ cropClusters (size - k.columns) ks
    else List.replicate size ' '

/-- The part of a line that fits into `size` columns. -/
def crop (size : Nat) (cs : List Char) : List Char :=
  if width cs ≤ size then cs else cropClusters size (clusters cs)

/-- Drops blanks from the end of a line that has more than `size` characters. -/
def trimEnd (size : Nat) (cs : List Char) : List Char :=
  let blanks := cs.length - (dropFinalBlanks cs).length
  cs.take (cs.length - min blanks (cs.length - size))

/-- Breaks one line into lines of at most `size` columns. -/
def wrapLine (size : Nat) (cs : List Char) : List (List Char) :=
  let l := (words (expandTabs cs)).foldl (Lines.place size) ⟨[], [], 0⟩
  (l.line :: l.complete).reverse.map fun line => crop size (trimEnd size line)

/-- Breaks a text into lines of at most `size` columns. -/
def wrap (size : Nat) (cs : List Char) : List (List Char) :=
  (splitAt '\n' (cs.filter isShown)).flatMap (wrapLine size)

end FileMode.Text
