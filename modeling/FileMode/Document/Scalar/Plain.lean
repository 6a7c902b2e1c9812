import FileMode.Document.Folding

/-!
Plain scalars, which stand without quotes. They end before a comment, before the colon of a mapping,
before an indicator of a flow collection, and where a line is indented no further than its
collection.

Mirrors `scan_plain`.
-/

namespace FileMode.Document

structure Plain where
  text : List Char
  /-- The number of characters, the gap after the scalar included. -/
  taken : Nat
  /-- Whether the gap after the scalar holds a line break. -/
  broke : Bool
deriving DecidableEq, Repr

namespace Plain

def isFlowIndicator (c : Char) : Bool :=
  c = ',' || c = '?' || c = '[' || c = ']' || c = '\x7b' || c = '\x7d'

/-- Whether `c` closes or separates the members of a flow collection. -/
def isFlowBound (c : Char) : Bool :=
  c = ',' || c = '[' || c = ']' || c = '\x7b' || c = '\x7d'

/-- Whether a run of a plain scalar ends before `c`, which `cs` follows. -/
def endsRun (flow : Bool) (c : Char) (cs : List Char) : Bool :=
  isGap c || (c = ':' && (endsOr isGap cs || (flow && begins isFlowBound cs))) ||
    (flow && isFlowIndicator c)

structure Gap where
  /-- What the gap stands for. -/
  text : List Char
  taken : Nat
  broke : Bool
  column : Nat
  marker : Bool

/-- The gap at the start of a text: spaces, and blank lines if a break follows them. -/
def gap (cs : List Char) : Gap :=
  let spaces := cs.takeWhile (· = ' ')
  let rest := cs.drop spaces.length
  match lineBreak? rest with
  | none => ⟨spaces, spaces.length, false, 0, false⟩
  | some (value, n) =>
    let lines := BlankLines.read (· = ' ') true 0 (rest.drop n)
    ⟨foldBreaks value lines.breaks, spaces.length + n + lines.taken, true, lines.column,
      lines.marker⟩

/-- Whether a scalar may go on after a gap. Outside flow collections the next line has to reach
column `indent`. -/
def Gap.passable (g : Gap) (flow : Bool) (indent : Nat) : Bool :=
  0 < g.taken && !g.marker && (flow || !g.broke || indent ≤ g.column)

def push (c : Char) (p : Plain) : Plain := { p with text := c :: p.text, taken := p.taken + 1 }

/-- Reads a plain scalar after `skip` characters. `fresh` holds after a gap, where a scalar that
does not go on has ended before the gap. -/
def read (flow : Bool) (indent : Nat) : (skip : Nat) → (fresh : Bool) → List Char → Plain
  | _, _, [] => ⟨[], 0, false⟩
  | skip + 1, fresh, _ :: cs => read flow indent skip fresh cs
  | 0, fresh, c :: cs =>
    if fresh && c = '#' then ⟨[], 0, false⟩
    else if endsRun flow c cs then
      if fresh then ⟨[], 0, false⟩
      else
        let g := gap (c :: cs)
        if g.passable flow indent then
          let more := read flow indent (g.taken - 1) true cs
          if more.text.isEmpty then ⟨[], g.taken, g.broke⟩
          else ⟨g.text ++ more.text, g.taken + more.taken, more.broke⟩
        else ⟨[], g.taken, g.broke⟩
    else (read flow indent 0 false cs).push c

end Plain

end FileMode.Document
