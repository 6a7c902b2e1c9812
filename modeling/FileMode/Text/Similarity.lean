/-!
How alike two texts are. Their longest common block is matched, and then what stands to the left and
to the right of it in the same way; the likeness is the share of the characters that are matched.

Mirrors `get_close_matches`.
-/

namespace FileMode.Text

def commonStart : List Char → List Char → Nat
  | c :: cs, d :: ds => if c = d then commonStart cs ds + 1 else 0
  | _, _ => 0

/-- A common block of two texts: where it begins in each, and its length. -/
structure Block where
  left : Nat
  right : Nat
  length : Nat

/-- The longer of two blocks, the first if they are as long. -/
def Block.longer (a b : Block) : Block := if a.length < b.length then b else a

/-- The longest common block; of several, the one that begins first in `a`, and then in `b`. -/
def longestBlock (a b : List Char) : Block :=
  let pairs := (List.range a.length).flatMap fun i : Nat =>
    (List.range b.length).map fun j : Nat => (⟨i, j, commonStart (a.drop i) (b.drop j)⟩ : Block)
  pairs.foldl Block.longer ⟨0, 0, 0⟩

/-- The number of matched characters, found with at most `depth` blocks inside each other. -/
def matched : (depth : Nat) → List Char → List Char → Nat
  | 0, _, _ => 0
  | depth + 1, a, b =>
    let k := longestBlock a b
    if k.length = 0 then 0
    else
      k.length + matched depth (a.take k.left) (b.take k.right) +
        matched depth (a.drop (k.left + k.length)) (b.drop (k.right + k.length))

/-- Twice the number of matched characters, and the number of characters of both texts. -/
def likeness (a b : String) : Nat × Nat :=
  (2 * matched a.length a.toList b.toList, a.length + b.length)

/-- Whether at least three fifths of the characters of two texts are matched. Texts of very unequal
lengths are not, which is seen without matching them. -/
def isClose (a b : String) : Bool :=
  3 * (a.length + b.length) ≤ 10 * min a.length b.length &&
    3 * (likeness a b).2 ≤ 5 * (likeness a b).1

def isMoreAlike (a b : Nat × Nat) : Bool := b.1 * a.2 < a.1 * b.2

/-- The texts of a list that are close to `word`, at most three of them, the closest. -/
def closeTo (word : String) (candidates : List String) : List String :=
  let close := candidates.filter fun c => isClose c word
  let sorted := close.mergeSort fun a b =>
    isMoreAlike (likeness a word) (likeness b word) ||
      (!isMoreAlike (likeness b word) (likeness a word) && b ≤ a)
  sorted.take 3

end FileMode.Text
