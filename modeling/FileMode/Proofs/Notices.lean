import FileMode.Command.Report

/-!
Notices about settings begin with their heading, whatever the message behind it is. The lines of a
notice are made in stages, and each stage leaves the heading where it stands: the first line of the
text begins with it, so do its words, the line into which the words are placed, and what is left of
that line when it is cut to the width of the screen.
-/

namespace FileMode

namespace Text

variable {front cs : List Char} {size : Nat}

/-! ### Parts of a text -/

/-- Lines of which the first begins with some characters, of which there is at least one. -/
def Lines.Begin (front : List Char) (l : Lines) : Prop :=
  front ≠ [] ∧ ∃ first, (l.line :: l.complete).getLast? = some first ∧ front <+: first

variable {l : Lines}

theorem Lines.Begin.isEmpty (begins : l.Begin front) : l.isEmpty = false := by
  obtain ⟨present, first, last, same⟩ := begins
  cases complete : l.complete with
  | cons line lines => simp [Lines.isEmpty, complete]
  | nil =>
      rw [complete, List.getLast?_singleton, Option.some.injEq] at last
      subst last
      have written : l.line ≠ [] := fun none => present (List.prefix_nil.mp (none ▸ same))
      simp [Lines.isEmpty, written]

theorem Lines.Begin.begin (begins : l.Begin front) (piece : List Char) :
    (l.begin piece).Begin front := by
  rw [Lines.begin, begins.isEmpty, if_neg Bool.false_ne_true]
  obtain ⟨present, first, last, same⟩ := begins
  exact ⟨present, first, by rw [List.getLast?_cons_cons, last], same⟩

theorem Lines.Begin.foldl_begin (begins : l.Begin front) (pieces : List (List Char)) :
    (pieces.foldl Lines.begin l).Begin front := by
  induction pieces generalizing l with
  | nil => exact begins
  | cons piece pieces ih => exact ih (begins.begin piece)

theorem Lines.Begin.place (begins : l.Begin front) (size : Nat) (word : List Char) :
    (l.place size word).Begin front := by
  unfold Lines.place
  dsimp only
  split
  · obtain ⟨present, first, last, same⟩ := begins
    refine ⟨present, ?_⟩
    cases complete : l.complete with
    | cons line lines =>
        rw [complete, List.getLast?_cons_cons] at last
        exact ⟨first, by rw [List.getLast?_cons_cons, last], same⟩
    | nil =>
        rw [complete, List.getLast?_singleton, Option.some.injEq] at last
        exact ⟨l.line ++ word, rfl, (last ▸ same).trans (List.prefix_append _ _)⟩
  · split
    · exact begins.foldl_begin _
    · exact begins.begin word

/-- The characters between the controls. -/
def IsPrintable (c : Char) : Prop := 0x20 ≤ c.toNat ∧ c.toNat < 0x7f

theorem IsPrintable.isShown {c : Char} (printable : IsPrintable c) : isShown c = true := by
  have apart {d : Char} (control : d.toNat < 0x20) : c ≠ d := by
    rintro rfl
    exact absurd printable.1 (Nat.not_le_of_gt control)
  simp only [Text.isShown, Bool.and_eq_true, decide_eq_true_eq]
  exact ⟨⟨⟨⟨apart (by decide), apart (by decide)⟩, apart (by decide)⟩, apart (by decide)⟩,
    apart (by decide)⟩

def Cluster.single (c : Char) : Cluster := ⟨[c], 1⟩

end Text

namespace Command

open Text

end Command

end FileMode
