import FileMode.Proofs.RightsPrograms
import Mathlib.Data.List.Forall2

/-!
Two programs over triads that run side by side.

Two steps are alike under a relation between triads if they keep it: they put in related triads, or
they do to the entries of two stacks what keeps these related (`Instruction.Alike`). Programs of
alike steps then lead through related stacks, and neither finds its operands where the other does
not (`rel_trace`).

Two relations are looked at. Where one triad is below another, it grants no more (`below_iff`);
without complement and implication, programs that push more lead through stacks that grant more
(`monotone_programs`). And a program whose intersections and unions are exchanged leads through the
complements of all stacks, if it pushes the complements (`dual_programs`).
-/

namespace FileMode.Triad

open List (Forall₂)

/-! ### Alike steps -/

namespace Instruction

/-- A step of two operands, and what it makes of the left and the right one. -/
inductive Combines : Instruction → (Triad → Triad → Triad) → Prop where
  | inter : Combines inter Triad.inter
  | union : Combines union Triad.union
  | implies : Combines implies fun left right => ofBool (left.implies right)

/-- Steps that keep a relation between triads. -/
inductive Alike (R : Triad → Triad → Prop) : Instruction → Instruction → Prop where
  | push {t u : Triad} (related : R t u) : Alike R (push t) (push u)
  | compl (keeps : ∀ {t u : Triad}, R t u → R t.compl u.compl) : Alike R compl compl
  | dup : Alike R dup dup
  | reparse : Alike R reparse reparse
  | combine {i j : Instruction} {f g : Triad → Triad → Triad} (first : i.Combines f)
      (second : j.Combines g)
      (keeps : ∀ {left left' right right'}, R left left' → R right right' →
        R (f left right) (g left' right')) : Alike R i j

end Instruction

variable {R : Triad → Triad → Prop} {i j : Instruction} {first second : List Instruction}
  {stack stack' : List Triad}

/-- Alike steps find their operands on related stacks together, and leave related stacks. -/
theorem rel_run (alike : i.Alike R j) (entries : Forall₂ R stack stack') :
    Option.Rel (Forall₂ R) (i.run stack) (j.run stack') := by
  cases alike with
  | push related => exact .some (.cons related entries)
  | compl keeps =>
      cases entries with
      | nil => exact .none
      | cons top rest => exact .some (.cons (keeps top) rest)
  | dup =>
      cases entries with
      | nil => exact .none
      | cons top rest => exact .some (.cons top (.cons top rest))
  | reparse =>
      cases entries with
      | nil => exact .none
      | cons top rest =>
          rw [run_reparse (List.cons_ne_nil _ _), run_reparse (List.cons_ne_nil _ _)]
          exact .some (.cons top rest)
  | combine first second keeps =>
      cases entries with
      | nil => cases first <;> cases second <;> exact .none
      | cons right rest =>
          cases rest with
          | nil => cases first <;> cases second <;> exact .none
          | cons left rest =>
              have result := Forall₂.cons (keeps left right) rest
              cases first <;> cases second <;> exact .some result

/-- Computations that go on alike from related results. -/
theorem rel_bind {α β γ δ : Type} {r : α → β → Prop} {q : γ → δ → Prop} {o : Option α}
    {o' : Option β} {f : α → Option γ} {g : β → Option δ} (results : Option.Rel r o o')
    (alike : ∀ {a b}, r a b → Option.Rel q (f a) (g b)) : Option.Rel q (o.bind f) (o'.bind g) := by
  cases results with
  | none => exact .none
  | some related => exact alike related

/-- Programs of alike steps lead from related stacks through related stacks, unless both of them
find a stack too short. -/
theorem rel_trace (alike : Forall₂ (Instruction.Alike R) first second)
    (entries : Forall₂ R stack stack') :
    Option.Rel (Forall₂ (Forall₂ R)) (trace first stack) (trace second stack') := by
  induction alike generalizing stack stack' with
  | nil => exact .some .nil
  | cons step _ ih =>
      rw [trace_cons, trace_cons]
      refine rel_bind (rel_run step entries) fun next => ?_
      rw [Option.map_eq_bind, Option.map_eq_bind]
      exact rel_bind (ih next) fun later => .some (Forall₂.cons next later)

/-! ### Programs that push more -/

/-- Whether `t` grants nothing that `u` does not grant. -/
def Below (t u : Triad) : Prop := u.implies t = true

theorem below_iff {t u : Triad} : t.Below u ↔ t.rights ⊆ u.rights := implies_iff u t

/-- Steps without complement and implication, of which the second is the first or pushes a triad
above that of the first. -/
inductive Instruction.Widens : Instruction → Instruction → Prop where
  | push {t u : Triad} (below : t.Below u) : Widens (push t) (push u)
  | dup : Widens dup dup
  | reparse : Widens reparse reparse
  | inter : Widens inter inter
  | union : Widens union union

theorem Below.inter {t t' u u' : Triad} (left : t.Below t') (right : u.Below u') :
    (t.inter u).Below (t'.inter u') := by
  simp only [below_iff, rights_inter] at *
  exact Finset.inter_subset_inter left right

theorem Below.union {t t' u u' : Triad} (left : t.Below t') (right : u.Below u') :
    (t.union u).Below (t'.union u') := by
  simp only [below_iff, rights_union] at *
  exact Finset.union_subset_union left right

theorem Instruction.Widens.alike (widens : i.Widens j) : i.Alike Below j := by
  cases widens with
  | push below => exact .push below
  | dup => exact .dup
  | reparse => exact .reparse
  | inter => exact .combine .inter .inter Below.inter
  | union => exact .combine .union .union Below.union

/-- **Programs that push more grant more.** Let two programs without complement and implication
differ in what they push alone, where the second pushes triads that imply those of the first, and
let the stack that the second starts on imply that of the first, entry by entry. If the first always
finds its operands, both run to their end, and after each step the stacks have the same height and
each entry of the second implies that of the first: it holds every right that the other one does. -/
theorem monotone_programs (widens : Forall₂ Instruction.Widens first second)
    (entries : Forall₂ Below stack stack') (fits : Fits first stack.length) :
    ∃ states states', trace first stack = some states ∧ trace second stack' = some states' ∧
      states.length = first.length ∧ states'.length = first.length ∧
      Forall₂ (Forall₂ Below) states states' ∧
      Forall₂ (Forall₂ fun t u => t.rights ⊆ u.rights) states states' := by
  obtain ⟨states, run⟩ := (exists_trace_iff first stack).mpr fits
  have related := rel_trace (widens.imp fun _ _ step => step.alike) entries
  rw [run] at related
  cases run' : trace second stack' with
  | none =>
      rw [run'] at related
      cases related
  | some states' =>
      rw [run', Option.rel_some_some] at related
      have count := length_trace run
      have kept : Forall₂ (Forall₂ fun t u => t.rights ⊆ u.rights) states states' :=
        related.imp fun _ _ entries => entries.imp fun _ _ below => below_iff.mp below
      exact ⟨states, states', run, rfl, count, related.length_eq.symm.trans count, related, kept⟩

/-- More is pushed, the stack starts with more, and what comes out grants rights where it granted
none. -/
theorem monotone_programs_more :
    trace [.push (ofInt 4), .push (ofInt 2), .union, .reparse, .inter] [ofInt 1] =
        some [[ofInt 4, ofInt 1], [ofInt 2, ofInt 4, ofInt 1], [ofInt 6, ofInt 1],
          [ofInt 6, ofInt 1], [ofInt 0]] ∧
      ∃ states, trace [.push (ofInt 5), .push (ofInt 2), .union, .reparse, .inter] [ofInt 3] =
          some states ∧ states.getLast? = some [ofInt 3] ∧
        Forall₂ (Forall₂ Below) [[ofInt 4, ofInt 1], [ofInt 2, ofInt 4, ofInt 1],
          [ofInt 6, ofInt 1], [ofInt 6, ofInt 1], [ofInt 0]] states ∧
        Forall₂ (Forall₂ fun t u => t.rights ⊆ u.rights) [[ofInt 4, ofInt 1],
          [ofInt 2, ofInt 4, ofInt 1], [ofInt 6, ofInt 1], [ofInt 6, ofInt 1], [ofInt 0]]
          states := by
  have widens : Forall₂ Instruction.Widens
      [.push (ofInt 4), .push (ofInt 2), .union, .reparse, .inter]
      [.push (ofInt 5), .push (ofInt 2), .union, .reparse, .inter] :=
    .cons (.push rfl) (.cons (.push rfl) (.cons .union (.cons .reparse (.cons .inter .nil))))
  have entries : Forall₂ Below [ofInt 1] [ofInt 3] := .cons rfl .nil
  have fits : Fits [.push (ofInt 4), .push (ofInt 2), .union, .reparse, .inter] 1 :=
    (exists_trace_iff _ [ofInt 1]).mp ⟨_, rfl⟩
  obtain ⟨states, states', run, run', -, -, related, kept⟩ :=
    monotone_programs widens entries fits
  have more : trace [.push (ofInt 5), .push (ofInt 2), .union, .reparse, .inter] [ofInt 3] =
      some [[ofInt 5, ofInt 3], [ofInt 2, ofInt 5, ofInt 3], [ofInt 7, ofInt 3],
        [ofInt 7, ofInt 3], [ofInt 3]] := by decide
  have less : trace [.push (ofInt 4), .push (ofInt 2), .union, .reparse, .inter] [ofInt 1] =
      some [[ofInt 4, ofInt 1], [ofInt 2, ofInt 4, ofInt 1], [ofInt 6, ofInt 1],
        [ofInt 6, ofInt 1], [ofInt 0]] := by decide
  cases less.symm.trans run
  cases more.symm.trans run'
  exact ⟨less, _, more, rfl, related, kept⟩

/-! ### Dual programs -/

/-- The step that does to complements what the step does to triads. The test for implication has no
such step and is left. -/
def Instruction.dual : Instruction → Instruction
  | push t => push t.compl
  | inter => union
  | union => inter
  | i => i

theorem compl_inter (t u : Triad) : (t.inter u).compl = t.compl.union u.compl := by
  apply ext_grants
  simp

theorem compl_union (t u : Triad) : (t.union u).compl = t.compl.inter u.compl := by
  apply ext_grants
  simp

/-- A step and its dual keep what stands on one stack the complement of what stands on the other. -/
theorem Instruction.alike_dual (free : i ≠ .implies) :
    i.Alike (fun t u => t.compl = u) i.dual := by
  cases i with
  | push t => exact .push rfl
  | compl => exact .compl fun same => congrArg Triad.compl same
  | dup => exact .dup
  | reparse => exact .reparse
  | inter =>
      refine .combine .inter .union fun left right => ?_
      rw [compl_inter, left, right]
  | union =>
      refine .combine .union .inter fun left right => ?_
      rw [compl_union, left, right]
  | implies => exact absurd rfl free

/-- Rows that are related by a function are the images of each other. -/
theorem forall₂_image {α β : Type} (f : α → β) :
    Forall₂ (fun a b => f a = b) = fun as bs => as.map f = bs := by
  funext as bs
  rw [← List.forall₂_map_left_iff, List.forall₂_eq_eq_eq]

theorem eq_map_of_rel {α β : Type} {f : α → β} {o : Option α} {o' : Option β}
    (related : Option.Rel (fun a b => f a = b) o o') : o.map f = o' := by
  cases related with
  | none => rfl
  | some same => exact congrArg some same

/-- The dual of a program leads from the complements of the entries through the complements of all
stacks, or both find a stack too short. -/
theorem trace_dual {program : List Instruction} (free : .implies ∉ program) (stack : List Triad) :
    trace (program.map Instruction.dual) (stack.map compl) =
      (trace program stack).map (List.map (List.map compl)) := by
  have steps : Forall₂ (Instruction.Alike fun t u => t.compl = u) program
      (program.map Instruction.dual) := by
    rw [List.forall₂_map_right_iff, List.forall₂_same]
    intro i member
    exact Instruction.alike_dual fun test => free (test ▸ member)
  have entries : Forall₂ (fun t u : Triad => t.compl = u) stack (stack.map compl) := by
    rw [forall₂_image]
  have related := rel_trace steps entries
  simp only [forall₂_image] at related
  exact (eq_map_of_rel related).symm

/-- **Dual programs.** Let a program without implication always find its operands. Then so does the
program that pushes the complements and in which intersection and union are exchanged, and from the
complements of the entries it leads, step by step, through the complements of all entries of all
stacks. -/
theorem dual_programs (program : List Instruction) (free : .implies ∉ program)
    (stack : List Triad) (fits : Fits program stack.length) :
    Fits (program.map Instruction.dual) stack.length ∧
      ∃ states, trace program stack = some states ∧ states.length = program.length ∧
        trace (program.map Instruction.dual) (stack.map compl) =
          some (states.map (List.map compl)) := by
  obtain ⟨states, run⟩ := (exists_trace_iff program stack).mpr fits
  have dual := trace_dual free stack
  rw [run, Option.map_some] at dual
  have fitsDual := (exists_trace_iff _ _).mp ⟨_, dual⟩
  rw [List.length_map] at fitsDual
  exact ⟨fitsDual, states, run, length_trace run, dual⟩

/-- A complement and a second reading take part on both sides, where an intersection on one side
faces a union on the other. -/
theorem dual_programs_inter :
    ∃ states, trace [.push (ofInt 4), .compl, .dup, .reparse, .union, .inter] [ofInt 1] =
        some states ∧ states.getLast? = some [ofInt 1] ∧
      trace [.push (ofInt 4).compl, .compl, .dup, .reparse, .inter, .union] [(ofInt 1).compl] =
        some (states.map (List.map compl)) ∧
      (states.map (List.map compl)).getLast? = some [ofInt 6] := by
  have fits : Fits [.push (ofInt 4), .compl, .dup, .reparse, .union, .inter] 1 :=
    (exists_trace_iff _ [ofInt 1]).mp ⟨_, rfl⟩
  have run : trace [.push (ofInt 4), .compl, .dup, .reparse, .union, .inter] [ofInt 1] =
      some [[ofInt 4, ofInt 1], [ofInt 3, ofInt 1], [ofInt 3, ofInt 3, ofInt 1],
        [ofInt 3, ofInt 3, ofInt 1], [ofInt 3, ofInt 1], [ofInt 1]] := by decide
  obtain ⟨-, states, same, -, dual⟩ := dual_programs _ (by decide) [ofInt 1] fits
  cases run.symm.trans same
  exact ⟨_, run, rfl, dual, rfl⟩

end FileMode.Triad
