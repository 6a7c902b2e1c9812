import FileMode.Proofs.Display
import FileMode.Triad.Program
import Mathlib.Data.Finset.BooleanAlgebra

/-!
Programs over triads compute with sets of rights.

`rights` reads a triad as the set of the rights that it grants. A second machine runs the same
programs on sets, with complement, intersection, union and the test for a superset
(`Instruction.runSets`); reading the stack of the first machine entry by entry gives the stack of
the second after each step (`run_rights`), and so after all of them (`trace_rights`). A program runs
to its end exactly if the heights that it asks for are there (`exists_trace_iff`), and showing and
reading the top again changes nothing wherever it is done (`trace_insert_reparse`).
-/

namespace FileMode

instance : Fintype Right := ⟨⟨Right.all, by decide⟩, fun r => by cases r <;> decide⟩

namespace Triad

/-- The set of the rights that a triad grants. -/
def rights (t : Triad) : Finset Right := Finset.univ.filter fun r => t.grants r

def showRights (s : Finset Right) : String :=
  String.ofList [if .read ∈ s then 'r' else '-', if .write ∈ s then 'w' else '-',
    if .execute ∈ s then 'x' else '-']

/-! ### Operations as operations on sets -/

@[simp] theorem mem_rights {t : Triad} {r : Right} : r ∈ t.rights ↔ t.grants r = true := by
  simp [rights]

@[simp] theorem rights_inter (t u : Triad) : (t.inter u).rights = t.rights ∩ u.rights := by
  ext r
  simp

@[simp] theorem rights_union (t u : Triad) : (t.union u).rights = t.rights ∪ u.rights := by
  ext r
  simp

@[simp] theorem rights_compl (t : Triad) : t.compl.rights = t.rightsᶜ := by
  ext r
  simp

theorem implies_iff (t u : Triad) : t.implies u = true ↔ u.rights ⊆ t.rights := by
  have word : t.implies u = true ↔ t.inter u = u := by
    rw [implies, beq_iff_eq, inter]
    exact ⟨fun same => congrArg Triad.mk same, fun same => congrArg Triad.word same⟩
  rw [word]
  constructor
  · intro same r held
    rw [mem_rights, ← same, grants_inter, Bool.and_eq_true] at held
    exact mem_rights.mpr held.1
  · intro subset
    refine ext_grants fun r => ?_
    rw [grants_inter]
    cases held : u.grants r with
    | false => exact Bool.and_false _
    | true => rw [mem_rights.mp (subset (mem_rights.mpr held)), Bool.and_true]

theorem rights_ofBool (b : Bool) :
    (ofBool b).rights = if b then Finset.univ else ∅ := by
  ext r
  rw [mem_rights]
  cases b with
  | true => cases r <;> decide
  | false => cases r <;> decide

theorem display_eq (t : Triad) : t.display = showRights t.rights := by
  simp only [showRights, mem_rights]
  rfl

/-! ### Operations as operations on numbers -/

theorem ofInt_value (t : Triad) : ofInt t.value = t := by
  apply ext_grants
  intro r
  rw [grants_ofInt]
  exact t.testBit_value r

theorem ofValue?_value (t : Triad) : ofValue? t.value = some t := by
  have bound := t.value_lt
  have valid : (0 ≤ (t.value : Int) && (t.value : Int) ≤ 7) = true := by
    simp only [Bool.and_eq_true, decide_eq_true_eq]
    omega
  rw [ofValue?, if_pos valid, ofInt_value]

/-- The complement of the number within three bits is the number of the complement. -/
theorem ldiff_value (t : Triad) : Nat.ldiff 7 t.value = t.compl.value := by
  apply Nat.eq_of_testBit_eq
  intro i
  rw [Nat.testBit_ldiff, Nat.testBit_two_pow_sub_one 3]
  by_cases inside : i < 3
  · obtain ⟨r, rfl⟩ := Right.exists_place inside
    rw [testBit_value, testBit_value, grants_compl, decide_eq_true inside, Bool.true_and]
  · rw [decide_eq_false inside, Bool.false_and, testBit_value_of_le _ (not_lt.mp inside)]

/-- Each number that an operation computes from those of triads is the number of a triad, the one
that the operation on words gives. -/
theorem ofValue?_operations (t u : Triad) :
    ofValue? (Int.land t.value u.value) = some (t.inter u) ∧
      ofValue? (Int.lor t.value u.value) = some (t.union u) ∧
      ofValue? (Int.land 7 (Int.lnot t.value)) = some t.compl ∧
      (t.implies u = true ↔ Int.land t.value u.value = u.value) := by
  have inter : Int.land t.value u.value = (t.inter u).value := rfl
  have union : Int.lor t.value u.value = (t.union u).value := rfl
  have compl : Int.land 7 (Int.lnot t.value) = t.compl.value := congrArg Nat.cast t.ldiff_value
  refine ⟨inter ▸ ofValue?_value _, union ▸ ofValue?_value _, compl ▸ ofValue?_value _, ?_⟩
  rw [inter, Int.natCast_inj, implies, beq_iff_eq]
  exact BitVec.toNat_inj.symm

/-! ### The machine on sets -/

namespace Instruction

/-- Runs one step on a stack of sets whose top comes first. Truth is the set of all rights, and a
set implies its subsets. Showing and reading a set again leaves it. -/
def runSets : Instruction → List (Finset Right) → Option (List (Finset Right))
  | push t, stack => some (t.rights :: stack)
  | compl, s :: stack => some (sᶜ :: stack)
  | dup, s :: stack => some (s :: s :: stack)
  | reparse, s :: stack => some (s :: stack)
  | inter, right :: left :: stack => some ((left ∩ right) :: stack)
  | union, right :: left :: stack => some ((left ∪ right) :: stack)
  | implies, right :: left :: stack =>
    some ((if right ⊆ left then Finset.univ else ∅) :: stack)
  | _, _ => none

def operands : Instruction → Nat
  | push _ => 0
  | compl | dup | reparse => 1
  | inter | union | implies => 2

def results : Instruction → Nat
  | dup => 2
  | _ => 1

end Instruction

def traceSets : List Instruction → List (Finset Right) → Option (List (List (Finset Right)))
  | [], _ => some []
  | i :: program, stack => do
    let next ← i.runSets stack
    let later ← traceSets program next
    return next :: later

/-- Whether each step of a program finds its operands, from a stack of some height. -/
def Fits : List Instruction → (height : Nat) → Prop
  | [], _ => True
  | i :: program, height => i.operands ≤ height ∧ Fits program (height - i.operands + i.results)

/-! ### One step -/

/-- Showing and reading the top of a stack leaves the stack. -/
theorem run_reparse {stack : List Triad} (nonempty : stack ≠ []) :
    Instruction.reparse.run stack = some stack := by
  cases stack with
  | nil => exact absurd rfl nonempty
  | cons t stack => simp only [Instruction.run, parse_display]

/-- A step is taken exactly if its operands are there, by both machines alike. It puts its results
in their place, and the sets of the results are those that the machine on sets computes. -/
theorem run_eq (i : Instruction) (stack : List Triad) :
    if i.operands ≤ stack.length then ∃ next, i.run stack = some next ∧
      next.length = stack.length - i.operands + i.results ∧
      i.runSets (stack.map rights) = some (next.map rights)
    else i.run stack = none ∧ i.runSets (stack.map rights) = none := by
  cases i with
  | push t => exact ⟨t :: stack, rfl, rfl, rfl⟩
  | compl =>
      match stack with
      | [] => exact ⟨rfl, rfl⟩
      | t :: stack => exact ⟨t.compl :: stack, rfl, rfl, by simp [Instruction.runSets]⟩
  | dup =>
      match stack with
      | [] => exact ⟨rfl, rfl⟩
      | t :: stack => exact ⟨t :: t :: stack, rfl, rfl, rfl⟩
  | reparse =>
      match stack with
      | [] => exact ⟨rfl, rfl⟩
      | t :: stack => exact ⟨t :: stack, run_reparse (List.cons_ne_nil t stack), rfl, rfl⟩
  | inter =>
      match stack with
      | [] => exact ⟨rfl, rfl⟩
      | [t] => exact ⟨rfl, rfl⟩
      | right :: left :: stack =>
          exact ⟨left.inter right :: stack, rfl, rfl, by simp [Instruction.runSets]⟩
  | union =>
      match stack with
      | [] => exact ⟨rfl, rfl⟩
      | [t] => exact ⟨rfl, rfl⟩
      | right :: left :: stack =>
          exact ⟨left.union right :: stack, rfl, rfl, by simp [Instruction.runSets]⟩
  | implies =>
      match stack with
      | [] => exact ⟨rfl, rfl⟩
      | [t] => exact ⟨rfl, rfl⟩
      | right :: left :: stack =>
          exact ⟨ofBool (left.implies right) :: stack, rfl, rfl,
            by simp [Instruction.runSets, rights_ofBool, implies_iff]⟩

/-- A step on triads is the step on the sets of their rights. -/
theorem run_rights (i : Instruction) (stack : List Triad) :
    (i.run stack).map (List.map rights) = i.runSets (stack.map rights) := by
  have step := run_eq i stack
  split at step
  · obtain ⟨next, run, -, sets⟩ := step
    rw [run, sets, Option.map_some]
  · rw [step.1, step.2, Option.map_none]

/-! ### Whole programs -/

theorem trace_cons (i : Instruction) (program : List Instruction) (stack : List Triad) :
    trace (i :: program) stack =
      (i.run stack).bind fun next => (trace program next).map (next :: ·) := by
  simp only [trace]
  cases i.run stack with
  | none => rfl
  | some next =>
      cases read : trace program next with
      | none => simp [read]
      | some later => simp [read]

/-- The stacks of a program on triads are those of the program on sets, all along the way. -/
theorem trace_rights (program : List Instruction) (stack : List Triad) :
    (trace program stack).map (List.map (List.map rights)) =
      traceSets program (stack.map rights) := by
  induction program generalizing stack with
  | nil => rfl
  | cons i program ih =>
      rw [trace_cons, traceSets, ← run_rights]
      cases i.run stack with
      | none => rfl
      | some next =>
          change ((trace program next).map (next :: ·)).map _ =
            (traceSets program (next.map rights)).bind _
          rw [← ih next]
          cases trace program next with
          | none => rfl
          | some later => rfl

/-- A program runs to its end exactly if each step finds its operands. -/
theorem exists_trace_iff (program : List Instruction) (stack : List Triad) :
    (∃ states, trace program stack = some states) ↔ Fits program stack.length := by
  induction program generalizing stack with
  | nil => exact ⟨fun _ => trivial, fun _ => ⟨[], rfl⟩⟩
  | cons i program ih =>
      have step := run_eq i stack
      rw [trace_cons, Fits]
      by_cases there : i.operands ≤ stack.length
      · rw [if_pos there] at step
        obtain ⟨next, run, height, -⟩ := step
        rw [← height, ← ih next, run, Option.bind_some]
        constructor
        · rintro ⟨states, all⟩
          obtain ⟨later, read, -⟩ := Option.map_eq_some_iff.mp all
          exact ⟨there, later, read⟩
        · rintro ⟨-, later, read⟩
          exact ⟨next :: later, by rw [read]; rfl⟩
      · rw [if_neg there] at step
        rw [step.1]
        constructor
        · rintro ⟨states, all⟩
          cases all
        · rintro ⟨fits, -⟩
          exact absurd fits there

/-- There is one stack for each step. -/
theorem length_trace {program : List Instruction} {stack : List Triad}
    {states : List (List Triad)} (run : trace program stack = some states) :
    states.length = program.length := by
  induction program generalizing stack states with
  | nil =>
      cases run
      rfl
  | cons i program ih =>
      rw [trace_cons] at run
      obtain ⟨next, -, rest⟩ := Option.bind_eq_some_iff.mp run
      obtain ⟨later, read, rfl⟩ := Option.map_eq_some_iff.mp rest
      rw [List.length_cons, List.length_cons, ih read]

/-- A program in two parts: the second goes on where the first ends. -/
theorem trace_append {first : List Instruction} {stack : List Triad} {before : List (List Triad)}
    (run : trace first stack = some before) (last : List Instruction) :
    trace (first ++ last) stack = (trace last (before.getLastD stack)).map (before ++ ·) := by
  induction first generalizing stack before with
  | nil =>
      cases run
      simp
  | cons i first ih =>
      rw [trace_cons] at run
      obtain ⟨next, step, rest⟩ := Option.bind_eq_some_iff.mp run
      obtain ⟨later, read, rfl⟩ := Option.map_eq_some_iff.mp rest
      rw [List.cons_append, trace_cons, step, Option.bind_some, ih read, Option.map_map,
        List.getLastD_cons]
      rfl

/-- Showing and reading the top again somewhere in a program repeats the stack of that moment and
changes no other. -/
theorem trace_insert_reparse {first : List Instruction} {stack : List Triad}
    {before : List (List Triad)} (run : trace first stack = some before)
    (nonempty : before.getLastD stack ≠ []) (last : List Instruction) :
    trace (first ++ .reparse :: last) stack = (trace (first ++ last) stack).map fun states =>
      states.take first.length ++ before.getLastD stack :: states.drop first.length := by
  rw [trace_append run, trace_append run, trace_cons, run_reparse nonempty, Option.bind_some,
    Option.map_map, Option.map_map, ← length_trace run]
  congr 1
  funext later
  simp

/-- **Programs compute the algebra of rights.** From any stack, the stacks of a program on triads
are those of the same program on sets of rights with complement, intersection, union and the test
for a superset. The program runs to its end exactly if it never asks for more entries than there
are, and its operations are those on numbers, where each result is the number of a triad. Every
triad is shown by the marks of its rights; reading the top from what shows it changes no stack,
wherever it is done. -/
theorem program_algebra (program : List Instruction) (stack : List Triad) :
    (trace program stack).map (List.map (List.map rights)) =
      traceSets program (stack.map rights) ∧
    ((∃ states, trace program stack = some states) ↔ Fits program stack.length) ∧
    (∀ states, trace program stack = some states → states.length = program.length ∧
      ∀ entries ∈ states, ∀ t ∈ entries, t.display = showRights t.rights) ∧
    (∀ first last before, program = first ++ last → trace first stack = some before →
      before.getLastD stack ≠ [] →
      trace (first ++ .reparse :: last) stack = (trace program stack).map fun states =>
        states.take first.length ++ before.getLastD stack :: states.drop first.length) ∧
    (∀ t u : Triad, ofValue? (Int.land t.value u.value) = some (t.inter u) ∧
      ofValue? (Int.lor t.value u.value) = some (t.union u) ∧
      ofValue? (Int.land 7 (Int.lnot t.value)) = some t.compl ∧
      (t.implies u = true ↔ Int.land t.value u.value = u.value)) := by
  refine ⟨trace_rights program stack, exists_trace_iff program stack, ?_, ?_, ofValue?_operations⟩
  · intro states run
    exact ⟨length_trace run, fun entries _ t _ => t.display_eq⟩
  · rintro first last before rfl run nonempty
    exact trace_insert_reparse run nonempty last

/-- A complement is read again before it meets a set that it equals. -/
theorem program_algebra_complement :
    trace ([.push (ofInt 4), .compl] ++ .reparse :: [.implies]) [ofInt 3] =
        some [[ofInt 4, ofInt 3], [ofInt 3, ofInt 3], [ofInt 3, ofInt 3], [full]] ∧
      (ofInt 3).display = showRights (ofInt 3).rights := by
  have run : trace [.push (ofInt 4), .compl, .implies] [ofInt 3] =
      some [[ofInt 4, ofInt 3], [ofInt 3, ofInt 3], [full]] := by decide
  obtain ⟨-, -, shown, insert, -⟩ :=
    program_algebra [.push (ofInt 4), .compl, .implies] [ofInt 3]
  have inserted := insert [.push (ofInt 4), .compl] [.implies] _ rfl rfl (by decide)
  rw [run] at inserted
  exact ⟨inserted, (shown _ run).2 [ofInt 3, ofInt 3] (by decide) (ofInt 3) (by decide)⟩

end Triad

end FileMode
