import FileMode.Proofs.RightsPrograms
import FileMode.Proofs.UmaskInForce

/-!
Chains of maskings: a mode that is masked again and again, with umasks that are given or that a
source has in force.

A umask acts through the set of its rights alone, so that masking with one umask after another is
masking with their union (`applyUmask_applyUmask`), and a whole chain is one masking with the union
of all its umasks (`foldl_applyUmask`). A union does not tell the order of its members nor how often
each occurs. A step of a chain looks for its umask without regard to the mode that it masks
(`Masking.apply_eq`), so that the same steps find the same umasks wherever they stand
(`chain_eq_ok_iff`).
-/

namespace FileMode

/-! ### Unions of modes -/

namespace Triad

theorem implies_iff_grants {t u : Triad} :
    t.implies u = true ↔ ∀ r, u.grants r = true → t.grants r = true := by
  rw [implies_iff]
  constructor
  · intro contained r granted
    exact mem_rights.mp (contained (mem_rights.mpr granted))
  · intro each r member
    exact mem_rights.mpr (each r (mem_rights.mp member))

end Triad

namespace Mode

def union (m n : Mode) : Mode := ofTriads fun c => (m.triad c).union (n.triad c)

def unionAll (ms : List Mode) : Mode := ms.foldr union noAccess

/-- Whether each class has in `m` every right that it has in `n`. -/
def Covers (m n : Mode) : Prop := ∀ c, (m.triad c).implies (n.triad c) = true

variable {m n k u v : Mode} {c : UserClass} {r : Right} {us vs : List Mode}

@[simp] theorem triad_union (m n : Mode) (c : UserClass) :
    (m.union n).triad c = (m.triad c).union (n.triad c) :=
  triad_ofTriads _ c

@[simp] theorem grants_noAccess (c : UserClass) (r : Right) :
    (noAccess.triad c).grants r = false := by
  cases c <;> exact BitVec.getLsbD_zero

/-- Two modes with the same rights for each class are equal. -/
theorem ext_grants (same : ∀ c r, (m.triad c).grants r = (n.triad c).grants r) : m = n :=
  ext_triad fun c => Triad.ext_grants (same c)

/-- The union of several modes has the rights that any of them has. -/
theorem grants_unionAll :
    ((unionAll us).triad c).grants r = true ↔ ∃ u ∈ us, (u.triad c).grants r = true := by
  induction us with
  | nil => simp [unionAll]
  | cons u us ih =>
      have first : unionAll (u :: us) = u.union (unionAll us) := rfl
      rw [first, triad_union, Triad.grants_union, Bool.or_eq_true, ih]
      simp

/-- Neither the order of modes nor how often each occurs matters to their union. -/
theorem unionAll_congr (same : ∀ u, u ∈ us ↔ u ∈ vs) : unionAll us = unionAll vs := by
  apply ext_grants
  intro c r
  rw [Bool.eq_iff_iff, grants_unionAll, grants_unionAll]
  simp only [same]

theorem digital_union (m n : Mode) : (m.union n).digital = m.digital ||| n.digital := by
  apply Nat.eq_of_testBit_eq
  intro i
  rw [Nat.testBit_or]
  by_cases inside : i < 9
  · obtain ⟨c, r, rfl⟩ := UserClass.exists_bit inside
    rw [testBit_digital, testBit_digital, testBit_digital, triad_union, Triad.grants_union]
  · have high (k : Mode) : k.digital.testBit i = false :=
      Nat.testBit_lt_two_pow (lt_of_lt_of_le k.digital_lt (Nat.pow_le_pow_right (by decide)
        (not_lt.mp inside)))
    rw [high, high, high, Bool.or_false]

theorem digital_unionAll (us : List Mode) :
    (unionAll us).digital = (us.map digital).foldr (· ||| ·) 0 := by
  induction us with
  | nil => rfl
  | cons u us ih =>
      rw [List.map_cons, List.foldr_cons, ← ih]
      exact digital_union u (unionAll us)

/-! ### Masking again and again -/

theorem grants_applyUmask (m u : Mode) (c : UserClass) (r : Right) :
    ((m.applyUmask u).triad c).grants r = ((m.triad c).grants r && !(u.triad c).grants r) := by
  rw [triad_applyUmask, Triad.grants_inter, Triad.grants_compl]

theorem applyUmask_noAccess (m : Mode) : m.applyUmask noAccess = m := by
  apply ext_grants
  intro c r
  rw [grants_applyUmask, grants_noAccess, Bool.not_false, Bool.and_true]

/-- Masking with one umask and then with another is masking with both at once. -/
theorem applyUmask_applyUmask (m u v : Mode) :
    (m.applyUmask u).applyUmask v = m.applyUmask (u.union v) := by
  apply ext_grants
  intro c r
  simp only [grants_applyUmask, triad_union, Triad.grants_union, Bool.not_or, Bool.and_assoc]

/-- A chain of umasks is the union of them. -/
theorem foldl_applyUmask (m : Mode) (us : List Mode) :
    us.foldl applyUmask m = m.applyUmask (unionAll us) := by
  induction us generalizing m with
  | nil => exact m.applyUmask_noAccess.symm
  | cons u us ih =>
      rw [List.foldl_cons, ih, applyUmask_applyUmask]
      rfl

theorem covers_refl (m : Mode) : m.Covers m :=
  fun _ => Triad.implies_iff_grants.mpr fun _ granted => granted

theorem Covers.trans (first : m.Covers n) (second : n.Covers k) : m.Covers k := by
  intro c
  refine Triad.implies_iff_grants.mpr fun r granted => ?_
  exact Triad.implies_iff_grants.mp (first c) r (Triad.implies_iff_grants.mp (second c) r granted)

/-- Masking only takes rights away. -/
theorem covers_applyUmask (m u : Mode) : m.Covers (m.applyUmask u) := by
  intro c
  refine Triad.implies_iff_grants.mpr fun r granted => ?_
  rw [grants_applyUmask, Bool.and_eq_true] at granted
  exact granted.1

/-- What a chain of umasks starts with covers every mode that it leads to. -/
theorem covers_of_mem_scanl (member : k ∈ us.scanl applyUmask m) : m.Covers k := by
  induction us generalizing m with
  | nil =>
      rw [List.scanl_nil, List.mem_singleton] at member
      rw [member]
      exact m.covers_refl
  | cons u us ih =>
      rw [List.scanl_cons, List.mem_cons] at member
      rcases member with rfl | behind
      · exact k.covers_refl
      · exact (m.covers_applyUmask u).trans (ih behind)

/-- Of the modes that a chain of umasks leads through, each covers those behind it. -/
theorem pairwise_scanl (m : Mode) (us : List Mode) : (us.scanl applyUmask m).Pairwise Covers := by
  induction us generalizing m with
  | nil => exact List.pairwise_singleton _ _
  | cons u us ih =>
      rw [List.scanl_cons]
      refine List.Pairwise.cons ?_ (ih (m.applyUmask u))
      intro k member
      exact (m.covers_applyUmask u).trans (covers_of_mem_scanl member)

end Mode

/-! ### Steps and chains -/

/-- A step that masks a mode: with a umask that is given, or with the one that a source has in
force. -/
inductive Masking where
  | given (umask : Value)
  | inForce (source : Option (String → Value)) (default : Value)

namespace Masking

def apply (m : Mode) : Masking → Except Failure Mode
  | given umask => Argument.applyUmask m umask
  | inForce source default => (Argument.applyUmaskInForce m source default).map Prod.fst

def umask : Masking → Except Failure Mode
  | given umask => Argument.mode umask
  | inForce source default =>
    (Argument.umaskInForce (Argument.umaskAnswer source) default).map Prod.fst

/-- Which umask a step uses does not depend on the mode that it masks. -/
theorem apply_eq (s : Masking) (m : Mode) : s.apply m = s.umask.map m.applyUmask := by
  cases s with
  | given umask => rfl
  | inForce source default =>
      simp only [apply, umask, Argument.applyUmaskInForce]
      cases Argument.umaskInForce (Argument.umaskAnswer source) default with
      | ok r => rfl
      | error f => rfl

/-- The umasks that steps use, apart from the steps that find none. -/
def umasks (steps : List Masking) : List Mode := steps.filterMap fun s => s.umask.toOption

theorem mem_umasks {steps : List Masking} {u : Mode} :
    u ∈ umasks steps ↔ ∃ s ∈ steps, s.umask = .ok u := by
  have found (s : Masking) : s.umask.toOption = some u ↔ s.umask = .ok u := by
    cases s.umask with
    | ok v => simp [Except.toOption]
    | error f => simp [Except.toOption]
  simp only [umasks, List.mem_filterMap, found]

end Masking

namespace Mode

open Masking (umasks)

/-- The modes that a chain of steps leads through, from the one that it starts with to the last, if
all steps succeed. -/
def chain (m : Mode) (steps : List Masking) : Except Failure (List Mode) :=
  steps.scanlM (fun m s => s.apply m) m

variable {m : Mode} {steps : List Masking} {modes : List Mode}

theorem chain_cons_of_ok {s : Masking} {u : Mode} (found : s.umask = .ok u)
    (steps : List Masking) :
    m.chain (s :: steps) = ((m.applyUmask u).chain steps).map (m :: ·) := by
  rw [chain, List.scanlM_cons, Masking.apply_eq, found]
  rfl

theorem chain_cons_of_error {s : Masking} {f : Failure} (failed : s.umask = .error f)
    (steps : List Masking) : m.chain (s :: steps) = .error f := by
  rw [chain, List.scanlM_cons, Masking.apply_eq, failed]
  rfl

/-- A chain succeeds if each of its steps finds a umask, and then it masks with these umasks one
after the other. -/
theorem chain_eq_ok_iff : m.chain steps = .ok modes ↔
    (∀ s ∈ steps, ∃ u, s.umask = .ok u) ∧ modes = (umasks steps).scanl applyUmask m := by
  induction steps generalizing m modes with
  | nil => simp [chain, umasks, pure, Except.pure, eq_comm]
  | cons s steps ih =>
      rw [List.forall_mem_cons]
      cases found : s.umask with
      | error f =>
          rw [chain_cons_of_error found]
          simp
      | ok u =>
          have first : umasks (s :: steps) = u :: umasks steps := by
            simp [umasks, found, Except.toOption]
          rw [chain_cons_of_ok found, first, List.scanl_cons]
          constructor
          · intro ran
            cases rest : (m.applyUmask u).chain steps with
            | error f =>
                rw [rest] at ran
                cases ran
            | ok later =>
                rw [rest] at ran
                cases ran
                obtain ⟨others, rfl⟩ := ih.mp rest
                exact ⟨⟨⟨u, rfl⟩, others⟩, rfl⟩
          · rintro ⟨⟨-, others⟩, rfl⟩
            rw [ih.mpr ⟨others, rfl⟩]
            rfl

/-- A chain ends with its first mode masked with the union of the umasks. -/
theorem getLastD_of_chain (ran : m.chain steps = .ok modes) :
    modes.getLastD m = m.applyUmask (unionAll (umasks steps)) := by
  obtain ⟨-, rfl⟩ := chain_eq_ok_iff.mp ran
  rw [List.getLastD_eq_getLast?, List.getLast?_scanl, Option.getD_some, foldl_applyUmask]

/-- The same steps find the same umasks, in any order and with any repetitions. -/
theorem unionAll_umasks_congr {steps' : List Masking} (same : ∀ s, s ∈ steps' ↔ s ∈ steps) :
    unionAll (umasks steps') = unionAll (umasks steps) := by
  apply unionAll_congr
  intro u
  simp only [Masking.mem_umasks, same]

/-- **Chains of maskings.** A chain of steps that succeed clears the bits of all umasks used in the
number of its first mode. The same steps in any other order and with any repetitions succeed too and
end with the same mode, and so does one masking with the union of the umasks. On the way each class
keeps covering what it has later, and at the end it has no right of a umask that was used. -/
theorem masking_chains (ran : m.chain steps = .ok modes) :
    ((modes.getLastD m).digital : Int) =
      Int.land m.digital (Int.lnot (((umasks steps).map digital).foldr (· ||| ·) 0 : Nat)) ∧
    (∀ steps', (∀ s, s ∈ steps' ↔ s ∈ steps) →
      ∃ modes', m.chain steps' = .ok modes' ∧ modes'.getLastD m = modes.getLastD m) ∧
    m.applyUmask (unionAll (umasks steps)) = modes.getLastD m ∧
    modes.Pairwise (fun earlier later => ∀ c, (earlier.triad c).implies (later.triad c) = true) ∧
    ∀ s ∈ steps, ∃ u ∈ umasks steps, s.umask = .ok u ∧
      ∀ c r, (u.triad c).grants r = true → ((modes.getLastD m).triad c).grants r = false := by
  have last := getLastD_of_chain ran
  obtain ⟨found, passed⟩ := chain_eq_ok_iff.mp ran
  refine ⟨?_, ?_, last.symm, ?_, ?_⟩
  · rw [last, digital_applyUmask, digital_unionAll]
  · intro steps' same
    have ran' : m.chain steps' = .ok ((umasks steps').scanl applyUmask m) :=
      chain_eq_ok_iff.mpr ⟨fun s member => found s ((same s).mp member), rfl⟩
    exact ⟨_, ran', by rw [getLastD_of_chain ran', unionAll_umasks_congr same, last]⟩
  · rw [passed]
    exact pairwise_scanl m (umasks steps)
  · intro s member
    obtain ⟨u, used⟩ := found s member
    have counted := Masking.mem_umasks.mpr ⟨s, member, used⟩
    refine ⟨u, counted, used, fun c r granted => ?_⟩
    rw [last, grants_applyUmask, grants_unionAll.mpr ⟨u, counted, granted⟩, Bool.not_true,
      Bool.and_false]

/-- A step of each kind: a umask that is given, a default without a source, and a source with a
signed text. -/
def mixedSteps : List Masking :=
  [.given (.mode (ofDigital 0o022)), .inForce none (.int 0o027),
    .inForce (some fun _ => .text "+9") (.int 0)]

/-- The three umasks leave one right of all, from either end of the chain. -/
theorem masking_chains_mixed :
    ∃ modes, fullAccess.chain mixedSteps = .ok modes ∧
      modes.getLastD fullAccess = ofDigital 0o010 ∧
      ((modes.getLastD fullAccess).digital : Int) = Int.land 0o777 (Int.lnot 0o767) ∧
      ∃ modes', fullAccess.chain (mixedSteps.reverse ++ mixedSteps) = .ok modes' ∧
        modes'.getLastD fullAccess = modes.getLastD fullAccess := by
  have ran : fullAccess.chain mixedSteps =
      .ok [fullAccess, ofDigital 0o755, ofDigital 0o750, ofDigital 0o010] := by rfl
  have used : umasks mixedSteps = [ofDigital 0o022, ofDigital 0o027, ofDigital 0o741] := by rfl
  obtain ⟨number, same, -⟩ := masking_chains ran
  rw [used] at number
  refine ⟨_, ran, rfl, number, same _ fun s => ?_⟩
  rw [List.mem_append, List.mem_reverse, or_self]

end Mode

/-! ### Chains in sessions -/

/-- A configuration has the umask in force that it has as a source. -/
theorem Configuration.umask_eq_umaskInForce (c : Option Configuration) (default : Value) :
    Configuration.umask c default =
      Argument.umaskInForce (Argument.umaskAnswer (c.map Configuration.get)) default := by
  cases c with
  | none => rfl
  | some c => rfl

namespace Store

variable {files : FileTree} {st : Store} {m : Mode}

/-- Masking a stored mode with the umask in force is a step with the configuration as its source. -/
theorem seen_applyConfigured_eq_apply {name mode : String} {c : Configuration}
    (found : st.configurations.get? name = some c) (there : st.modes.get? mode = some m)
    (target : String) (v : Value) :
    (st.seen files (.applyConfigured target mode (some name) (.given v)) target).map Prod.fst =
      (Masking.inForce (some c.get) v).apply m := by
  rw [seen_applyConfigured found there, Configuration.umask_eq_umaskInForce, Masking.apply_eq,
    Masking.umask, Option.map_some]
  cases Argument.umaskInForce (Argument.umaskAnswer (some c.get)) v with
  | ok r => rfl
  | error f => rfl

end Store

end FileMode
