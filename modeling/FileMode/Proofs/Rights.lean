import FileMode.Triad
import Mathlib.Data.Int.Bitwise

/-!
Triads as sets of rights. `grants` is the view through which every operation on triads is read: two
triads with the same rights are equal, and the lattice operations are intersection, union and
complement of rights. A triad made from an integer of either sign has the rights whose bits the
integer has in two's complement.
-/

namespace FileMode

/-! ### Bits of integers -/

/-- An arithmetic shift moves the bits of an integer of either sign. -/
theorem testBit_shiftRight (n : Int) (s i : Nat) : (n >>> s).testBit i = n.testBit (s + i) := by
  cases n with
  | ofNat k => exact Nat.testBit_shiftRight k
  | negSucc k => exact congrArg not (Nat.testBit_shiftRight k)

/-- The low bits of an integer of either sign are the bits of the word made from it. -/
theorem getLsbD_ofInt (width : Nat) (n : Int) (i : Nat) :
    (BitVec.ofInt width n).getLsbD i = (decide (i < width) && n.testBit i) := by
  cases n with
  | ofNat k => exact BitVec.getLsbD_ofNat width k i
  | negSucc k =>
      have bit := BitVec.getLsbD_ofNat width k i
      rw [BitVec.ofInt_negSucc_eq_not_ofNat, BitVec.getLsbD_not, bit]
      cases inside : decide (i < width) with
      | false => rfl
      | true => simp [Int.testBit]

/-- Masking an integer of either sign with `2 ^ width - 1` leaves its residue. -/
theorem land_mask (width : Nat) (n : Int) :
    Int.land n ((2 ^ width - 1 : Nat) : Int) = n % (2 ^ width : Nat) := by
  obtain ⟨k, masked⟩ : ∃ k : Nat, Int.land n ((2 ^ width - 1 : Nat) : Int) = k := by
    cases n with
    | ofNat m => exact ⟨_, rfl⟩
    | negSucc m => exact ⟨_, rfl⟩
  have word : k = (BitVec.ofInt width n).toNat := by
    apply Nat.eq_of_testBit_eq
    intro i
    have bit := Int.testBit_land n ((2 ^ width - 1 : Nat) : Int) i
    rw [masked] at bit
    change k.testBit i = (n.testBit i && (2 ^ width - 1 : Nat).testBit i) at bit
    rw [bit, BitVec.testBit_toNat, getLsbD_ofInt, Nat.testBit_two_pow_sub_one, Bool.and_comm]
  rw [masked, word, BitVec.toNat_ofInt]
  have positive := Nat.two_pow_pos width
  exact Int.toNat_of_nonneg (Int.emod_nonneg n (Int.natCast_ne_zero.mpr positive.ne'))

/-! ### The rights of a triad -/

theorem Right.place_lt (r : Right) : r.place < 3 := by
  cases r <;> decide

/-- Each bit of the word of a triad belongs to a right. -/
theorem Right.exists_place {i : Nat} (inside : i < 3) : ∃ r : Right, r.place = i := by
  match i, inside with
  | 0, _ => exact ⟨.execute, rfl⟩
  | 1, _ => exact ⟨.write, rfl⟩
  | 2, _ => exact ⟨.read, rfl⟩

namespace Triad

/-- A triad is the set of the rights that it grants. -/
theorem ext_grants {t u : Triad} (same : ∀ r, t.grants r = u.grants r) : t = u := by
  obtain ⟨v⟩ := t
  obtain ⟨w⟩ := u
  congr 1
  apply BitVec.eq_of_getLsbD_eq
  intro i inside
  obtain ⟨r, rfl⟩ := Right.exists_place inside
  exact same r

@[simp] theorem grants_ofInt (n : Int) (r : Right) : (ofInt n).grants r = n.testBit r.place := by
  rw [grants, ofInt, getLsbD_ofInt, decide_eq_true r.place_lt, Bool.true_and]

@[simp] theorem grants_inter (t u : Triad) (r : Right) :
    (t.inter u).grants r = (t.grants r && u.grants r) := by
  simp [grants, inter]

@[simp] theorem grants_union (t u : Triad) (r : Right) :
    (t.union u).grants r = (t.grants r || u.grants r) := by
  simp [grants, union]

@[simp] theorem grants_compl (t : Triad) (r : Right) : t.compl.grants r = !t.grants r := by
  simp [grants, compl, r.place_lt]

/-- The value of a triad has the bits of the rights that it grants. -/
theorem testBit_value (t : Triad) (r : Right) : t.value.testBit r.place = t.grants r := rfl

theorem value_lt (t : Triad) : t.value < 2 ^ 3 := t.word.isLt

/-- The value of a triad has no bits beyond those of the rights. -/
theorem testBit_value_of_le (t : Triad) {i : Nat} (high : 3 ≤ i) : t.value.testBit i = false :=
  Nat.testBit_lt_two_pow (lt_of_lt_of_le t.value_lt (Nat.pow_le_pow_right (by decide) high))

end Triad

end FileMode
