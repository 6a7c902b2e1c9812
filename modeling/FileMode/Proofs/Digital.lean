import FileMode.Mode
import FileMode.Proofs.Rights

/-!
The digital form of modes, over all integers.

* `grants_extract` and `testBit_digital` say which bit of a digital form belongs to which right of
  which class, for decoding and for encoding. Every other statement follows from these two views.
* `digital_ofDigital`: what is decoded and encoded again is the residue of the integer, of whatever
  size and sign.
* `ofDigital_homomorphism`: the operations on bits of integers become those on the triads, so that
  masking a mode is masking its number.
-/

namespace FileMode

/-- Each of the low nine bits of a digital form belongs to a right of a class. -/
theorem UserClass.exists_bit {i : Nat} (inside : i < 9) :
    ∃ (c : UserClass) (r : Right), c.shift + r.place = i := by
  have low : i % 3 < 3 := Nat.mod_lt i (by decide)
  obtain ⟨r, place⟩ := Right.exists_place low
  rcases (by omega : i / 3 = 0 ∨ i / 3 = 1 ∨ i / 3 = 2) with third | third | third
  · exact ⟨.other, r, by simp only [UserClass.shift]; omega⟩
  · exact ⟨.group, r, by simp only [UserClass.shift]; omega⟩
  · exact ⟨.owner, r, by simp only [UserClass.shift]; omega⟩

namespace Mode

@[simp] theorem triad_ofTriads (f : UserClass → Triad) (c : UserClass) :
    (ofTriads f).triad c = f c := by
  cases c <;> rfl

/-- A mode is its three triads. -/
theorem ext_triad {m n : Mode} (same : ∀ c, m.triad c = n.triad c) : m = n := by
  obtain ⟨owner, group, other⟩ := m
  have ownerSame : owner = n.owner := same .owner
  have groupSame : group = n.group := same .group
  have otherSame : other = n.other := same .other
  rw [ownerSame, groupSame, otherSame]

@[simp] theorem triad_applyUmask (m umask : Mode) (c : UserClass) :
    (m.applyUmask umask).triad c = (m.triad c).inter (umask.triad c).compl :=
  triad_ofTriads _ c

@[simp] theorem triad_ofDigital (n : Int) (c : UserClass) : (ofDigital n).triad c = extract c n :=
  triad_ofTriads _ c

/-- A decoded class has the rights whose bits the integer has. -/
@[simp] theorem grants_extract (n : Int) (c : UserClass) (r : Right) :
    (extract c n).grants r = n.testBit (c.shift + r.place) := by
  rw [extract, Triad.grants_ofInt, testBit_shiftRight]

/-- The slice of an integer that is decoded for a class always is the number of a triad. -/
theorem ofValue?_slice (n : Int) (c : UserClass) :
    Triad.ofValue? (Int.land (n >>> c.shift) 7) = some (extract c n) := by
  have residue : Int.land (n >>> c.shift) 7 = (n >>> c.shift) % 8 := land_mask 3 _
  have least := Int.emod_nonneg (n >>> c.shift) (by decide : (8 : Int) ≠ 0)
  have most := Int.emod_lt_of_pos (n >>> c.shift) (by decide : (0 : Int) < 8)
  have valid : (0 ≤ Int.land (n >>> c.shift) 7 && Int.land (n >>> c.shift) 7 ≤ 7) = true := by
    rw [residue]
    simp only [Bool.and_eq_true, decide_eq_true_eq]
    omega
  rw [Triad.ofValue?, if_pos valid]
  congr 1
  apply Triad.ext_grants
  intro r
  have seven : Int.testBit 7 r.place = true := by cases r <;> rfl
  rw [extract, Triad.grants_ofInt, Triad.grants_ofInt, Int.testBit_land, seven, Bool.and_true]

/-! ### The number of a mode -/

theorem digital_lt (m : Mode) : m.digital < 2 ^ 9 := by
  have owner := m.owner.value_lt
  have group := m.group.value_lt
  have other := m.other.value_lt
  unfold digital
  refine Nat.or_lt_two_pow (Nat.or_lt_two_pow ?_ ?_) (by omega)
  · rw [Nat.shiftLeft_eq]
    omega
  · rw [Nat.shiftLeft_eq]
    omega

/-- The digital form of a mode has the bits of the rights that its classes have. -/
theorem testBit_digital (m : Mode) (c : UserClass) (r : Right) :
    m.digital.testBit (c.shift + r.place) = (m.triad c).grants r := by
  have inside := r.place_lt
  unfold digital
  rw [Nat.testBit_or, Nat.testBit_or, Nat.testBit_shiftLeft, Nat.testBit_shiftLeft]
  -- A triad that stands higher has no bit here, and one that stands lower ends before.
  cases c with
  | owner =>
      change (decide (6 + r.place ≥ 6) && m.owner.value.testBit (6 + r.place - 6) ||
        decide (6 + r.place ≥ 3) && m.group.value.testBit (6 + r.place - 3) ||
        m.other.value.testBit (6 + r.place)) = m.owner.grants r
      rw [m.group.testBit_value_of_le (by omega), m.other.testBit_value_of_le (by omega),
        Nat.add_sub_cancel_left, Triad.testBit_value]
      simp
  | group =>
      change (decide (3 + r.place ≥ 6) && m.owner.value.testBit (3 + r.place - 6) ||
        decide (3 + r.place ≥ 3) && m.group.value.testBit (3 + r.place - 3) ||
        m.other.value.testBit (3 + r.place)) = m.group.grants r
      have below : ¬ 3 + r.place ≥ 6 := by omega
      rw [m.other.testBit_value_of_le (by omega), Nat.add_sub_cancel_left, Triad.testBit_value,
        decide_eq_false below]
      simp
  | other =>
      change (decide (0 + r.place ≥ 6) && m.owner.value.testBit (0 + r.place - 6) ||
        decide (0 + r.place ≥ 3) && m.group.value.testBit (0 + r.place - 3) ||
        m.other.value.testBit (0 + r.place)) = m.other.grants r
      have belowOwner : ¬ 0 + r.place ≥ 6 := by omega
      have belowGroup : ¬ 0 + r.place ≥ 3 := by omega
      rw [decide_eq_false belowOwner, decide_eq_false belowGroup, Nat.zero_add,
        Triad.testBit_value]
      simp

/-- Decoding reads an integer modulo 512, whatever its size and sign. -/
theorem digital_ofDigital (n : Int) : ((ofDigital n).digital : Int) = n % 512 := by
  have word : (ofDigital n).digital = (BitVec.ofInt 9 n).toNat := by
    apply Nat.eq_of_testBit_eq
    intro i
    rw [BitVec.testBit_toNat, getLsbD_ofInt]
    by_cases inside : i < 9
    · obtain ⟨c, r, rfl⟩ := UserClass.exists_bit inside
      rw [testBit_digital, triad_ofDigital, grants_extract, decide_eq_true inside, Bool.true_and]
    · have high : (ofDigital n).digital < 2 ^ i :=
        lt_of_lt_of_le (digital_lt _) (Nat.pow_le_pow_right (by decide) (by omega))
      rw [Nat.testBit_lt_two_pow high, decide_eq_false inside, Bool.false_and]
  rw [word, BitVec.toNat_ofInt]
  exact Int.toNat_of_nonneg (Int.emod_nonneg n (by decide))

/-- A mode is decoded from its own number. -/
theorem ofDigital_digital (m : Mode) : ofDigital m.digital = m :=
  ext_triad fun c => Triad.ext_grants fun r => by
    rw [triad_ofDigital, grants_extract, ← testBit_digital]
    rfl

/-- Two integers are decoded to one mode exactly if they have one residue. -/
theorem ofDigital_eq_iff {n k : Int} : ofDigital n = ofDigital k ↔ n % 512 = k % 512 := by
  constructor
  · intro same
    rw [← digital_ofDigital, ← digital_ofDigital, same]
  · intro same
    have number : (ofDigital n).digital = (ofDigital k).digital := by
      rw [← Int.natCast_inj, digital_ofDigital, digital_ofDigital, same]
    rw [← (ofDigital n).ofDigital_digital, number, ofDigital_digital]

/-! ### Operations on bits -/

variable (m n : Int)

theorem extract_land (c : UserClass) :
    extract c (Int.land m n) = (extract c m).inter (extract c n) :=
  Triad.ext_grants fun r => by simp [Int.testBit_land]

theorem extract_lor (c : UserClass) :
    extract c (Int.lor m n) = (extract c m).union (extract c n) :=
  Triad.ext_grants fun r => by simp [Int.testBit_lor]

theorem extract_lnot (c : UserClass) : extract c (Int.lnot m) = (extract c m).compl :=
  Triad.ext_grants fun r => by simp [Int.testBit_lnot]

/-- Masking decoded modes is masking the integers that they are decoded from. -/
theorem applyUmask_ofDigital (u : Int) :
    (ofDigital m).applyUmask (ofDigital u) = ofDigital (Int.land m (Int.lnot u)) :=
  ext_triad fun c => by
    rw [triad_applyUmask, triad_ofDigital, triad_ofDigital, triad_ofDigital, extract_land,
      extract_lnot]

/-- Masking a mode clears the bits of the umask in its number. -/
theorem digital_applyUmask (mode umask : Mode) :
    ((mode.applyUmask umask).digital : Int) =
      Int.land mode.digital (Int.lnot umask.digital) := by
  have cleared : Int.land mode.digital (Int.lnot umask.digital) =
      Nat.ldiff mode.digital umask.digital := rfl
  have small : Nat.ldiff mode.digital umask.digital < 2 ^ 9 :=
    Nat.bitwise_lt_two_pow mode.digital_lt umask.digital_lt
  have decoded := applyUmask_ofDigital mode.digital umask.digital
  rw [ofDigital_digital, ofDigital_digital] at decoded
  rw [decoded, digital_ofDigital, cleared]
  omega

/-- **Masking is arithmetic.** Masking a mode is masking its number, since decoding carries
conjunction, disjunction and complement of integers of either sign over to intersection, union and
complement of the triads. -/
theorem ofDigital_homomorphism :
    (((ofDigital m).applyUmask (ofDigital n)).digital : Int) =
        Int.land (Int.land m (Int.lnot n)) 0o777 ∧
      ∀ c, (ofDigital (Int.land m n)).triad c =
          ((ofDigital m).triad c).inter ((ofDigital n).triad c) ∧
        (ofDigital (Int.lor m n)).triad c =
          ((ofDigital m).triad c).union ((ofDigital n).triad c) ∧
        (ofDigital (Int.lnot m)).triad c = ((ofDigital m).triad c).compl := by
  constructor
  · have residue : Int.land (Int.land m (Int.lnot n)) 0o777 = Int.land m (Int.lnot n) % 512 :=
      land_mask 9 _
    rw [applyUmask_ofDigital, digital_ofDigital, residue]
  · intro c
    simp only [triad_ofDigital]
    exact ⟨extract_land m n c, extract_lor m n c, extract_lnot m c⟩

end Mode

end FileMode
