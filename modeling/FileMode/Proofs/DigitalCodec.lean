import FileMode.Proofs.Display
import Mathlib.Data.Int.ModEq
import Mathlib.Tactic.TFAE

/-!
The digital form as a code for modes. Each mode has one number from 0 to 511, and each integer
decodes to the mode whose number is its residue. A mode is also known by its hash and by its display
form, and equality of values has a rule of its own for modes: all of them tell the same modes apart,
and so sort the integers into the classes modulo 512.
-/

namespace FileMode.Mode

variable {m n : Mode}

theorem digital_injective : Function.Injective digital := by
  intro m n same
  rw [← m.ofDigital_digital, same, n.ofDigital_digital]

/-- Hashes are machine words, which the numbers of modes fit into. -/
theorem toNat_hash (m : Mode) : (hash m).toNat = m.digital := by
  have small : m.digital < 2 ^ 64 := m.digital_lt.trans (by decide)
  exact UInt64.toNat_ofNat_of_lt' small

theorem hash_injective : Function.Injective (hash : Mode → UInt64) := by
  intro m n same
  apply digital_injective
  rw [← toNat_hash, ← toNat_hash, same]

/-- A display form is read as one mode only. -/
theorem display_injective : Function.Injective display := by
  intro m n same
  have read (k : Mode) : parse k.display = .ok k := parse_of_marks String.toList_ofList
  exact Except.ok.inj ((read m).symm.trans (same ▸ read n))

theorem same_mode_iff : Value.same (.mode m) (.mode n) = true ↔ m = n := by
  simp [Value.same]

/-- The word of a decoded triad is the slice of the integer that stands for its class. -/
theorem value_extract (c : UserClass) (n : Int) :
    ((extract c n).value : Int) = Int.land (n >>> c.shift) 7 := by
  have residue : Int.land (n >>> c.shift) 7 = (n >>> c.shift) % 8 := land_mask 3 _
  rw [residue, extract, Triad.value, Triad.ofInt, BitVec.toNat_ofInt]
  exact Int.toNat_of_nonneg (Int.emod_nonneg _ (by decide))

/-- **The digital code.** An integer of any size and sign decodes to the mode whose number is its
residue modulo 512. The slice of the integer for a class always is the number of a triad, and the
decoded mode gives the class that triad. Two integers decode to equal modes, to modes of one hash or
to modes of one display form exactly if they are congruent. Every number of a mode is at most 511,
and no two modes share one. -/
theorem digital_codec :
    (∀ n : Int, ((ofDigital n).digital : Int) = n % 512 ∧
      ∀ c : UserClass, Triad.ofValue? (Int.land (n >>> c.shift) 7) = some ((ofDigital n).triad c) ∧
        (((ofDigital n).triad c).value : Int) = Int.land (n >>> c.shift) 7) ∧
    (∀ n k : Int, [ofDigital n = ofDigital k,
      Value.same (.mode (ofDigital n)) (.mode (ofDigital k)) = true,
      hash (ofDigital n) = hash (ofDigital k),
      (ofDigital n).display = (ofDigital k).display,
      n ≡ k [ZMOD 512]].TFAE) ∧
    (∀ m : Mode, m.digital ≤ 0o777) ∧ Function.Injective digital := by
  refine ⟨fun n => ⟨digital_ofDigital n, fun c => ?_⟩, fun n k => ?_, fun m => ?_,
    digital_injective⟩
  · rw [triad_ofDigital]
    exact ⟨ofValue?_slice n c, value_extract c n⟩
  · tfae_have 1 ↔ 2 := same_mode_iff.symm
    tfae_have 1 ↔ 3 := hash_injective.eq_iff.symm
    tfae_have 1 ↔ 4 := display_injective.eq_iff.symm
    tfae_have 1 ↔ 5 := ofDigital_eq_iff
    tfae_finish
  · have small := m.digital_lt
    omega

end FileMode.Mode
