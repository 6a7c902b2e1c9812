import FileMode.Argument.Mode
import FileMode.Proofs.Digital
import Mathlib.Algebra.BigOperators.Fin
import Mathlib.Data.Nat.Digits.Defs

/-!
The texts of umasks. `IsText` says which texts are read, without regard to how they are checked, and
`reading` is the number that digits denote in base eight.

A text is read character by character, and its sign is one of its characters: it takes part in the
sum with a negative weight, so that borrows run through all three triads before the low nine bits
are kept. `digital_eq_sum` opens the fold once; `parse_characterization` is the whole account of a
text, accepted or refused, with the wording of the refusal.
-/

namespace FileMode.Umask

open scoped BigOperators

def IsDigit (d : Char) : Prop := '0' ≤ d ∧ d ≤ '9'

/-- A text of one to four characters, all of them ASCII digits but for at most one sign in front of
at least one digit. -/
structure IsText (cs : List Char) : Prop where
  length_pos : 1 ≤ cs.length
  length_le : cs.length ≤ 4
  form : ∃ sign digits, cs = sign ++ digits ∧ sign ∈ [[], ['+'], ['-']] ∧ digits ≠ [] ∧
    ∀ d ∈ digits, IsDigit d

/-- The number that digits denote in base eight. -/
def reading (digits : List Char) : Nat :=
  Nat.ofDigits 8 (digits.reverse.map fun d => d.toNat - '0'.toNat)

/-! ### The language -/

theorem isDigit_iff (d : Char) : d.isDigit = true ↔ IsDigit d := by
  simp only [Char.isDigit, Bool.and_eq_true, decide_eq_true_eq]
  exact Iff.rfl

theorem isDigits_iff (cs : List Char) : isDigits cs = true ↔ cs ≠ [] ∧ ∀ d ∈ cs, IsDigit d := by
  simp [isDigits, isDigit_iff]

/-- No sign is a digit, so that digits alone are never taken for a signed text. -/
theorem isInteger_of_isDigits {cs : List Char} (valid : isDigits cs = true) :
    isInteger cs = true := by
  unfold isInteger
  split
  · exact absurd valid (by simp [isDigits])
  · exact absurd valid (by simp [isDigits])
  · exact valid

theorem isInteger_iff (cs : List Char) :
    isInteger cs = true ↔ ∃ sign digits, cs = sign ++ digits ∧ sign ∈ [[], ['+'], ['-']] ∧
      digits ≠ [] ∧ ∀ d ∈ digits, IsDigit d := by
  constructor
  · intro integer
    unfold isInteger at integer
    split at integer
    · rename_i digits
      exact ⟨['+'], digits, rfl, by simp, (isDigits_iff digits).mp integer⟩
    · rename_i digits
      exact ⟨['-'], digits, rfl, by simp, (isDigits_iff digits).mp integer⟩
    · exact ⟨[], cs, rfl, by simp, (isDigits_iff cs).mp integer⟩
  · rintro ⟨sign, digits, rfl, listed, form⟩
    have valid := (isDigits_iff digits).mpr form
    simp only [List.mem_cons, List.not_mem_nil, or_false] at listed
    rcases listed with rfl | rfl | rfl
    · exact isInteger_of_isDigits valid
    · exact valid
    · exact valid

/-- The check of a text decides the language. -/
theorem isText_iff (cs : List Char) :
    IsText cs ↔ (cs.length ≤ maxLength && isInteger cs) = true := by
  rw [Bool.and_eq_true, decide_eq_true_eq, isInteger_iff]
  constructor
  · exact fun text => ⟨text.length_le, text.form⟩
  · rintro ⟨short, form⟩
    refine ⟨?_, short, form⟩
    obtain ⟨sign, digits, rfl, -, nonempty, -⟩ := form
    rw [List.length_append]
    have := List.length_pos_of_ne_nil nonempty
    omega

instance (cs : List Char) : Decidable (IsText cs) := decidable_of_iff _ (isText_iff cs).symm

theorem ofText?_of_isText {text : String} (valid : IsText text.toList) :
    ofText? text = some (.ofDigital (digital text.toList)) :=
  if_pos ((isText_iff _).mp valid)

theorem ofText?_of_not_isText {text : String} (invalid : ¬ IsText text.toList) :
    ofText? text = none :=
  if_neg fun checked => invalid ((isText_iff _).mpr checked)

/-! ### The number -/

/-- What has been read so far moves up by one octal place for each character that follows. -/
theorem foldl_weight (cs : List Char) (n : Int) :
    cs.foldl (fun n c => n * 8 + weight c) n = n * 8 ^ cs.length + digital cs := by
  induction cs generalizing n with
  | nil => simp [digital]
  | cons c cs ih =>
      have fromZero : digital (c :: cs) = (0 * 8 + weight c) * 8 ^ cs.length + digital cs := ih _
      rw [List.foldl_cons, ih, fromZero, List.length_cons, pow_succ]
      ring

theorem digital_append (xs ys : List Char) :
    digital (xs ++ ys) = digital xs * 8 ^ ys.length + digital ys := by
  unfold digital
  rw [List.foldl_append]
  exact foldl_weight ys _

theorem digital_cons (c : Char) (cs : List Char) :
    digital (c :: cs) = weight c * 8 ^ cs.length + digital cs := by
  have single : digital [c] = weight c := by simp [digital]
  rw [← single]
  exact digital_append [c] cs

/-- Each character counts by its weight at its place. -/
theorem digital_eq_sum (cs : List Char) :
    digital cs = ∑ i : Fin cs.length, weight cs[i] * 8 ^ (cs.length - 1 - i) := by
  induction cs with
  | nil => rfl
  | cons c cs ih =>
      rw [digital_cons, ih]
      refine ((Fin.sum_univ_succ _).trans ?_).symm
      congr 1
      refine Finset.sum_congr rfl fun i _ => ?_
      have place : cs.length - (i + 1 : Nat) = cs.length - 1 - i := by omega
      simp [place]

/-- Digits without a sign are read in base eight, those beyond seven included. -/
theorem digital_of_digits {digits : List Char} (digit : ∀ d ∈ digits, IsDigit d) :
    digital digits = reading digits := by
  induction digits with
  | nil => rfl
  | cons d digits ih =>
      have least : '0'.toNat ≤ d.toNat := (digit d List.mem_cons_self).1
      have rest := ih fun e member => digit e (List.mem_cons_of_mem d member)
      have step : reading (d :: digits) =
          reading digits + 8 ^ digits.length * (d.toNat - '0'.toNat) := by
        unfold reading
        rw [List.reverse_cons, List.map_append, Nat.ofDigits_append]
        simp
      have cast : ((d.toNat - '0'.toNat : Nat) : Int) = weight d := Int.ofNat_sub least
      rw [digital_cons, rest, step, Nat.cast_add, Nat.cast_mul, cast]
      push_cast
      ring

/-- A sign stands in front only: behind the first character there are digits. -/
theorem IsText.digits_of_cons {c : Char} {cs : List Char} (valid : IsText (c :: cs)) :
    ∀ d ∈ cs, IsDigit d := by
  obtain ⟨sign, digits, same, listed, -, digit⟩ := valid.form
  simp only [List.mem_cons, List.not_mem_nil, or_false] at listed
  intro d member
  rcases listed with rfl | rfl | rfl
  · cases same
    exact digit d (List.mem_cons_of_mem c member)
  · cases same
    exact digit d member
  · cases same
    exact digit d member

/-- The first character of a text, be it a sign, counts in front of the reading of the others. -/
theorem digital_of_isText {c : Char} {cs : List Char} (valid : IsText (c :: cs)) :
    digital (c :: cs) = weight c * 8 ^ cs.length + reading cs := by
  rw [digital_cons, digital_of_digits valid.digits_of_cons]

/-! ### Reading a text -/

/-- The refusal of a text quotes the text and the name of its setting as they are. -/
theorem message_umask (text setting : String) :
    (Failure.umask ⟨.text text, .text setting⟩).message =
      "Invalid value " ++ text ++ " for configuration " ++ setting := by
  change Template.invalidSetting.fill [.text text, .text setting] = _
  simp [Template.fill, Template.invalidSetting, Piece.fill, Value.plain, String.join]

theorem parse_of_isText {text : String} (valid : IsText text.toList) (setting : String) :
    parse text setting = .ok (.ofDigital (digital text.toList)) := by
  rw [parse, ofText?_of_isText valid]

theorem parse_of_not_isText {text : String} (invalid : ¬ IsText text.toList) (setting : String) :
    parse text setting = .error ⟨.text text, .text setting⟩ := by
  rw [parse, ofText?_of_not_isText invalid]

/-- Texts among arguments of any kind are read in the same way. -/
theorem parseUmask_text (text setting : String) :
    Argument.parseUmask (.text text) (.text setting) = (parse text setting).mapError .umask := by
  simp only [Argument.parseUmask, parse]
  cases ofText? text with
  | none => rfl
  | some m => rfl

/-- **A umask text, accepted or refused.** Exactly the texts of the language are read. What is read
is the sum of the characters' distances from the digit zero, each at its octal place, modulo 512:
the octal reading of digits alone, from which a plus takes five and a minus three of the place in
front of the digits. Any other text is refused with the text, the setting and both in the
wording. -/
theorem parse_characterization (text setting : String) :
    Argument.parseUmask (.text text) (.text setting) = (parse text setting).mapError .umask ∧
    ((∃ m, parse text setting = .ok m) ↔ IsText text.toList) ∧
    (∀ m, parse text setting = .ok m →
      (m.digital : Int) = (∑ i : Fin text.toList.length,
        ((text.toList[i].toNat : Int) - 48) * 8 ^ (text.toList.length - 1 - i)) % 512 ∧
      ((∀ d ∈ text.toList, IsDigit d) → m.digital = reading text.toList % 512) ∧
      (∀ digits, text.toList = '+' :: digits →
        (m.digital : Int) = (-5 * 8 ^ digits.length + reading digits) % 512) ∧
      (∀ digits, text.toList = '-' :: digits →
        (m.digital : Int) = (-3 * 8 ^ digits.length + reading digits) % 512)) ∧
    (¬ IsText text.toList → ∃ e, parse text setting = .error e ∧
      e.text = .text text ∧ e.setting = .text setting ∧ (Failure.umask e).category = .umask ∧
      (Failure.umask e).message =
        "Invalid value " ++ text ++ " for configuration " ++ setting) := by
  refine ⟨parseUmask_text text setting, ⟨?_, ?_⟩, ?_, ?_⟩
  · rintro ⟨m, read⟩
    by_contra invalid
    rw [parse_of_not_isText invalid] at read
    cases read
  · intro valid
    exact ⟨_, parse_of_isText valid setting⟩
  · intro m read
    by_cases valid : IsText text.toList
    · rw [parse_of_isText valid] at read
      cases read
      have number := Mode.digital_ofDigital (digital text.toList)
      refine ⟨?_, ?_, ?_, ?_⟩
      · rw [number, digital_eq_sum]
        rfl
      · intro digit
        rw [digital_of_digits digit] at number ⊢
        exact_mod_cast number
      · intro digits signed
        rw [number, signed, digital_of_isText (signed ▸ valid)]
        rfl
      · intro digits signed
        rw [number, signed, digital_of_isText (signed ▸ valid)]
        rfl
    · rw [parse_of_not_isText valid] at read
      cases read
  · intro invalid
    exact ⟨_, parse_of_not_isText invalid setting, rfl, rfl, rfl, message_umask text setting⟩

/-- A plus before nine borrows from all three triads, and a digit followed by a line end is no umask
text. -/
theorem parse_plus_nine :
    (∃ m, parse "+9" "mask" = .ok m ∧ (m.digital : Int) = (-5 * 8 ^ 1 + 9) % 512) ∧
      ¬ IsText "9\n".toList ∧ ∃ e, parse "9\n" "\x7b0\x7d" = .error e ∧
        (Failure.umask e).message =
          "Invalid value " ++ "9\n" ++ " for configuration " ++ "\x7b0\x7d" := by
  have refused : ¬ IsText "9\n".toList := by decide
  obtain ⟨-, readable, number, -⟩ := parse_characterization "+9" "mask"
  obtain ⟨-, -, -, refusal⟩ := parse_characterization "9\n" "\x7b0\x7d"
  obtain ⟨m, read⟩ := readable.mpr (by decide)
  obtain ⟨e, error, -, -, -, wording⟩ := refusal refused
  exact ⟨⟨m, read, (number m read).2.2.1 ['9'] rfl⟩, refused, e, error, wording⟩

end FileMode.Umask
