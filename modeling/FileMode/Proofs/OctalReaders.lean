import FileMode.Mode.Reading
import FileMode.Proofs.Display
import FileMode.Proofs.OctalFields

/-!
The three readers of octal texts, compared.

A mode that somebody types is read from up to four octal digits or from a display form, a umask by
adding up the weights of up to four characters, and the default mode of settings as a literal in
base eight. Each reader has its own language. What the first two have in common are the octal digits
alone (`isOctalText_of_read`), and what the last two have in common are octal digits behind at most
one sign (`exists_signed`). The weight of a sign stands at the place in front of the digits, so that
it is lost among the low nine bits exactly if three digits follow (`place_vanishes_iff`).
-/

namespace FileMode

/-- A text of one to four octal digits. -/
structure IsOctalText (cs : List Char) : Prop where
  length_pos : 1 ≤ cs.length
  length_le : cs.length ≤ 4
  digit : ∀ d ∈ cs, IsOctalDigit d

instance (cs : List Char) : Decidable (IsOctalText cs) :=
  decidable_of_iff (1 ≤ cs.length ∧ cs.length ≤ 4 ∧ ∀ d ∈ cs, IsOctalDigit d)
    ⟨fun ⟨least, most, digit⟩ => ⟨least, most, digit⟩,
      fun ⟨least, most, digit⟩ => ⟨least, most, digit⟩⟩

namespace IsOctalText

variable {cs : List Char}

theorem ne_nil (octal : IsOctalText cs) : cs ≠ [] :=
  List.ne_nil_of_length_pos octal.length_pos

theorem isText (octal : IsOctalText cs) : Umask.IsText cs where
  length_pos := octal.length_pos
  length_le := octal.length_le
  form := ⟨[], cs, rfl, by decide, octal.ne_nil, fun d member => (octal.digit d member).isDigit⟩

/-- The reading of octal digits alone is the sum of their weights. -/
theorem digital_eq (octal : IsOctalText cs) : Umask.digital cs = Umask.reading cs :=
  Umask.digital_of_digits fun d member => (octal.digit d member).isDigit

/-- Four octal digits make twelve bits at most. -/
theorem reading_le (octal : IsOctalText cs) : Umask.reading cs ≤ 0o7777 := by
  have below : Umask.reading cs < 8 ^ cs.length := by
    have digits : ∀ d ∈ cs.reverse.map fun d => d.toNat - '0'.toNat, d < 8 := by
      intro n member
      obtain ⟨d, inside, rfl⟩ := List.mem_map.mp member
      have most : d.toNat ≤ '7'.toNat := (octal.digit d (List.mem_reverse.mp inside)).2
      have least : '0'.toNat ≤ d.toNat := (octal.digit d (List.mem_reverse.mp inside)).1
      have zero : '0'.toNat = 48 := rfl
      have seven : '7'.toNat = 55 := rfl
      omega
    have bound := Nat.ofDigits_lt_base_pow_length (by decide) digits
    rwa [List.length_map, List.length_reverse] at bound
  have most : 8 ^ cs.length ≤ 8 ^ 4 := Nat.pow_le_pow_right (by decide) octal.length_le
  omega

end IsOctalText

/-! ### Modes that are typed -/

namespace Mode

theorem mapM_digitValue?_eq_some_iff {cs : List Char} {ds : List Nat} :
    cs.mapM (Radix.digitValue? 8) = some ds ↔
      (∀ d ∈ cs, IsOctalDigit d) ∧ ds = cs.map Literal.octalValue := by
  induction cs generalizing ds with
  | nil => simp [eq_comm]
  | cons c cs ih =>
      rw [List.mapM_cons, List.forall_mem_cons, List.map_cons]
      constructor
      · intro read
        obtain ⟨digit, es, others, rfl⟩ := Literal.digit_cons_eq_some read
        obtain ⟨digits, rfl⟩ := ih.mp others
        exact ⟨⟨digit, digits⟩, rfl⟩
      · rintro ⟨⟨digit, digits⟩, rfl⟩
        rw [Literal.digitValue?_eight.mpr ⟨digit, rfl⟩, ih.mpr ⟨digits, rfl⟩]
        rfl

/-- Exactly the texts of one to four octal digits are read as octal. -/
theorem ofOctal?_eq_some_iff {cs : List Char} {n : Nat} :
    ofOctal? cs = some n ↔ IsOctalText cs ∧ n = Umask.reading cs := by
  have limit : maxDigits = 4 := rfl
  unfold ofOctal?
  split
  · rename_i excluded
    rw [Bool.or_eq_true, decide_eq_true_eq, List.isEmpty_iff, limit] at excluded
    constructor
    · intro read
      cases read
    · rintro ⟨octal, -⟩
      have short := octal.length_le
      rcases excluded with empty | long
      · exact absurd empty octal.ne_nil
      · omega
  · rename_i included
    rw [Bool.or_eq_true, decide_eq_true_eq, List.isEmpty_iff, limit, not_or] at included
    obtain ⟨nonempty, short⟩ := included
    constructor
    · intro read
      obtain ⟨ds, values, rfl⟩ := Option.map_eq_some_iff.mp read
      obtain ⟨digits, rfl⟩ := mapM_digitValue?_eq_some_iff.mp values
      exact ⟨⟨List.length_pos_of_ne_nil nonempty, not_lt.mp short, digits⟩,
        Literal.ofDigits_octalValue cs⟩
    · rintro ⟨octal, rfl⟩
      rw [mapM_digitValue?_eq_some_iff.mpr ⟨octal.digit, rfl⟩, Option.map_some,
        Literal.ofDigits_octalValue]

theorem read_of_isOctalText {text : String} (octal : IsOctalText text.toList) :
    read text = .ok (ofDigital (Umask.reading text.toList)) := by
  rw [read, ofOctal?_eq_some_iff.mpr ⟨octal, rfl⟩]

/-- A mode is read from a text that is too short for a display form only if the text is octal. -/
theorem isOctalText_of_read {text : String} {m : Mode} (accepted : read text = .ok m)
    (short : text.toList.length ≤ 4) : IsOctalText text.toList := by
  cases value : ofOctal? text.toList with
  | some n => exact (ofOctal?_eq_some_iff.mp value).1
  | none =>
      rw [read, value] at accepted
      have refused : parse text = .error ⟨text, 9⟩ := parse_of_length_ne (by omega)
      cases refused.symm.trans accepted

end Mode

/-! ### Umasks and the default mode -/

namespace Umask

theorem isText_of_parse {text setting : String} {u : Mode} (accepted : parse text setting = .ok u) :
    IsText text.toList ∧ u = .ofDigital (digital text.toList) := by
  by_cases valid : IsText text.toList
  · rw [parse_of_isText valid] at accepted
    exact ⟨valid, (Except.ok.inj accepted).symm⟩
  · rw [parse_of_not_isText valid] at accepted
    cases accepted

theorem parse_of_isOctalText {text : String} (octal : IsOctalText text.toList) (setting : String) :
    parse text setting = .ok (.ofDigital (reading text.toList)) := by
  rw [parse_of_isText octal.isText, octal.digital_eq]

theorem IsText.toNat_lt {cs : List Char} (valid : IsText cs) : ∀ c ∈ cs, c.toNat < 128 := by
  obtain ⟨sign, digits, rfl, listed, -, digit⟩ := valid.form
  intro c member
  rcases List.mem_append.mp member with inSign | inDigits
  · exact (by decide : ∀ sign ∈ [[], ['+'], ['-']], ∀ c ∈ sign, c.toNat < 128) sign listed c inSign
  · have most : c.toNat ≤ '9'.toNat := (digit c inDigits).2
    exact most.trans_lt (by decide)

/-- The text of a umask that is that of a literal too has octal digits behind its sign, and it is
the text of the literal of these parts. -/
theorem IsText.exists_signed {l : OctalLiteral} (valid : IsText l.chars) :
    ∃ sign ∈ OctalLiteral.signs, ∃ digits, digits ≠ [] ∧ (∀ d ∈ digits, IsOctalDigit d) ∧
      l.chars = sign ++ digits ∧
      l.value = if sign = ['-'] then -(reading digits : Int) else reading digits := by
  obtain ⟨sign, digits, parts, listed, nonempty, digit⟩ := valid.form
  have signed : sign ∈ OctalLiteral.signs := listed
  have octal : ∀ d ∈ digits, IsOctalDigit d := by
    intro d member
    have inside : d ∈ l.chars := parts ▸ List.mem_append_right sign member
    have decimal : d.isDigit = true := (isDigit_iff d).mpr (digit d member)
    exact (by decide : ∀ c ∈ OctalLiteral.blanks ++ OctalLiteral.alphabet,
      c.isDigit = true → IsOctalDigit c) d (l.mem_chars inside) decimal
  refine ⟨sign, signed, digits, nonempty, octal, parts, ?_⟩
  have same : l.chars = (OctalLiteral.ofDigits signed nonempty octal).chars :=
    parts.trans (OctalLiteral.chars_ofDigits signed nonempty octal).symm
  rw [OctalLiteral.value_eq_of_chars_eq same, OctalLiteral.value_ofDigits]

/-- What stands at an octal place in front of up to three digits, no multiple of eight, is lost
modulo 512 exactly if there are three. -/
theorem place_vanishes_iff {w n : Int} {k : Nat} (indivisible : w % 8 ≠ 0) (low : 1 ≤ k)
    (high : k ≤ 3) : (w * 8 ^ k + n) % 512 = n % 512 ↔ k = 3 := by
  obtain rfl | rfl | rfl : k = 1 ∨ k = 2 ∨ k = 3 := by omega
  · omega
  · omega
  · omega

/-- Octal digits have no sign exactly if neither of the two stands first. -/
theorem sign_eq_nil_iff {sign digits : List Char} (signed : sign ∈ OctalLiteral.signs)
    (octal : ∀ d ∈ digits, IsOctalDigit d) :
    sign = [] ↔ (sign ++ digits).head? ≠ some '+' ∧ (sign ++ digits).head? ≠ some '-' := by
  simp only [OctalLiteral.signs, List.mem_cons, List.not_mem_nil, or_false] at signed
  rcases signed with rfl | rfl | rfl
  · have unsigned : ∀ d ∈ octalDigits, d ≠ '+' ∧ d ≠ '-' := by decide
    refine iff_of_true rfl ⟨fun first => ?_, fun first => ?_⟩
    · exact (unsigned _ (octal _ (List.mem_of_mem_head? first)).mem).1 rfl
    · exact (unsigned _ (octal _ (List.mem_of_mem_head? first)).mem).2 rfl
  · simp
  · simp

/-- The sum of the weights of signed digits is the reading of the digits, modulo 512, exactly if
there is no sign or four characters. -/
theorem ofDigital_digital_eq_iff {sign digits : List Char} (signed : sign ∈ OctalLiteral.signs)
    (nonempty : digits ≠ []) (octal : ∀ d ∈ digits, IsOctalDigit d)
    (short : (sign ++ digits).length ≤ 4) :
    Mode.ofDigital (digital (sign ++ digits)) = Mode.ofDigital (reading digits) ↔
      sign = [] ∨ (sign ++ digits).length = 4 := by
  have sum : digital (sign ++ digits) = digital sign * 8 ^ digits.length + reading digits := by
    rw [digital_append, digital_of_digits fun d member => (octal d member).isDigit]
  have positive := List.length_pos_of_ne_nil nonempty
  rw [sum, Mode.ofDigital_eq_iff]
  rw [List.length_append] at short ⊢
  simp only [OctalLiteral.signs, List.mem_cons, List.not_mem_nil, or_false] at signed
  rcases signed with rfl | rfl | rfl
  · simp [digital]
  · rw [List.length_singleton] at short ⊢
    refine (place_vanishes_iff (by decide) positive (by omega)).trans ?_
    simp
    omega
  · rw [List.length_singleton] at short ⊢
    refine (place_vanishes_iff (by decide) positive (by omega)).trans ?_
    simp
    omega

end Umask

/-! ### All three -/

namespace Settings.OctalField

/-- Up to four octal digits are taken for their reading as the default mode, with a plus or without
one. -/
theorem accepted_of_isOctalText {text : String} {sign digits : List Char}
    (signed : sign ∈ OctalLiteral.signs) (positive : sign ≠ ['-']) (octal : IsOctalText digits)
    (parts : text.toList = sign ++ digits) : mode.Accepted text (Umask.reading digits) := by
  let l := OctalLiteral.ofDigits signed octal.ne_nil octal.digit
  have same : text.toList = l.chars := parts.trans (OctalLiteral.chars_ofDigits _ _ _).symm
  have value : l.value = Umask.reading digits := by
    rw [OctalLiteral.value_ofDigits, if_neg positive]
  have most := octal.reading_le
  have limit : mode.limit = 0o7777 := rfl
  exact (accepted_iff fun c member => l.toNat_lt (same ▸ member)).mpr
    ⟨l, same, value, by omega, by omega⟩

end Settings.OctalField

open Settings (OctalField)

/-- **Three readers of octal texts.** Where a text is read as a mode and as a umask, the two are the
same. Where it is read as a umask and taken for a number as the default mode, the two are the same
exactly if the text has no sign or four characters. All three take a text of one to four octal
digits for the low nine bits of its reading. -/
theorem octal_readers (text setting : String) :
    (∀ m u, Mode.read text = .ok m → Umask.parse text setting = .ok u → m = u) ∧
    (∀ u n, Umask.parse text setting = .ok u → OctalField.mode.Accepted text n →
      (Argument.make .default [.int n] = .ok u ↔
        (text.toList.head? ≠ some '+' ∧ text.toList.head? ≠ some '-') ∨
          text.toList.length = 4)) ∧
    (IsOctalText text.toList → ∃ m : Mode, Mode.read text = .ok m ∧
      Umask.parse text setting = .ok m ∧
      OctalField.mode.Accepted text (Umask.reading text.toList) ∧
      Argument.make .default [.int (Umask.reading text.toList)] = .ok m ∧
      m.digital = Umask.reading text.toList % 512) := by
  refine ⟨?_, ?_, ?_⟩
  · intro m u typed parsed
    have octal := Mode.isOctalText_of_read typed (Umask.isText_of_parse parsed).1.length_le
    rw [Mode.read_of_isOctalText octal] at typed
    rw [Umask.parse_of_isOctalText octal] at parsed
    exact (Except.ok.inj typed).symm.trans (Except.ok.inj parsed)
  · intro u n parsed accepted
    obtain ⟨valid, rfl⟩ := Umask.isText_of_parse parsed
    obtain ⟨l, same, rfl, positive, -⟩ := (OctalField.accepted_iff valid.toNat_lt).mp accepted
    obtain ⟨sign, signed, digits, nonempty, octal, parts, value⟩ :=
      Umask.IsText.exists_signed (same ▸ valid)
    -- A minus is accepted in front of zeros only.
    have number : l.value = Umask.reading digits := by
      split at value
      · omega
      · exact value
    have made : Argument.make .default [.int l.value] = .ok (.ofDigital l.value) := rfl
    have short := valid.length_le
    rw [same, parts] at short ⊢
    rw [made, Except.ok.injEq, number, eq_comm,
      Umask.ofDigital_digital_eq_iff signed nonempty octal short,
      Umask.sign_eq_nil_iff signed octal]
  · intro octal
    have unsigned : ([] : List Char) ∈ OctalLiteral.signs := by decide
    refine ⟨.ofDigital (Umask.reading text.toList), Mode.read_of_isOctalText octal,
      Umask.parse_of_isOctalText octal setting,
      OctalField.accepted_of_isOctalText unsigned (by decide) octal rfl, rfl, ?_⟩
    have number := Mode.digital_ofDigital (Umask.reading text.toList)
    omega

/-- A plus is lost in front of three digits, and changes the umask in front of two. -/
theorem octal_readers_plus :
    (∃ m u, Mode.read "0755" = .ok m ∧ Umask.parse "0755" Umask.key = .ok u ∧ m = u ∧
      m.digital = 0o755) ∧
    (∃ u, Umask.parse "+755" Umask.key = .ok u ∧ OctalField.mode.Accepted "+755" 0o755 ∧
      Argument.make .default [.int 0o755] = .ok u) ∧
    ∃ u, Umask.parse "+75" Umask.key = .ok u ∧ OctalField.mode.Accepted "+75" 0o75 ∧
      Argument.make .default [.int 0o75] ≠ .ok u := by
  obtain ⟨same, -, digits⟩ := octal_readers "0755" Umask.key
  obtain ⟨-, long, -⟩ := octal_readers "+755" Umask.key
  obtain ⟨-, short, -⟩ := octal_readers "+75" Umask.key
  obtain ⟨m, typed, parsed, -, -, number⟩ := digits ⟨by decide, by decide, by decide⟩
  have plus : ['+'] ∈ OctalLiteral.signs := by decide
  have longAccepted : OctalField.mode.Accepted "+755" 0o755 :=
    OctalField.accepted_of_isOctalText plus (by decide)
      ⟨by decide, by decide, by decide⟩ (by decide : "+755".toList = ['+'] ++ ['7', '5', '5'])
  have shortAccepted : OctalField.mode.Accepted "+75" 0o75 :=
    OctalField.accepted_of_isOctalText plus (by decide)
      ⟨by decide, by decide, by decide⟩ (by decide : "+75".toList = ['+'] ++ ['7', '5'])
  have longParsed := Umask.parse_of_isText (by decide : Umask.IsText "+755".toList) Umask.key
  have shortParsed := Umask.parse_of_isText (by decide : Umask.IsText "+75".toList) Umask.key
  refine ⟨⟨m, m, typed, parsed, same m m typed parsed, number⟩,
    ⟨_, longParsed, longAccepted, (long _ _ longParsed longAccepted).mpr (.inr (by decide))⟩,
    _, shortParsed, shortAccepted, fun made => ?_⟩
  exact absurd ((short _ _ shortParsed shortAccepted).mp made) (by decide)

end FileMode
