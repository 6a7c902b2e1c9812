import FileMode.Document.Scalar.Meaning
import FileMode.Proofs.OctalLiteral

/-!
Digits as the text of a plain scalar.

Of all the forms that plain scalars may have, digits can only have that of an integer, and they have
it unless a zero stands in front of others that are not octal (`isInt_iff_of_digits`). Which base an
integer is read in is decided by the zero as well, so that there are three kinds of digits: those
that are octal by their zero, those that stay a text, and those that are decimal, of which too long
ones have no value. `meaning_of_digits` tells them apart.

Decimal digits denote a greater number than the same digits in base eight
(`reading_lt_decimalReading`).
-/

namespace FileMode

/-- The number that digits denote in base ten. -/
def decimalReading (digits : List Char) : Nat :=
  Nat.ofDigits 10 (digits.reverse.map fun d => d.toNat - '0'.toNat)

def decimalDigits : List Char := ['0', '1', '2', '3', '4', '5', '6', '7', '8', '9']

instance (d : Char) : Decidable (Umask.IsDigit d) := inferInstanceAs (Decidable (_ ∧ _))

theorem Umask.IsDigit.mem {d : Char} (digit : Umask.IsDigit d) : d ∈ decimalDigits := by
  have codes : ∀ n ≤ 57, 48 ≤ n → n ∈ decimalDigits.map Char.toNat := by decide
  exact mem_of_toNat_mem (codes d.toNat digit.2 digit.1)

theorem reading_lt_decimalReading {digits : List Char} (several : 2 ≤ digits.length)
    (octal : ∀ d ∈ digits, IsOctalDigit d) (nonzero : digits.head? ≠ some '0') :
    Umask.reading digits < decimalReading digits := by
  match digits, several with
  | d :: ds, several =>
      have later : ds.length ≠ 0 := by
        rw [List.length_cons] at several
        omega
      have positive : 0 < d.toNat - '0'.toNat := by
        have all : ∀ d ∈ octalDigits, d ≠ '0' → 0 < d.toNat - '0'.toNat := by decide
        exact all d (octal d List.mem_cons_self).mem (by simpa using nonzero)
      have low := Nat.ofDigits_monotone (ds.reverse.map fun d => d.toNat - '0'.toNat)
        (by decide : 8 ≤ 10)
      have high : 8 ^ ds.length * (d.toNat - '0'.toNat) < 10 ^ ds.length * (d.toNat - '0'.toNat) :=
        Nat.mul_lt_mul_of_pos_right (Nat.pow_lt_pow_left (by decide) later) positive
      simp only [Umask.reading, decimalReading, List.reverse_cons, List.map_append, List.map_cons,
        List.map_nil, Nat.ofDigits_append, Nat.ofDigits_singleton, List.length_map,
        List.length_reverse]
      omega

/-! ### The kind of digits -/

namespace Document.Tag

variable {digits : List Char}

theorem unsigned_of_digits (digit : ∀ d ∈ digits, Umask.IsDigit d) : unsigned digits = digits := by
  unfold unsigned
  split
  · exact absurd (digit '+' List.mem_cons_self).mem (by decide)
  · exact absurd (digit '-' List.mem_cons_self).mem (by decide)
  · rfl

theorem dropWhile_isDigitMark (digit : ∀ d ∈ digits, Umask.IsDigit d) :
    digits.dropWhile isDigitMark = [] := by
  refine List.dropWhile_eq_nil_iff.mpr fun c member => ?_
  rw [isDigitMark, (Umask.isDigit_iff c).mpr (digit c member), Bool.true_or]

/-- A floating point number has a point, which is no digit. -/
theorem isFloat_of_digits (digit : ∀ d ∈ digits, Umask.IsDigit d) : isFloat digits = false := by
  simp only [isFloat, unsigned_of_digits digit]
  split
  · rfl
  · exact absurd (digit '.' List.mem_cons_self).mem (by decide)
  · rename_i d ds
    obtain ⟨-, others⟩ := List.forall_mem_cons.mp digit
    simp [dropWhile_isDigitMark others, isSixtieths]

/-- Reading some digits leaves an end of the text. -/
theorem exists_drop_of_digits? {least most n : Nat} {cs rest : List Char}
    (read : Timestamp.digits? least most cs = some (n, rest)) : ∃ k, rest = cs.drop k := by
  simp only [Timestamp.digits?] at read
  split at read
  · cases read
  · obtain ⟨_, -, same⟩ := Option.bind_eq_some_iff.mp read
    cases same
    exact ⟨_, rfl⟩

/-- A point in time has a dash behind its year, which is no digit. -/
theorem isPlain_of_digits (digit : ∀ d ∈ digits, Umask.IsDigit d) :
    Timestamp.isPlain digits = false := by
  have noDash (k : Nat) : Timestamp.char? '-' (digits.drop k) = none := by
    cases same : digits.drop k with
    | nil => rfl
    | cons d ds =>
        have apart : d ≠ '-' := by
          rintro rfl
          have member : '-' ∈ digits := List.mem_of_mem_drop (same ▸ List.mem_cons_self)
          exact absurd (digit '-' member).mem (by decide)
        simp [Timestamp.char?, apart]
  have unread : Timestamp.read? digits = none := by
    unfold Timestamp.read?
    cases read : Timestamp.digits? 4 4 digits with
    | none => rfl
    | some year =>
        obtain ⟨k, rest⟩ := exists_drop_of_digits? read
        simp [rest, noDash]
  rw [Timestamp.isPlain, unread]

/-- Digits have the form of an integer unless a zero stands in front of others that are not
octal. -/
theorem isInt_iff_of_digits (nonempty : digits ≠ []) (digit : ∀ d ∈ digits, Umask.IsDigit d) :
    isInt digits = true ↔ digits.head? ≠ some '0' ∨ ∀ d ∈ digits, IsOctalDigit d := by
  simp only [isInt, unsigned_of_digits digit]
  split
  · exact absurd rfl nonempty
  · exact iff_of_true rfl (.inr (by decide))
  · rename_i ds
    exact absurd (digit 'b' (by simp)).mem (by decide)
  · rename_i ds
    exact absurd (digit 'x' (by simp)).mem (by decide)
  · rename_i ds _ _ _
    obtain ⟨-, others⟩ := List.forall_mem_cons.mp digit
    have mark {d : Char} (digit : Umask.IsDigit d) : d ≠ '_' := by
      rintro rfl
      exact absurd digit.mem (by decide)
    have zero : IsOctalDigit '0' := by decide
    simp only [List.head?_cons, ne_eq, not_true_eq_false, false_or, List.forall_mem_cons, zero,
      true_and, List.all_eq_true, Bool.or_eq_true, Bool.and_eq_true, decide_eq_true_eq]
    exact forall₂_congr fun d member => or_iff_left (mark (others d member))
  · rename_i d ds _ _ _ zero
    obtain ⟨first, others⟩ := List.forall_mem_cons.mp digit
    have nonzero : d ≠ '0' := zero
    simp [dropWhile_isDigitMark others, (Umask.isDigit_iff d).mpr first, nonzero]

/-- Digits are an integer, or a text if they do not have the form of one. -/
theorem ofPlain_of_digits (nonempty : digits ≠ []) (digit : ∀ d ∈ digits, Umask.IsDigit d) :
    ofPlain digits = if isInt digits then .int else .text := by
  have noBreak : dropFinalBreak digits = digits := by
    have last : digits.getLast? ≠ some '\n' := fun same =>
      absurd (digit '\n' (List.mem_of_getLast? same)).mem (by decide)
    rw [dropFinalBreak, if_neg last]
  -- Each of the words holds a character that is no digit.
  have noWord (words : List String)
      (foreign : (words.all fun s => s.toList.any fun c => !decimalDigits.contains c) = true) :
      String.ofList digits ∉ words := by
    intro member
    obtain ⟨c, inside, outside⟩ := List.any_eq_true.mp (List.all_eq_true.mp foreign _ member)
    rw [String.toList_ofList] at inside
    simp [(digit c inside).mem] at outside
  have noTruth := noWord truthWords rfl
  have noNull := noWord nullWords rfl
  have noMark := noWord ["<<", "=", "!", "&", "*"] rfl
  simp only [List.mem_cons, List.not_mem_nil, or_false, not_or] at noMark
  have present : digits.isEmpty = false := by simpa using nonempty
  simp [ofPlain, noBreak, present, noTruth, noNull, noMark, isFloat_of_digits digit,
    isPlain_of_digits digit]

end Document.Tag

/-! ### Digits as literals -/

namespace Literal

variable {digits : List Char}

theorem digitValue?_ten {d : Char} (digit : Umask.IsDigit d) :
    Radix.digitValue? 10 d = some (octalValue d) := by
  have all : ∀ d ∈ decimalDigits, Radix.digitValue? 10 d = some (octalValue d) := by decide
  exact all d digit.mem

theorem digits?_ten (nonempty : digits ≠ []) (digit : ∀ d ∈ digits, Umask.IsDigit d) :
    digits? 10 digits = some (digits.map octalValue) := by
  have solid : '_' ∉ digits := fun member => absurd (digit '_' member).mem (by decide)
  have read : digits? 10 (digits ++ []) = some (digits.map octalValue ++ []) :=
    digits?_append nonempty (fun d member => digitValue?_ten (digit d member)) solid
      (.inl ⟨rfl, rfl⟩)
  simpa using read

theorem ofDigits_ten (digits : List Char) :
    Radix.ofDigits 10 (digits.map octalValue) = decimalReading digits := by
  rw [decimalReading, List.map_reverse, Radix.ofDigits_eq]
  rfl

/-- Octal digits are a literal in base eight. -/
theorem integer_eight (nonempty : digits ≠ []) (octal : ∀ d ∈ digits, IsOctalDigit d) :
    integer 8 digits = .ok (Umask.reading digits) := by
  have bare : [] ∈ OctalLiteral.signs := by decide
  let l := OctalLiteral.ofDigits bare nonempty octal
  have same : l.chars = digits := OctalLiteral.chars_ofDigits _ nonempty octal
  have value : l.value = Umask.reading digits := OctalLiteral.value_ofDigits _ nonempty octal
  rw [← same, l.integer_chars, value, same]

/-- Digits are a literal in base ten, unless there are too many of them. -/
theorem integer_ten (nonempty : digits ≠ []) (digit : ∀ d ∈ digits, Umask.IsDigit d) :
    integer 10 digits =
      if maxDigits < digits.length then .error (.tooLong digits.length)
      else .ok (decimalReading digits) := by
  have folded : digits.map Text.foldAscii = digits := by
    have fixed : ∀ d ∈ decimalDigits, Text.foldAscii d = d := by decide
    rw [List.map_congr_left fun d member => fixed d (digit d member).mem, List.map_id']
  have trimmed : Text.trimBlanks digits = digits := by
    have solid : ∀ d ∈ decimalDigits, d ∉ OctalLiteral.blanks := by decide
    have trimmed : Text.trimBlanks ([] ++ digits ++ []) = digits :=
      trimBlanks_append (by simp) (by simp) nonempty fun d member => solid d (digit d member).mem
    simpa using trimmed
  have bare : splitSign digits = (false, digits) := by
    obtain ⟨d, ds, rfl⟩ := List.exists_cons_of_ne_nil nonempty
    have noSign : ∀ d ∈ decimalDigits, d ≠ '+' ∧ d ≠ '-' := by decide
    have split : splitSign ([] ++ d :: ds) = (false, d :: ds) :=
      splitSign_append (by decide) (noSign d (digit d List.mem_cons_self).mem)
    exact split
  have whole : dropAnnouncement 10 digits = digits := by
    unfold dropAnnouncement
    split <;> rfl
  simp only [integer, folded, trimmed, bare, magnitude, whole, digits?_ten nonempty digit,
    List.length_map, ofDigits_ten, decide_true, Bool.true_and, decide_eq_true_eq]
  split <;> rfl

end Literal

/-! ### The values of digits -/

namespace Document.Scalar

variable {digits : List Char}

/-- A text without the character that parts it is one part. -/
theorem splitAt_of_notMem {c : Char} {cs : List Char} (absent : c ∉ cs) :
    Text.splitAt c cs = [cs] := by
  induction cs with
  | nil => rfl
  | cons d cs ih =>
      simp only [List.mem_cons, not_or] at absent
      have apart : d ≠ c := fun same => absent.1 same.symm
      simp [Text.splitAt, ih absent.2, apart]

/-- Digits have no sign, no underscores and no colons, so that they are read as one literal. -/
theorem integer_of_digits (nonempty : digits ≠ []) (digit : ∀ d ∈ digits, Umask.IsDigit d) :
    integer digits = literal (if digits.head? = some '0' then 8 else 10) digits := by
  have bare : Text.without '_' digits = digits := by
    have noMark : ∀ d ∈ decimalDigits, d ≠ '_' := by decide
    exact List.filter_eq_self.mpr fun d member => by simpa using noMark d (digit d member).mem
  have unsigned : signed (fun n : Int => -n) digits = (id, digits) := by
    unfold signed
    split
    · exact absurd (digit '-' List.mem_cons_self).mem (by decide)
    · exact absurd (digit '+' List.mem_cons_self).mem (by decide)
    · rfl
  have whole : Text.splitAt ':' digits = [digits] :=
    splitAt_of_notMem fun member => absurd (digit ':' member).mem (by decide)
  simp only [integer, bare, unsigned]
  split
  · exact absurd rfl nonempty
  · rfl
  · exact absurd (digit 'b' (by simp)).mem (by decide)
  · exact absurd (digit 'x' (by simp)).mem (by decide)
  · simp
  · rename_i zero
    have nonzero : digits.head? ≠ some '0' := by
      intro first
      obtain ⟨ds, same⟩ := List.head?_eq_some_iff.mp first
      exact zero ds same
    rw [whole, if_neg nonzero]
    cases read : literal 10 digits with
    | ok n => simp [read, bind, Except.bind, pure, Except.pure]
    | error f => simp [read, bind, Except.bind]

/-- **Plain digits.** A zero in front of octal digits makes them a number in base eight, and in
front of others it leaves them a text. Without it they are a number in base ten, if they are not too
many. -/
theorem meaning_of_digits (nonempty : digits ≠ []) (digit : ∀ d ∈ digits, Umask.IsDigit d) :
    meaning (.ofPlain digits) digits =
      if digits.head? = some '0' then
        if ∀ d ∈ digits, IsOctalDigit d then .ok (.int (Umask.reading digits))
        else .ok (.text (String.ofList digits))
      else if Literal.maxDigits < digits.length then .error (.integerSize digits.length)
      else .ok (.int (decimalReading digits)) := by
  rw [Tag.ofPlain_of_digits nonempty digit]
  by_cases zero : digits.head? = some '0'
  · by_cases octal : ∀ d ∈ digits, IsOctalDigit d
    · have int : Tag.isInt digits = true :=
        (Tag.isInt_iff_of_digits nonempty digit).mpr (.inr octal)
      rw [if_pos int, if_pos zero, if_pos octal, meaning, integer_of_digits nonempty digit,
        if_pos zero, literal, Literal.integer_eight nonempty octal]
      rfl
    · have text : Tag.isInt digits = false := by
        rw [← Bool.not_eq_true, Tag.isInt_iff_of_digits nonempty digit]
        simp [zero, octal]
      rw [text, if_pos zero, if_neg octal]
      rfl
  · have int : Tag.isInt digits = true :=
      (Tag.isInt_iff_of_digits nonempty digit).mpr (.inl zero)
    rw [if_pos int, if_neg zero, meaning, integer_of_digits nonempty digit, if_neg zero, literal,
      Literal.integer_ten nonempty digit]
    by_cases long : Literal.maxDigits < digits.length
    · rw [if_pos long, if_pos long]
      rfl
    · rw [if_neg long, if_neg long]
      rfl

end Document.Scalar

end FileMode
