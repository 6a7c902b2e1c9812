import FileMode.Proofs.DigitScalars
import FileMode.Proofs.OctalReaders
import FileMode.Proofs.UmaskCommand

/-!
Modes as they are typed, and as they are shown to be typed again.

A mode is read from one to four octal digits or from nine marks, and the lengths keep the two
languages apart. Any other text is refused with the refusal of a display form, which ends each
command that asks for the mode (`run_show_refuses`, `report_refuses`). A mode shows itself in either
language, by the four digits of its number (`reading_fixed`) and by its marks, and it is read back
from both (`read_octal`, `read_display`).
-/

namespace FileMode

/-! ### Digits of a number -/

theorem Umask.reading_concat (digits : List Char) (d : Char) :
    reading (digits ++ [d]) = 8 * reading digits + (d.toNat - '0'.toNat) := by
  simp only [reading, List.reverse_append, List.reverse_singleton, List.singleton_append,
    List.map_cons, Nat.ofDigits_cons]
  exact Nat.add_comm _ _

namespace Radix

/-- The character of a digit below eight is an octal digit, and the digit is its distance from the
zero. -/
theorem isOctalDigit_digitChar {d : Nat} (small : d < 8) :
    IsOctalDigit (digitChar d) ∧ (digitChar d).toNat - '0'.toNat = d := by
  have each : ∀ e : Fin 8, IsOctalDigit (digitChar e) ∧ (digitChar e).toNat - '0'.toNat = e := by
    decide
  exact each ⟨d, small⟩

theorem isOctalDigit_of_mem_fixed {width n : Nat} {d : Char} (member : d ∈ fixed 8 width n) :
    IsOctalDigit d := by
  induction width generalizing n with
  | zero => cases member
  | succ width ih =>
      rw [fixed, List.mem_append, List.mem_singleton] at member
      rcases member with before | rfl
      · exact ih before
      · exact (isOctalDigit_digitChar (Nat.mod_lt n (by decide))).1

/-- The last octal digits of a number denote its residue. -/
theorem reading_fixed (width n : Nat) : Umask.reading (fixed 8 width n) = n % 8 ^ width := by
  induction width generalizing n with
  | zero => rw [Nat.pow_zero, Nat.mod_one]; rfl
  | succ width ih =>
      have last := (isOctalDigit_digitChar (Nat.mod_lt n (by decide : 0 < 8))).2
      rw [fixed, Umask.reading_concat, ih, last, Nat.pow_succ', Nat.mod_mul, Nat.add_comm]

end Radix

namespace Mode

variable {text : String} {m : Mode} {e : DisplayError}

/-! ### The two languages -/

/-- What is not octal is read as a display form. -/
theorem read_of_not_isOctalText (other : ¬ IsOctalText text.toList) : read text = parse text := by
  cases value : ofOctal? text.toList with
  | none => rw [read, value]
  | some n => exact absurd (ofOctal?_eq_some_iff.mp value).1 other

/-- Nine marks are too long for octal digits. -/
theorem not_isOctalText_of_isDisplay {cs : List Char} (display : IsDisplay 9 cs) :
    ¬ IsOctalText cs := by
  intro octal
  have short := octal.length_le
  have long := display.length_eq
  omega

theorem display_eq_iff : m.display = text ↔ text.toList = m.marks := by
  rw [← String.toList_inj, display, String.toList_ofList, eq_comm]

theorem isDisplay_of_display_eq (shown : m.display = text) : IsDisplay 9 text.toList :=
  isDisplay_iff_marks.mpr ⟨m, display_eq_iff.mp shown⟩

/-- Exactly the texts of the two languages are read, each as the mode that its language says. -/
theorem read_eq_ok_iff : read text = .ok m ↔
    (IsOctalText text.toList ∧ m = ofDigital (Umask.reading text.toList)) ∨ m.display = text := by
  by_cases octal : IsOctalText text.toList
  · have notShown : m.display ≠ text := fun shown =>
      not_isOctalText_of_isDisplay (isDisplay_of_display_eq shown) octal
    rw [read_of_isOctalText octal, Except.ok.injEq, or_iff_left notShown, and_iff_right octal,
      eq_comm]
  · rw [read_of_not_isOctalText octal, parse_eq_ok_iff, display_eq_iff, or_iff_right]
    exact fun accepted => octal accepted.1

/-! ### Shown and typed again -/

theorem isOctalText_octal (m : Mode) : IsOctalText m.octal.toList where
  length_pos := by rw [String.length_toList, m.length_octal]; decide
  length_le := by rw [String.length_toList, m.length_octal]
  digit := by
    rw [m.octal_eq, String.toList_ofList]
    exact fun d member => Radix.isOctalDigit_of_mem_fixed member

theorem reading_octal (m : Mode) : Umask.reading m.octal.toList = m.digital := by
  rw [m.octal_eq, String.toList_ofList, Radix.reading_fixed]
  exact Nat.mod_eq_of_lt (m.digital_lt.trans (by decide))

theorem read_octal (m : Mode) : read m.octal = .ok m := by
  rw [read_of_isOctalText m.isOctalText_octal, m.reading_octal, m.ofDigital_digital]

theorem read_display (m : Mode) : read m.display = .ok m :=
  read_eq_ok_iff.mpr (.inr rfl)

end Mode

/-! ### Refusals on the command line -/

namespace Command

/-- A run that is ended by a mode that is refused: the refusal of the display form is told. -/
structure Report.RefusesMode (r : Report) (e : DisplayError) : Prop extends r.Stops 2 none where
  told : ∃ before, r.err = before ++ ("Error: Invalid value for MODE: " ++ e.message ++ "\n")

theorem unlines_concat (lines : List String) (line : String) :
    unlines (lines ++ [line]) = unlines lines ++ (line ++ "\n") := by
  simp [unlines, String.join_append]

theorem refusesMode_ofFault (n : Option Name) (e : DisplayError) :
    (Report.ofFault n (.invalidOperand "MODE" e.message)).RefusesMode e where
  code_eq := rfl
  out_eq := rfl
  breakdown_eq := rfl
  told := by
    have told : (UsageFault.invalidOperand "MODE" e.message).message =
        "Invalid value for MODE: " ++ e.message := rfl
    have joined : "Error: " ++ "Invalid value for MODE: " = "Error: Invalid value for MODE: " := rfl
    rw [Report.ofFault, told, ← String.append_assoc, joined, unlines_concat]
    exact ⟨_, rfl⟩

/-- Behind two dashes any text is taken for the operand of the show command. -/
theorem run_show (files : FileTree) (text : String) :
    run files ["show", "--", text] =
      match Mode.read text with
      | .ok m => showReport m
      | .error e => .ofFault (some .showMode) (.invalidOperand "MODE" e.message) := by
  have planned : plan ["show", "--", text] =
      match Mode.read text with
      | .ok m => .done (showReport m)
      | .error e => .done (.ofFault (some .showMode) (.invalidOperand "MODE" e.message)) := rfl
  rw [run, planned]
  cases Mode.read text with
  | ok m => rfl
  | error e => rfl

theorem run_show_refuses {text : String} {e : DisplayError} (refused : Mode.read text = .error e)
    (files : FileTree) : (run files ["show", "--", text]).RefusesMode e := by
  rw [run_show, refused]
  exact refusesMode_ofFault _ e

theorem report_refuses {r : UmaskRequest} {text : String} {e : DisplayError}
    (given : r.mode = some text) (refused : Mode.read text = .error e)
    {entry : Option FileEntry} {s : Settings} {notes : List Note}
    (loads : settingsFor entry (Path.parse r.config).text = .ok (s, notes)) (verbose : Bool) :
    (r.report entry verbose).RefusesMode e := by
  have start : r.startMode s = .error (.invalidOperand "MODE" e.message) := by
    simp only [UmaskRequest.startMode, given, refused]
    rfl
  obtain ⟨before, told⟩ := (refusesMode_ofFault (some .umask) e).told
  refine ⟨stops_of_mode loads start verbose, ?_⟩
  simp only [UmaskRequest.report, loads, start, Report.withLog, told, ← String.append_assoc]
  exact ⟨_, rfl⟩

end Command

namespace Mode

/-- **Modes as they are typed.** Exactly the texts of one to four octal digits and the display forms
of nine marks are read, and no text is both. Digits are a literal in base eight, and are read as the
mode of its low nine bits; a display form is read as the mode that it shows. Any other text is
refused as a display form, and the refusal ends a run of the show command, and one of the umask
command that has its settings, with code two. The four digits and the marks of a mode that has been
read are read as that mode again. -/
theorem typed_modes (text : String) :
    ((∃ m, read text = .ok m) ↔ IsOctalText text.toList ∨ IsDisplay 9 text.toList) ∧
    ¬ (IsOctalText text.toList ∧ IsDisplay 9 text.toList) ∧
    (IsOctalText text.toList →
      Literal.integer 8 text.toList = .ok (Umask.reading text.toList) ∧
      ∃ m, read text = .ok m ∧ m.digital = Umask.reading text.toList % 512) ∧
    (IsDisplay 9 text.toList → ∃ m, read text = .ok m ∧ m.display = text) ∧
    (¬ IsOctalText text.toList → ¬ IsDisplay 9 text.toList →
      ∃ e, read text = .error e ∧ parse text = .error e ∧
        (∀ files, (Command.run files ["show", "--", text]).RefusesMode e) ∧
        ∀ (r : Command.UmaskRequest) (entry : Option FileEntry) (s : Settings) (notes : List Note)
          (verbose : Bool), r.mode = some text →
          Command.settingsFor entry (Path.parse r.config).text = .ok (s, notes) →
          (r.report entry verbose).RefusesMode e) ∧
    (∀ m, read text = .ok m → read m.octal = .ok m ∧ read m.display = .ok m) := by
  have shown : IsDisplay 9 text.toList → ∃ m, read text = .ok m ∧ m.display = text := by
    intro valid
    obtain ⟨m, marks⟩ := isDisplay_iff_marks.mp valid
    have same := display_eq_iff.mpr marks
    exact ⟨m, read_eq_ok_iff.mpr (.inr same), same⟩
  refine ⟨⟨?_, ?_⟩, ?_, fun octal => ⟨?_, _, read_of_isOctalText octal, ?_⟩, shown, ?_,
    fun m _ => ⟨m.read_octal, m.read_display⟩⟩
  · rintro ⟨m, accepted⟩
    exact (read_eq_ok_iff.mp accepted).imp And.left isDisplay_of_display_eq
  · rintro (octal | valid)
    · exact ⟨_, read_of_isOctalText octal⟩
    · obtain ⟨m, accepted, -⟩ := shown valid
      exact ⟨m, accepted⟩
  · rintro ⟨octal, valid⟩
    exact not_isOctalText_of_isDisplay valid octal
  · exact Literal.integer_eight octal.ne_nil octal.digit
  · have number := digital_ofDigital (Umask.reading text.toList)
    omega
  · intro other malformed
    cases refused : read text with
    | ok m =>
        rcases read_eq_ok_iff.mp refused with ⟨octal, -⟩ | same
        · exact absurd octal other
        · exact absurd (isDisplay_of_display_eq same) malformed
    | error e =>
        refine ⟨e, rfl, (read_of_not_isOctalText other).symm.trans refused,
          Command.run_show_refuses refused, ?_⟩
        intro r entry s notes verbose given loads
        exact Command.report_refuses given refused loads verbose

/-- Bits beyond the nine are lost on reading, and the digits that are shown lack them; an eight is
no digit, and a dash and a letter in exchanged places are no display form. -/
theorem typed_modes_sticky :
    (∃ m, read "7750" = .ok m ∧ m.digital = 0o750 ∧ m.octal = "0750" ∧ read "0750" = .ok m) ∧
    (∃ m, read "-wx-w---x" = .ok m ∧ m.display = "-wx-w---x") ∧
    (∃ e, read "08" = .error e ∧ ∀ files, (Command.run files ["show", "--", "08"]).RefusesMode e) ∧
    ∃ e, read "-xw------" = .error e ∧
      (Command.UmaskRequest.report ⟨some "-xw------", none, "nowhere"⟩ none true).RefusesMode
        e := by
  obtain ⟨-, -, octal, -, -, again⟩ := typed_modes "7750"
  obtain ⟨-, -, -, shown, -⟩ := typed_modes "-wx-w---x"
  obtain ⟨-, -, -, -, refused, -⟩ := typed_modes "08"
  obtain ⟨-, -, -, -, malformed, -⟩ := typed_modes "-xw------"
  obtain ⟨-, m, read, number⟩ := octal (by decide)
  have digits : m.octal = "0750" := by
    rw [m.octal_eq, number]
    rfl
  obtain ⟨e, eight, -, runs, -⟩ := refused (by decide) (by decide)
  obtain ⟨e', exchanged, -, -, reports⟩ := malformed (by decide) (by decide)
  exact ⟨⟨m, read, number, digits, digits ▸ (again m read).1⟩, shown (by decide),
    ⟨e, eight, runs⟩, e', exchanged, reports _ none _ _ true rfl rfl⟩

end Mode

end FileMode
