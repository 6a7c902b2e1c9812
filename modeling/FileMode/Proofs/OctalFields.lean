import FileMode.Proofs.OctalLiteral
import FileMode.Proofs.ValidatedSettings

/-!
The fields of settings that may be given as octal texts.

`Accepted` and `Refused` say what validation makes of a text for a field, both of data that gives
nothing else and of any data that gives the field this text. Which of them holds is decided by the
bounded integer that the text is converted to (`accepted_iff_toBounded`, `refused_of_toBounded`),
and a text of ASCII characters is converted to the number of its literal, if it is the text of one
(`toInteger_text_eq_ok`, `toBounded_chars`). `octal_texts` puts the two together.
-/

namespace FileMode.Settings

/-- The fields that hold an integer, which may be given as an octal text. -/
inductive OctalField where
  | mode | umask
deriving DecidableEq, Repr

namespace OctalField

def name : OctalField → String
  | mode => modeField
  | umask => umaskField

/-- What a field holds where the data does not give it. -/
def initial : OctalField → Int
  | mode => initialMode
  | umask => initialUmask

def limit : OctalField → Int
  | mode => 0o7777
  | umask => 0o777

/-- What settings hold in a field. -/
def of (s : Settings) : OctalField → Int
  | mode => s.defaultMode
  | umask => s.defaultUmask

/-- The initial settings but for a field. -/
def settings (n : Int) : OctalField → Settings
  | mode => { Settings.initial with defaultMode := n }
  | umask => { Settings.initial with defaultUmask := n }

/-- The entries of the data that gives a field a text and nothing else. -/
def given (f : OctalField) (text : String) : List (Value × Value) := [(.text f.name, .text text)]

/-- A text is taken for a number: it gives settings with that number where nothing else is given,
and all settings have it that come of data with the text in the field. -/
structure Accepted (f : OctalField) (text : String) (n : Int) : Prop where
  alone : validate (.map (f.given text)) = .ok (f.settings n)
  among : ∀ {entries s}, field? f.name entries = some (.text text) →
    validate (.map entries) = .ok s → f.of s = n

/-- A text is refused: there is one complaint and no other where nothing else is given, and that
complaint is among those about any data with the text in the field. -/
structure Refused (f : OctalField) (text : String) (r : Refusal) : Prop where
  alone : validate (.map (f.given text)) = .error [⟨[.name f.name], r⟩]
  among : ∀ {entries}, field? f.name entries = some (.text text) → ∃ before after,
    validate (.map entries) = .error (before ++ ⟨[.name f.name], r⟩ :: after)

def converted (f : OctalField) (entries : List (Value × Value)) : Except (List Complaint) Int :=
  convert f.initial (integerField f.name f.limit) (field? f.name entries)

end OctalField

/-- The complaints about the entries of data, in their order. -/
def faults (entries : List (Value × Value)) : List Complaint :=
  complaints (OctalField.mode.converted entries) ++
    complaints (OctalField.umask.converted entries) ++
    complaints (convert .empty toTable (field? tableField entries)) ++
    entries.filterMap fun e => keyComplaint? e.1

namespace OctalField

variable {f : OctalField} {entries : List (Value × Value)} {text : String}

/-! ### What validation makes of a converted field -/

theorem field?_given (f : OctalField) (text : String) :
    field? f.name (f.given text) = some (.text text) := by
  cases f with
  | mode => rfl
  | umask => rfl

theorem converted_of_field? {v : Value} (holds : field? f.name entries = some v) :
    f.converted entries = (toBounded f.limit v).mapError fun r => [⟨[.name f.name], r⟩] := by
  rw [converted, holds]
  rfl

theorem converted_of_validate {s : Settings} (valid : validate (.map entries) = .ok s) :
    f.converted entries = .ok (f.of s) := by
  obtain ⟨_, same, reads⟩ := validate_eq_ok.mp valid
  cases same
  cases f with
  | mode => exact reads.mode
  | umask => exact reads.umask

/-- Validation fails with all complaints where a field is not converted. -/
theorem validate_of_converted_error {cs : List Complaint}
    (failed : f.converted entries = .error cs) :
    validate (.map entries) = .error (faults entries) := by
  have mode : convert initialMode (integerField modeField maxMode) (field? modeField entries) =
      OctalField.mode.converted entries := rfl
  have umask : convert initialUmask (integerField umaskField maxUmask) (field? umaskField entries) =
      OctalField.umask.converted entries := rfl
  simp only [validate, mode, umask, faults]
  cases f with
  | mode =>
      rw [failed]
  | umask =>
      rw [failed]
      cases OctalField.mode.converted entries with
      | ok n => rfl
      | error others => rfl

/-- Data that gives a field and nothing else is taken or refused with the conversion of the
field. -/
theorem validate_single (f : OctalField) (v : Value) :
    validate (.map [(.text f.name, v)]) =
      match toBounded f.limit v with
      | .ok n => .ok (f.settings n)
      | .error r => .error [⟨[.name f.name], r⟩] := by
  have holds : field? f.name [(.text f.name, v)] = some v := by
    cases f <;> rfl
  have converted := converted_of_field? holds
  cases bounded : toBounded f.limit v with
  | ok n =>
      have taken : f.converted [(.text f.name, v)] = .ok n := by
        rw [converted, bounded]
        rfl
      cases f with
      | mode => exact validate_eq_ok.mpr ⟨_, rfl, taken, rfl, rfl, rfl, rfl⟩
      | umask => exact validate_eq_ok.mpr ⟨_, rfl, rfl, taken, rfl, rfl, rfl⟩
  | error r =>
      have failed : f.converted [(.text f.name, v)] = .error [⟨[.name f.name], r⟩] := by
        rw [converted, bounded]
        rfl
      rw [validate_of_converted_error failed, faults]
      cases f with
      | mode => rw [failed]; rfl
      | umask => rw [failed]; rfl

/-- The complaints about a field stand together among all complaints. -/
theorem complaints_converted_infix (f : OctalField) (entries : List (Value × Value)) :
    complaints (f.converted entries) <:+: faults entries := by
  have fields : complaints (f.converted entries) <:+:
      complaints (OctalField.mode.converted entries) ++
        complaints (OctalField.umask.converted entries) := by
    cases f with
    | mode => exact (List.prefix_append _ _).isInfix
    | umask => exact (List.suffix_append _ _).isInfix
  exact fields.trans ((List.prefix_append _ _).trans (List.prefix_append _ _)).isInfix

theorem accepted_iff_toBounded {n : Int} :
    f.Accepted text n ↔ toBounded f.limit (.text text) = .ok n := by
  constructor
  · rintro ⟨alone, among⟩
    have taken := converted_of_validate (f := f) alone
    rw [converted_of_field? (field?_given f text), among (field?_given f text) alone] at taken
    cases bounded : toBounded f.limit (.text text) with
    | ok m =>
        rw [bounded] at taken
        rw [Except.ok.inj taken]
    | error r =>
        rw [bounded] at taken
        cases taken
  · intro bounded
    constructor
    · rw [given, validate_single, bounded]
    · intro entries s holds valid
      have taken := converted_of_validate (f := f) valid
      rw [converted_of_field? holds, bounded] at taken
      exact (Except.ok.inj taken).symm

theorem refused_of_toBounded {r : Refusal} (bounded : toBounded f.limit (.text text) = .error r) :
    f.Refused text r := by
  constructor
  · rw [given, validate_single, bounded]
  · intro entries holds
    have failed : f.converted entries = .error [⟨[.name f.name], r⟩] := by
      rw [converted_of_field? holds, bounded]
      rfl
    rw [validate_of_converted_error failed]
    obtain ⟨before, after, all⟩ := complaints_converted_infix f entries
    refine ⟨before, after, ?_⟩
    rw [← all, failed, List.append_assoc]
    rfl

/-! ### The number of a text -/

/-- A text is converted to a number exactly if it is that of a literal of the number. -/
theorem toInteger_text_eq_ok (ascii : ∀ c ∈ text.toList, c.toNat < 128) {n : Int} :
    toInteger (.text text) = .ok n ↔ ∃ l : OctalLiteral, text.toList = l.chars ∧ l.value = n := by
  rw [← Literal.integer_eq_ok_iff ascii]
  simp only [toInteger]
  cases Literal.integer 8 text.toList with
  | error e => exact ⟨fun read => (by cases read), fun read => (by cases read)⟩
  | ok m => simp

theorem toInteger_text_of_forall_ne (ascii : ∀ c ∈ text.toList, c.toNat < 128)
    (none : ∀ l : OctalLiteral, text.toList ≠ l.chars) :
    toInteger (.text text) = .error (.notOctal text) := by
  cases read : Literal.integer 8 text.toList with
  | error e => simp only [toInteger, read]
  | ok n =>
      obtain ⟨l, same, -⟩ := (Literal.integer_eq_ok_iff ascii).mp read
      exact absurd same (none l)

/-- A text is accepted exactly if it is that of a literal whose number is within the bounds. -/
theorem accepted_iff (ascii : ∀ c ∈ text.toList, c.toNat < 128) {n : Int} :
    f.Accepted text n ↔
      ∃ l : OctalLiteral, text.toList = l.chars ∧ l.value = n ∧ 0 ≤ n ∧ n ≤ f.limit := by
  rw [accepted_iff_toBounded, toBounded_eq_ok, toInteger_text_eq_ok ascii]
  constructor
  · rintro ⟨⟨l, same, value⟩, bounds⟩
    exact ⟨l, same, value, bounds⟩
  · rintro ⟨l, same, value, bounds⟩
    exact ⟨⟨l, same, value⟩, bounds⟩

/-- The text of a literal is converted to the bounded number of the literal, or fails a bound. -/
theorem toBounded_chars {l : OctalLiteral} (same : text.toList = l.chars) (limit : Int) :
    toBounded limit (.text text) =
      if limit < l.value then .error (.above limit) else if l.value < 0 then .error .negative
      else .ok l.value := by
  have ascii : ∀ c ∈ text.toList, c.toNat < 128 := fun c member => l.toNat_lt (same ▸ member)
  exact toBounded_of_toInteger ((toInteger_text_eq_ok ascii).mpr ⟨l, same, rfl⟩)

theorem limit_nonneg (f : OctalField) : 0 ≤ f.limit := by
  cases f <;> decide

/-- What validation makes of a field depends on the converted text alone. -/
theorem validate_given_congr {text' : String}
    (same : toBounded f.limit (.text text') = toBounded f.limit (.text text)) :
    validate (.map (f.given text')) = validate (.map (f.given text)) := by
  cases bounded : toBounded f.limit (.text text) with
  | ok n =>
      rw [(accepted_iff_toBounded.mpr bounded).alone,
        (accepted_iff_toBounded.mpr (same.trans bounded)).alone]
  | error r =>
      rw [(refused_of_toBounded bounded).alone, (refused_of_toBounded (same.trans bounded)).alone]

/-- **Octal texts in a field.** A text of ASCII characters is accepted exactly if it is that of a
literal whose number is not negative and not above the limit of the field; it is taken for that
number. The text of a literal beyond a bound is refused for the bound, and any other text is refused
with a quotation of it. Each time there is one complaint. Zeros in front of the digits of a literal
change nothing. -/
theorem octal_texts (f : OctalField) (text : String) (ascii : ∀ c ∈ text.toList, c.toNat < 128) :
    (∀ n, f.Accepted text n ↔
      ∃ l : OctalLiteral, text.toList = l.chars ∧ l.value = n ∧ 0 ≤ n ∧ n ≤ f.limit) ∧
    ((∀ l : OctalLiteral, text.toList ≠ l.chars) → ∃ r, f.Refused text r ∧ r.code = "value_error" ∧
      r.message = "Value error, Expected an octal string such as '0755'; got " ++
        Text.Quoted.quote text ++ ".") ∧
    ∀ l : OctalLiteral, text.toList = l.chars →
      (l.value < 0 → ∃ r, f.Refused text r ∧ r.code = "greater_than_equal" ∧
        r.message = "Input should be greater than or equal to 0") ∧
      (f.limit < l.value → ∃ r, f.Refused text r ∧ r.code = "less_than_equal" ∧
        r.message = "Input should be less than or equal to " ++ Radix.decimal f.limit) ∧
      ∀ k, validate (.map (f.given (String.ofList (l.front ++
          (l.sign ++ (l.announcement ++ (List.replicate k '0' ++ l.written))) ++ l.back)))) =
        validate (.map (f.given text)) := by
  refine ⟨fun n => accepted_iff ascii, fun none => ?_, fun l same => ⟨fun negative => ?_,
    fun above => ?_, fun k => ?_⟩⟩
  · refine ⟨.notOctal text, refused_of_toBounded ?_, rfl, rfl⟩
    rw [toBounded, toInteger_text_of_forall_ne ascii none]
    rfl
  · have below : ¬ f.limit < l.value := by
      have := f.limit_nonneg
      omega
    refine ⟨.negative, refused_of_toBounded ?_, rfl, rfl⟩
    rw [toBounded_chars same, if_neg below, if_pos negative]
  · refine ⟨.above f.limit, refused_of_toBounded ?_, rfl, rfl⟩
    rw [toBounded_chars same, if_pos above]
  · obtain ⟨padded, value, chars⟩ := l.exists_padded k
    refine validate_given_congr ?_
    rw [toBounded_chars (String.toList_ofList.trans chars.symm), toBounded_chars same, value]

/-- A literal with each of its parts, whose number needs all twelve bits. -/
def mixedLiteral : OctalLiteral where
  front := ['\t']
  sign := ['+']
  announcement := ['0', 'o', '_']
  groups := [['7'], ['7', '5', '5']]
  back := ['\n', ' ']
  front_blank := by decide
  sign_mem := by decide
  announcement_mem := by decide
  grouped := ⟨by decide, by decide, by decide⟩
  back_blank := by decide

/-- The same text is a mode and too great a umask, with as many zeros as one likes; a second
underscore behind the announcement is refused. -/
theorem octal_texts_mixed :
    OctalField.mode.Accepted "\t+0o_7_755\n " 0o7755 ∧
    (∃ r, OctalField.umask.Refused "\t+0o_7_755\n " r ∧ r.code = "less_than_equal" ∧
      r.message =
        "Input should be less than or equal to " ++ Radix.decimal OctalField.umask.limit) ∧
    validate (.map (OctalField.mode.given "\t+0o_0007_755\n ")) =
      validate (.map (OctalField.mode.given "\t+0o_7_755\n ")) ∧
    ∃ r, OctalField.umask.Refused "0o__7" r ∧ r.code = "value_error" ∧
      r.message = "Value error, Expected an octal string such as '0755'; got " ++
        Text.Quoted.quote "0o__7" ++ "." := by
  obtain ⟨accepts, -, mode⟩ := octal_texts .mode "\t+0o_7_755\n " (by decide)
  obtain ⟨-, -, umask⟩ := octal_texts .umask "\t+0o_7_755\n " (by decide)
  obtain ⟨-, refuses, -⟩ := octal_texts .umask "0o__7" (by decide)
  have value : mixedLiteral.value = 0o7755 := rfl
  refine ⟨(accepts 0o7755).mpr ⟨mixedLiteral, by decide, value, by decide, by decide⟩,
    (umask mixedLiteral (by decide)).2.1 (by decide), (mode mixedLiteral (by decide)).2.2 3,
    refuses fun l same => ?_⟩
  have read : Literal.integer 8 "0o__7".toList = .error .malformed := rfl
  rw [same, l.integer_chars] at read
  cases read

end OctalField

end FileMode.Settings
