import FileMode.Proofs.DigitScalars
import FileMode.Proofs.EntryPoints
import FileMode.Proofs.LineTokens
import FileMode.Proofs.OctalFields

/-!
Digits in a document, bare and between double quotes.

A document of one line is a mapping of one entry (`Document.read_line`), and for a field of settings
the value of the entry is all that counts (`OctalField.ofText_line`). Between quotes, digits are a
text, which settings read in base eight. Without quotes they may be a number already, in base eight
or ten, and it is the zero in front that makes the two ways agree (`quoted_digits`).
-/

namespace FileMode

/-! ### Documents of one line -/

namespace Document

theorem value_scalar {tag : Tag} (single : tag.isCollection = false) (text : List Char) :
    (Node.scalar tag text).value = Scalar.meaning tag text := by
  simp only [Node.value, Node.tag, Node.outcomeAs, Node.single, single, Node.heldText]
  cases Scalar.meaning tag text with
  | ok v => rfl
  | error f => rfl

/-- The value of a mapping of one text is a map of that text. -/
theorem value_mapping_single (key : List Char) (n : Node) :
    (Node.mapping .mapping [(.scalar .text key, n)]).value =
      n.value.map fun v => .map [(.text (String.ofList key), v)] := by
  have entries : Node.entriesOf [(.scalar .text key, n)] =
      some ⟨[], [Outcome.both (.ok (.text (String.ofList key))) (n.outcomeAs n.tag)]⟩ := rfl
  have whole : (Node.mapping .mapping [(.scalar .text key, n)]).value =
      (Entries.outcome Entries.toMap (Node.entriesOf [(.scalar .text key, n)])).mapError
        Prod.snd := rfl
  rw [whole, entries, Node.value]
  cases n.outcomeAs n.tag with
  | ok v => rfl
  | error e => rfl

def wordTag (quoted : Bool) (w : List Char) : Tag := if quoted then .text else .ofPlain w

theorem isCollection_wordTag (quoted : Bool) (w : List Char) :
    (wordTag quoted w).isCollection = false := by
  cases quoted with
  | false => exact Tag.isCollection_ofPlain w
  | true => rfl

/-- The kind of a word is that of a scalar without properties. -/
theorem scalarTag_none (quoted : Bool) (w : List Char) :
    Properties.none.scalarTag w (!quoted) = wordTag quoted w := by
  cases quoted with
  | false => rfl
  | true => rfl

theorem ofTokens_lineTokens (key w : String) (plain : Bool) :
    Node.ofTokens (lineTokens key w plain) =
      .ok (some (.mapping .mapping [(.scalar (.ofPlain key.toList) key.toList,
        .scalar (Properties.none.scalarTag w.toList plain) w.toList)])) := rfl

/-- The value of a line with a key, which is a text, and a word. -/
theorem read_line {key w back : List Char} {quoted : Bool} (keyWord : IsWord key)
    (short : key.length ≤ maxKeyLength) (text : Tag.ofPlain key = .text) (word : IsWord w)
    (atEnd : back ∈ ends) :
    read (String.ofList (key ++ ':' :: ' ' :: (written quoted w ++ back))) =
      (Scalar.meaning (wordTag quoted w) w).map fun v => .map [(.text (String.ofList key), v)] := by
  have scanned : tokens (String.ofList (key ++ ':' :: ' ' :: (written quoted w ++ back))).toList =
      lineTokens (String.ofList key) (String.ofList w) (!quoted) := by
    rw [String.toList_ofList, tokens_line keyWord short word atEnd]
  have made := ofTokens_lineTokens (String.ofList key) (String.ofList w) (!quoted)
  simp only [String.toList_ofList, text, scalarTag_none] at made
  rw [read_of_stages scanned made, value_mapping_single, value_scalar (isCollection_wordTag _ _)]

end Document

/-! ### A field in a document of one line -/

namespace Settings.OctalField

/-- The document that gives a field some digits, bare or between double quotes. -/
def line (f : OctalField) (quoted : Bool) (digits back : List Char) : String :=
  f.name ++ ": " ++ String.ofList (Document.written quoted digits ++ back)

variable {f : OctalField} {digits back : List Char}

theorem isWord_of_digits (nonempty : digits ≠ []) (digit : ∀ d ∈ digits, Umask.IsDigit d) :
    Document.IsWord digits where
  first := by
    obtain ⟨d, ds, rfl⟩ := List.exists_cons_of_ne_nil nonempty
    have letters : ∀ d ∈ decimalDigits, d.isAlphanum = true := by decide
    exact letters d (digit d List.mem_cons_self).mem
  ordinary := by
    have ordinary : ∀ d ∈ decimalDigits, Document.isOrdinary d = true := by decide
    exact List.all_eq_true.mpr fun d member => ordinary d (digit d member).mem

theorem read_line (f : OctalField) (quoted : Bool) (nonempty : digits ≠ [])
    (digit : ∀ d ∈ digits, Umask.IsDigit d) (atEnd : back ∈ Document.ends) :
    Document.read (f.line quoted digits back) =
      (Document.Scalar.meaning (Document.wordTag quoted digits) digits).map fun v =>
        .map [(.text f.name, v)] := by
  have keyWord : Document.IsWord f.name.toList := by
    cases f <;> exact ⟨rfl, by decide⟩
  have short : f.name.toList.length ≤ Document.maxKeyLength := by
    cases f <;> decide
  have text : Document.Tag.ofPlain f.name.toList = .text := by
    cases f <;> rfl
  have whole : f.line quoted digits back =
      String.ofList (f.name.toList ++ ':' :: ' ' :: (Document.written quoted digits ++ back)) := by
    rw [← String.toList_inj]
    simp [line, String.toList_append, String.toList_ofList]
  rw [whole, Document.read_line keyWord short text (isWord_of_digits nonempty digit) atEnd,
    String.ofList_toList]

/-- The settings of a document that gives a field digits for which there is a value. -/
theorem ofText_line (f : OctalField) (quoted : Bool) {v : Value} (nonempty : digits ≠ [])
    (digit : ∀ d ∈ digits, Umask.IsDigit d) (atEnd : back ∈ Document.ends)
    (means : Document.Scalar.meaning (Document.wordTag quoted digits) digits = .ok v)
    (path : Option String) :
    ofText (f.line quoted digits back) path =
      match toBounded f.limit v with
      | .ok n => .ok (f.settings n)
      | .error r => .error (.settings [⟨[.name f.name], r⟩]) := by
  have read : Document.read (f.line quoted digits back) = .ok (.map [(.text f.name, v)]) := by
    rw [read_line f quoted nonempty digit atEnd, means]
    rfl
  rw [ofText_of_present read rfl, ofData, validate_single]
  cases toBounded f.limit v with
  | ok n => rfl
  | error r => rfl

/-- Digits for which there is no value are those of a document without settings. -/
theorem ofText_line_of_error (f : OctalField) (quoted : Bool) {fault : Document.Fault}
    (nonempty : digits ≠ []) (digit : ∀ d ∈ digits, Umask.IsDigit d) (atEnd : back ∈ Document.ends)
    (unread : Document.Scalar.meaning (Document.wordTag quoted digits) digits = .error fault)
    (path : Option String) :
    ofText (f.line quoted digits back) path = .error (.document fault path) := by
  apply ofText_of_unread
  rw [read_line f quoted nonempty digit atEnd, unread]
  rfl

/-- Octal digits as a text are the number that they denote in base eight. -/
theorem toBounded_octalText (nonempty : digits ≠ []) (octal : ∀ d ∈ digits, IsOctalDigit d)
    (limit : Int) :
    toBounded limit (.text (String.ofList digits)) =
      toBounded limit (.int (Umask.reading digits)) := by
  have read : toInteger (.text (String.ofList digits)) = .ok (Umask.reading digits) := by
    simp only [toInteger, String.toList_ofList, Literal.integer_eight nonempty octal]
  rw [toBounded_of_toInteger read, toBounded_of_toInteger rfl]

/-- A zero in front makes quotes idle. -/
theorem ofText_line_zero (f : OctalField) (nonempty : digits ≠ [])
    (digit : ∀ d ∈ digits, Umask.IsDigit d) (atEnd : back ∈ Document.ends)
    (zero : digits.head? = some '0') (path : Option String) :
    ofText (f.line false digits back) path = ofText (f.line true digits back) path := by
  have quoted := ofText_line f true nonempty digit atEnd rfl path
  have means := Document.Scalar.meaning_of_digits nonempty digit
  rw [if_pos zero] at means
  by_cases octal : ∀ d ∈ digits, IsOctalDigit d
  · rw [if_pos octal] at means
    rw [ofText_line f false nonempty digit atEnd means, quoted,
      toBounded_octalText nonempty octal]
  · rw [if_neg octal] at means
    rw [ofText_line f false nonempty digit atEnd means, quoted]

theorem of_settings (f : OctalField) (n : Int) : f.of (f.settings n) = n := by
  cases f <;> rfl

/-- Octal digits without a zero in front are read in base ten where they are bare, and in base
eight, which keeps them within the limit, where they are quoted. -/
theorem ofText_line_nonzero (several : 2 ≤ digits.length) (octal : ∀ d ∈ digits, IsOctalDigit d)
    (atEnd : back ∈ Document.ends) (nonzero : digits.head? ≠ some '0') {path : Option String}
    {s : Settings} (loads : ofText (f.line false digits back) path = .ok s) :
    s = f.settings (decimalReading digits) ∧
      ofText (f.line true digits back) path = .ok (f.settings (Umask.reading digits)) := by
  have nonempty : digits ≠ [] := List.ne_nil_of_length_pos (by omega)
  have digit : ∀ d ∈ digits, Umask.IsDigit d := fun d member => (octal d member).isDigit
  have means := Document.Scalar.meaning_of_digits nonempty digit
  rw [if_neg nonzero] at means
  by_cases long : Literal.maxDigits < digits.length
  · rw [if_pos long] at means
    rw [ofText_line_of_error f false nonempty digit atEnd means] at loads
    cases loads
  · rw [if_neg long] at means
    rw [ofText_line f false nonempty digit atEnd means] at loads
    have less := reading_lt_decimalReading several octal nonzero
    cases bounded : toBounded f.limit (.int (decimalReading digits)) with
    | error r =>
        rw [bounded] at loads
        cases loads
    | ok n =>
        rw [bounded] at loads
        obtain ⟨same, -, most⟩ := toBounded_eq_ok.mp bounded
        cases same
        have within : toBounded f.limit (.text (String.ofList digits)) =
            .ok (Umask.reading digits) := by
          rw [toBounded_octalText nonempty octal]
          exact toBounded_eq_ok.mpr ⟨rfl, by omega, by omega⟩
        refine ⟨(Except.ok.inj loads).symm, ?_⟩
        rw [ofText_line f true nonempty digit atEnd rfl, within]

/-- **Quoting digits.** Where a field is given digits of which the first is a zero, the document
with the bare digits gives what the one with the quoted digits gives, settings or the same
complaints. Where two or more octal digits do not begin with a zero and the bare ones give settings,
the field is the number that the digits denote in base ten, and the quoted ones give settings with
the number in base eight, which is smaller. -/
theorem quoted_digits (f : OctalField) (digits back : List Char) (nonempty : digits ≠ [])
    (digit : ∀ d ∈ digits, Umask.IsDigit d) (atEnd : back ∈ Document.ends) (path : Option String) :
    (digits.head? = some '0' →
      ofText (f.line false digits back) path = ofText (f.line true digits back) path ∧
      ((∃ s, ofText (f.line false digits back) path = .ok s) ∨
        ∃ cs, ofText (f.line false digits back) path = .error (.settings cs))) ∧
    (2 ≤ digits.length → (∀ d ∈ digits, IsOctalDigit d) → digits.head? ≠ some '0' →
      ∀ s, ofText (f.line false digits back) path = .ok s →
        f.of s = decimalReading digits ∧
        ∃ s', ofText (f.line true digits back) path = .ok s' ∧
          f.of s' = Umask.reading digits ∧ f.of s' < f.of s) := by
  refine ⟨fun zero => ?_, fun several octal nonzero s loads => ?_⟩
  · have same := ofText_line_zero f nonempty digit atEnd zero path
    refine ⟨same, ?_⟩
    rw [same, ofText_line f true nonempty digit atEnd rfl]
    cases toBounded f.limit (.text (String.ofList digits)) with
    | ok n => exact .inl ⟨_, rfl⟩
    | error r => exact .inr ⟨_, rfl⟩
  · obtain ⟨rfl, quoted⟩ := ofText_line_nonzero several octal atEnd nonzero loads
    have less := reading_lt_decimalReading several octal nonzero
    refine ⟨of_settings f _, _, quoted, of_settings f _, ?_⟩
    rw [of_settings, of_settings]
    exact Int.ofNat_lt.mpr less

/-- A mode that is read in either base, and a umask that is refused in either form for a digit that
is not octal. -/
theorem quoted_digits_modes :
    mode.line false ['7', '5', '5'] ['\n'] = "default_mode: 755\n" ∧
    ofText (mode.line false ['7', '5', '5'] ['\n']) none =
      .ok { Settings.initial with defaultMode := 755 } ∧
    (∃ s, ofText (mode.line true ['7', '5', '5'] ['\n']) none = .ok s ∧ s.defaultMode = 0o755 ∧
      s.defaultMode < 755) ∧
    umask.line true ['0', '0', '8', '9'] [] = "default_umask: \"0089\"" ∧
    ofText (umask.line false ['0', '0', '8', '9'] []) none =
      ofText (umask.line true ['0', '0', '8', '9'] []) none := by
  have nonempty : ['7', '5', '5'] ≠ [] := by decide
  have digit : ∀ d ∈ ['7', '5', '5'], Umask.IsDigit d := by decide
  have atEnd : ['\n'] ∈ Document.ends := by decide
  have bare : ofText (mode.line false ['7', '5', '5'] ['\n']) none =
      .ok { Settings.initial with defaultMode := 755 } :=
    ofText_line mode false nonempty digit atEnd rfl none
  obtain ⟨-, differ⟩ := quoted_digits mode ['7', '5', '5'] ['\n'] nonempty digit atEnd none
  obtain ⟨-, s, quoted, octal, less⟩ := differ (by decide) (by decide) (by decide) _ bare
  obtain ⟨agree, -⟩ :=
    quoted_digits umask ['0', '0', '8', '9'] [] (by decide) (by decide) (by decide) none
  exact ⟨rfl, bare, ⟨s, quoted, octal, less⟩, rfl, (agree rfl).1⟩

end Settings.OctalField

end FileMode
