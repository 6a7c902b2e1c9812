import FileMode.Proofs.QuotedDigits

/-!
Digits that override the umask, bare and between double quotes.

The override stands in the table of settings, on a line of its own that is indented below the name
of the table, so that the document is a mapping in a mapping (`Document.read_nested`). The values of
the table have to be texts. Between quotes, digits always are a text; without quotes they are one
only where a zero in front keeps them from being a number in base ten, and another digit from being
one in base eight. All other digits are refused, and none are stored as something else
(`digit_overrides`).
-/

namespace FileMode

/-! ### Documents of two lines -/

namespace Document

namespace Reader

variable {r : Reader} {w rest : List Char} {indent : Nat}

/-- The state on the line below a key that opens a block mapping, behind the spaces that the line
begins with. -/
def below (r : Reader) (w : List Char) (indent : Nat) : Reader :=
  let line : Place := ⟨(r.afterKey w).place.index + 1, (r.afterKey w).place.line + 1, 0⟩
  { r.afterKey w with place := line.along indent, keyAllowed := true }

/-- **Keys above their values.** Where nothing stands behind a key on its line, the next line is
read with the mapping of the key open. -/
theorem read_key_below (word : IsWord w) (short : w.length ≤ maxKeyLength) (flow : r.flow = [])
    (outer : r.outer = none) (allowed : r.keyAllowed = true)
    (left : ∀ n ∈ r.indents, n < r.place.column) :
    r.read 0 (w ++ ':' :: '\n' :: (List.replicate indent ' ' ++ rest)) =
      (r.below w indent).read 0 rest := by
  have still : (r.afterKey w).flow = [] := flow
  rw [read_key word short flow outer allowed left rfl, read_lineFeed still, read_spaces]
  rfl

/-- What is indented further than a key is indented further than all that is open below it. -/
theorem left_below (left : ∀ n ∈ r.indents, n < r.place.column) (deeper : r.place.column < indent) :
    ∀ n ∈ (r.below w indent).indents, n < (r.below w indent).place.column := by
  have column : (r.below w indent).place.column = indent := Nat.zero_add indent
  intro n member
  rw [column]
  rcases List.mem_cons.mp member with rfl | member
  · exact deeper
  · exact (left n member).trans deeper

end Reader

/-- The text of a key that has its value on the next line: a key with a word, indented by some
spaces. -/
def nested (outer inner w back : List Char) (indent : Nat) (quoted : Bool) : List Char :=
  outer ++ ':' :: '\n' :: (List.replicate indent ' ' ++
    (inner ++ ':' :: ' ' :: (written quoted w ++ back)))

/-- The tokens of a mapping of one key, whose value is a mapping of one key with a scalar. -/
def nestedTokens (outer inner w : String) (plain : Bool) : List Token :=
  [.blockMapping, .key, .scalar outer true, .value, .blockMapping, .key, .scalar inner true, .value,
    .scalar w plain, .blockEnd, .blockEnd, .textEnd]

theorem ofTokens_nestedTokens (outer inner w : String) (plain : Bool) :
    Node.ofTokens (nestedTokens outer inner w plain) =
      .ok (some (.mapping .mapping [(.scalar (.ofPlain outer.toList) outer.toList,
        .mapping .mapping [(.scalar (.ofPlain inner.toList) inner.toList,
          .scalar (Properties.none.scalarTag w.toList plain) w.toList)])])) := rfl

section Nested

variable {outer inner w back : List Char} {indent : Nat} {quoted : Bool}

/-- A key with its value on the next line begins a mapping, and the value another one in it. -/
theorem tokens_nested (outerWord : IsWord outer) (outerShort : outer.length ≤ maxKeyLength)
    (innerWord : IsWord inner) (innerShort : inner.length ≤ maxKeyLength) (indented : 0 < indent)
    (word : IsWord w) (atEnd : back ∈ ends) :
    tokens (nested outer inner w back indent quoted) =
      nestedTokens (String.ofList outer) (String.ofList inner) (String.ofList w) (!quoted) := by
  have admitted : ∀ c ∈ ':' :: '\n' :: (List.replicate indent ' ' ++
      (inner ++ ':' :: ' ' :: (written quoted w ++ back))), isAdmitted c = true := by
    have spacesAdmitted : ∀ c ∈ List.replicate indent ' ', isAdmitted c = true :=
      fun c member => List.eq_of_mem_replicate member ▸ rfl
    simp only [List.forall_mem_cons, List.forall_mem_append]
    exact ⟨rfl, rfl, spacesAdmitted, isAdmitted_of_isWord innerWord, rfl, rfl,
      isAdmitted_of_mem_written word, isAdmitted_of_mem_ends atEnd⟩
  have nothing : ∀ n ∈ Reader.start.indents, n < Reader.start.place.column := by
    simp [Reader.start]
  have left := Reader.left_below (w := outer) nothing indented
  have idle := Reader.idle_afterKey (r := Reader.start.below outer indent) rfl left inner
  rw [nested, tokens_of_isWord outerWord admitted,
    Reader.read_key_below outerWord outerShort rfl rfl rfl nothing,
    Reader.read_key innerWord innerShort rfl rfl rfl left rfl, Reader.read_space,
    Reader.read_last word (idle.along 1) rfl (List.cons_ne_nil _ _) atEnd]
  rfl

/-- The value of a key with its value on the next line, where both keys are texts, is a map in a
map. -/
theorem read_nested (outerWord : IsWord outer) (outerShort : outer.length ≤ maxKeyLength)
    (outerText : Tag.ofPlain outer = .text) (innerWord : IsWord inner)
    (innerShort : inner.length ≤ maxKeyLength) (innerText : Tag.ofPlain inner = .text)
    (indented : 0 < indent) (word : IsWord w) (atEnd : back ∈ ends) :
    read (String.ofList (nested outer inner w back indent quoted)) =
      (Scalar.meaning (wordTag quoted w) w).map fun v =>
        .map [(.text (String.ofList outer), .map [(.text (String.ofList inner), v)])] := by
  have scanned : tokens (String.ofList (nested outer inner w back indent quoted)).toList =
      nestedTokens (String.ofList outer) (String.ofList inner) (String.ofList w) (!quoted) := by
    rw [String.toList_ofList,
      tokens_nested outerWord outerShort innerWord innerShort indented word atEnd]
  have made := ofTokens_nestedTokens (String.ofList outer) (String.ofList inner) (String.ofList w)
    (!quoted)
  simp only [String.toList_ofList, outerText, innerText,
    scalarTag_none] at made
  rw [read_of_stages scanned made, value_mapping_single, value_mapping_single,
    value_scalar (isCollection_wordTag _ _)]
  cases Scalar.meaning (wordTag quoted w) w with
  | ok v => rfl
  | error f => rfl

end Nested

end Document

namespace Settings

/-! ### A table of one entry -/

/-- The data that gives a table with one entry and nothing else. -/
def tableOf (name : String) (v : Value) : Value :=
  .map [(.text tableField, .map [(.text name, v)])]

/-- A table with one entry is taken if the value of the entry is a text. -/
theorem ofData_tableOf_text (name text : String) :
    ofData (tableOf name (.text text)) =
      .ok { initial with table := Table.ofList [(name, text)] } := rfl

/-- An integer in a table is refused at its own place. -/
theorem ofData_tableOf_int (name : String) (n : Int) :
    ofData (tableOf name (.int n)) =
      .error (.settings [⟨[.name tableField, .name name], .notText⟩]) := rfl

/-! ### An override in a document of two lines -/

/-- The document that overrides the umask with some digits, bare or between double quotes, on a line
that some spaces indent. -/
def overrideText (indent : Nat) (quoted : Bool) (digits back : List Char) : String :=
  tableField ++ ":\n" ++ String.ofList (List.replicate indent ' ') ++ Umask.key ++ ": " ++
    String.ofList (Document.written quoted digits ++ back)

def overriding (text : String) : Settings :=
  { initial with table := Table.ofList [(Umask.key, text)] }

theorem get?_overriding (text : String) : (overriding text).table.get? Umask.key = some text := by
  simp [overriding, Table.ofList, Table.get?_insert]

section Override

variable {digits back : List Char} {indent : Nat} {quoted : Bool}

theorem read_override (nonempty : digits ≠ []) (digit : ∀ d ∈ digits, Umask.IsDigit d)
    (indented : 0 < indent) (atEnd : back ∈ Document.ends) :
    Document.read (overrideText indent quoted digits back) =
      (Document.Scalar.meaning (Document.wordTag quoted digits) digits).map
        (tableOf Umask.key) := by
  have outerWord : Document.IsWord tableField.toList := ⟨rfl, by decide⟩
  have innerWord : Document.IsWord Umask.key.toList := ⟨rfl, by decide⟩
  have whole : overrideText indent quoted digits back = String.ofList
      (Document.nested tableField.toList Umask.key.toList digits back indent quoted) := by
    rw [← String.toList_inj]
    simp [overrideText, Document.nested, String.toList_append, String.toList_ofList]
  rw [whole, Document.read_nested outerWord (by decide) rfl innerWord (by decide) rfl indented
    (OctalField.isWord_of_digits nonempty digit) atEnd, String.ofList_toList, String.ofList_toList]
  rfl

/-- The settings of an override by digits for which there is a value. -/
theorem ofText_override {v : Value} (nonempty : digits ≠ [])
    (digit : ∀ d ∈ digits, Umask.IsDigit d) (indented : 0 < indent) (atEnd : back ∈ Document.ends)
    (means : Document.Scalar.meaning (Document.wordTag quoted digits) digits = .ok v)
    (path : Option String) :
    ofText (overrideText indent quoted digits back) path = ofData (tableOf Umask.key v) := by
  have read : Document.read (overrideText indent quoted digits back) =
      .ok (tableOf Umask.key v) := by
    rw [read_override nonempty digit indented atEnd, means]
    rfl
  exact ofText_of_present read rfl path

/-- Digits for which there is no value are those of a document without settings. -/
theorem ofText_override_of_error {fault : Document.Fault} (nonempty : digits ≠ [])
    (digit : ∀ d ∈ digits, Umask.IsDigit d) (indented : 0 < indent) (atEnd : back ∈ Document.ends)
    (unread : Document.Scalar.meaning (Document.wordTag quoted digits) digits = .error fault)
    (path : Option String) :
    ofText (overrideText indent quoted digits back) path = .error (.document fault path) := by
  apply ofText_of_unread
  rw [read_override nonempty digit indented atEnd, unread]
  rfl

/-- Of the digits of base ten, two are not octal. -/
theorem not_forall_isOctalDigit_iff (digit : ∀ d ∈ digits, Umask.IsDigit d) :
    (¬ ∀ d ∈ digits, IsOctalDigit d) ↔ '8' ∈ digits ∨ '9' ∈ digits := by
  constructor
  · intro other
    obtain ⟨d, member, foreign⟩ : ∃ d ∈ digits, ¬ IsOctalDigit d := by simpa using other
    have late : ∀ d ∈ decimalDigits, ¬ IsOctalDigit d → d = '8' ∨ d = '9' := by decide
    rcases late d (digit d member).mem foreign with rfl | rfl
    · exact .inl member
    · exact .inr member
  · rintro (member | member) octal
    · exact absurd (octal '8' member) (by decide)
    · exact absurd (octal '9' member) (by decide)

/-- Digits between quotes are a text, which is stored as it is. -/
theorem ofText_override_quoted (nonempty : digits ≠ []) (digit : ∀ d ∈ digits, Umask.IsDigit d)
    (indented : 0 < indent) (atEnd : back ∈ Document.ends) (path : Option String) :
    ofText (overrideText indent true digits back) path =
      .ok (overriding (String.ofList digits)) := by
  have means : Document.Scalar.meaning (Document.wordTag true digits) digits =
      .ok (.text (String.ofList digits)) := rfl
  rw [ofText_override nonempty digit indented atEnd means]
  exact ofData_tableOf_text _ _

/-- A zero in front and a digit that is not octal leave bare digits a text. -/
theorem ofText_override_late (nonempty : digits ≠ []) (digit : ∀ d ∈ digits, Umask.IsDigit d)
    (indented : 0 < indent) (atEnd : back ∈ Document.ends) (zero : digits.head? = some '0')
    (late : '8' ∈ digits ∨ '9' ∈ digits) (path : Option String) :
    ofText (overrideText indent false digits back) path =
      .ok (overriding (String.ofList digits)) := by
  have means : Document.Scalar.meaning (Document.wordTag false digits) digits = _ :=
    Document.Scalar.meaning_of_digits nonempty digit
  rw [if_pos zero, if_neg ((not_forall_isOctalDigit_iff digit).mpr late)] at means
  rw [ofText_override nonempty digit indented atEnd means]
  exact ofData_tableOf_text _ _

/-- All other bare digits are a number, which no table takes, or too many for one. -/
theorem ofText_override_number (nonempty : digits ≠ []) (digit : ∀ d ∈ digits, Umask.IsDigit d)
    (indented : 0 < indent) (atEnd : back ∈ Document.ends)
    (number : ¬ (digits.head? = some '0' ∧ ('8' ∈ digits ∨ '9' ∈ digits)))
    (path : Option String) :
    ∃ f, ofText (overrideText indent false digits back) path = .error f ∧ f.isRefusal = true ∧
      (f = .settings [⟨[.name tableField, .name Umask.key], .notText⟩] ∨
        Literal.maxDigits < digits.length ∧ f = .document (.integerSize digits.length) path) := by
  have means : Document.Scalar.meaning (Document.wordTag false digits) digits = _ :=
    Document.Scalar.meaning_of_digits nonempty digit
  have ofNumber {n : Int} (means : Document.Scalar.meaning (Document.wordTag false digits) digits =
      .ok (.int n)) : ofText (overrideText indent false digits back) path =
        .error (.settings [⟨[.name tableField, .name Umask.key], .notText⟩]) := by
    rw [ofText_override nonempty digit indented atEnd means]
    exact ofData_tableOf_int _ _
  by_cases zero : digits.head? = some '0'
  · have octal : ∀ d ∈ digits, IsOctalDigit d :=
      not_not.mp fun other => number ⟨zero, (not_forall_isOctalDigit_iff digit).mp other⟩
    rw [if_pos zero, if_pos octal] at means
    exact ⟨_, ofNumber means, rfl, .inl rfl⟩
  · rw [if_neg zero] at means
    by_cases long : Literal.maxDigits < digits.length
    · rw [if_pos long] at means
      exact ⟨_, ofText_override_of_error nonempty digit indented atEnd means path, rfl,
        .inr ⟨long, rfl⟩⟩
    · rw [if_neg long] at means
      exact ⟨_, ofNumber means, rfl, .inl rfl⟩

/-- **Overriding the umask with digits.** Between double quotes digits are always stored, as they
are. Bare digits are stored, as they are too, if the first is a zero and there is an eight or a nine
among them. All other bare digits are refused, which is reported as such: for a value that is no
text, or for being too many for a number. So no digits are ever stored in another form. -/
theorem digit_overrides (digits back : List Char) (nonempty : digits ≠ [])
    (digit : ∀ d ∈ digits, Umask.IsDigit d) (atEnd : back ∈ Document.ends) {indent : Nat}
    (indented : 0 < indent) (path : Option String) :
    ofText (overrideText indent true digits back) path = .ok (overriding (String.ofList digits)) ∧
    (digits.head? = some '0' ∧ ('8' ∈ digits ∨ '9' ∈ digits) →
      ofText (overrideText indent false digits back) path =
        .ok (overriding (String.ofList digits))) ∧
    (¬ (digits.head? = some '0' ∧ ('8' ∈ digits ∨ '9' ∈ digits)) →
      ∃ f, ofText (overrideText indent false digits back) path = .error f ∧ f.isRefusal = true ∧
        (f = .settings [⟨[.name tableField, .name Umask.key], .notText⟩] ∨
          Literal.maxDigits < digits.length ∧ f = .document (.integerSize digits.length) path)) ∧
    ∀ quoted s, ofText (overrideText indent quoted digits back) path = .ok s →
      s.table.get? Umask.key = some (String.ofList digits) := by
  have stored := ofText_override_quoted nonempty digit indented atEnd path
  have kept (text : digits.head? = some '0' ∧ ('8' ∈ digits ∨ '9' ∈ digits)) :=
    ofText_override_late nonempty digit indented atEnd text.1 text.2 path
  have refused (number : ¬ (digits.head? = some '0' ∧ ('8' ∈ digits ∨ '9' ∈ digits))) :=
    ofText_override_number nonempty digit indented atEnd number path
  refine ⟨stored, kept, refused, fun quoted s loads => ?_⟩
  have same : s = overriding (String.ofList digits) := by
    cases quoted with
    | true => exact Except.ok.inj (loads.symm.trans stored)
    | false =>
        by_cases text : digits.head? = some '0' ∧ ('8' ∈ digits ∨ '9' ∈ digits)
        · exact Except.ok.inj (loads.symm.trans (kept text))
        · obtain ⟨f, failed, -⟩ := refused text
          cases loads.symm.trans failed
  rw [same, get?_overriding]

/-- Of `0028` and `0027` in a file that ends in a line feed, the first is stored with and without
quotes, the second only with quotes. -/
theorem digit_overrides_late :
    overrideText 2 false ['0', '0', '2', '8'] ['\n'] =
      "settings:\n  posix_mode.security.authorization.permission.umask: 0028\n" ∧
    overrideText 2 true ['0', '0', '2', '7'] ['\n'] =
      "settings:\n  posix_mode.security.authorization.permission.umask: \"0027\"\n" ∧
    ofText (overrideText 2 false ['0', '0', '2', '8'] ['\n']) none =
      .ok (overriding (String.ofList ['0', '0', '2', '8'])) ∧
    ofText (overrideText 2 true ['0', '0', '2', '7'] ['\n']) none =
      .ok (overriding (String.ofList ['0', '0', '2', '7'])) ∧
    ∃ f, ofText (overrideText 2 false ['0', '0', '2', '7'] ['\n']) none = .error f ∧
      f.isRefusal = true := by
  have late := digit_overrides ['0', '0', '2', '8'] ['\n'] (by decide) (by decide) (by decide)
    Nat.zero_lt_two none
  have octal := digit_overrides ['0', '0', '2', '7'] ['\n'] (by decide) (by decide) (by decide)
    Nat.zero_lt_two none
  obtain ⟨f, failed, refusal, -⟩ := octal.2.2.1 (by decide)
  exact ⟨rfl, rfl, late.2.1 (by decide), octal.1, f, failed, refusal⟩

end Override

end Settings

end FileMode
