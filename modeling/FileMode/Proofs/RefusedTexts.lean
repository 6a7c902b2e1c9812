import FileMode.Document.Scalar.Flow
import FileMode.Proofs.Display

/-!
Refusals that tell which text was refused.

A message about a text that is no display form holds the text in its quoted form. That form can be
read again: `decode` takes the quote that comes first for the end of the text, and a backslash for
the beginning of an escape, which stands for one character. Read in this way, the quoted form of a
text gives back the text and whatever stands behind it (`decode_encode`), so that no two texts share
a quoted form, and no two messages about different texts are the same (`Failure.Tells.text_eq`),
whichever number of marks is wanted. `refused_texts` says so of the readers of triads and of modes.
-/

namespace FileMode

/-! ### Digits of a numeral -/

namespace Radix

/-- The character of a digit is read as that digit, in every base that has the digit. -/
theorem digitValue?_digitChar {base d : Nat} (small : d < base) (known : base ≤ 16) :
    digitValue? base (digitChar d) = some d := by
  have each : ∀ e : Fin 16, ∀ b : Fin 17, e.val < b.val →
      digitValue? b (digitChar e) = some e.val := by decide
  exact each ⟨d, by omega⟩ ⟨base, by omega⟩ small

/-- The last digits of a number are read as its residue. -/
theorem exists_mapM_digitValue?_fixed {base : Nat} (positive : 0 < base) (known : base ≤ 16)
    (width n : Nat) : ∃ ds, (fixed base width n).mapM (digitValue? base) = some ds ∧
      ds.length = width ∧ ofDigits base ds = n % base ^ width := by
  induction width generalizing n with
  | zero => exact ⟨[], rfl, rfl, by rw [Nat.pow_zero, Nat.mod_one]; rfl⟩
  | succ width ih =>
      obtain ⟨ds, read, length, value⟩ := ih (n / base)
      have last := digitValue?_digitChar (Nat.mod_lt n positive) known
      refine ⟨ds ++ [n % base], ?_, ?_, ?_⟩
      · rw [fixed, List.mapM_append, read, List.mapM_cons, last, List.mapM_nil]
        rfl
      · rw [List.length_append, length, List.length_singleton]
      · unfold ofDigits at value ⊢
        rw [List.foldl_append, value, List.foldl_cons, List.foldl_nil, Nat.pow_succ', Nat.mod_mul,
          Nat.add_comm]

end Radix

/-- A number that is not too long is read from its hexadecimal digits, whatever follows them. -/
theorem Document.Flow.hexNumber?_fixed {width n : Nat} (short : n < 16 ^ width) (rest : List Char) :
    hexNumber? width (Radix.fixed 16 width n ++ rest) = some n := by
  obtain ⟨ds, read, length, value⟩ :=
    Radix.exists_mapM_digitValue?_fixed (by decide) (le_refl 16) width n
  rw [Nat.mod_eq_of_lt short] at value
  rw [hexNumber?, List.take_left' (Radix.length_fixed 16 width n), read]
  simp only [Option.bind_eq_bind, Option.bind_some, if_pos length, value]
  rfl

/-! ### Reading a quoted form -/

namespace Text.Quoted

open Document

/-- Reads what follows a backslash: the character that the escape stands for, and the number of
characters that it takes. The apostrophe is escaped as well; all other escapes are those of a
double-quoted scalar of a document. -/
def readEscape : List Char → Option (Char × Nat)
  | [] => none
  | mark :: cs =>
    if mark = apostrophe then some (apostrophe, 1)
    else match Flow.codeWidth? mark with
      | some width => (Flow.hexNumber? width cs).map fun n => (Char.ofNat n, width + 1)
      | none => (Flow.simpleEscape? mark).map fun c => (c, 1)

/-- Puts a character before a text that is read with what stands behind it. -/
def before (c : Char) (read : List Char × List Char) : List Char × List Char :=
  (c :: read.1, read.2)

/-- Reads a text up to `quote`, after `skip` more characters: the text, and what stands behind the
quote. -/
def readBody (quote : Char) : (skip : Nat) → List Char → Option (List Char × List Char)
  | _, [] => none
  | skip + 1, _ :: cs => readBody quote skip cs
  | 0, c :: cs =>
    if c = quote then some ([], cs)
    else if c = backslash then do
      let (value, taken) ← readEscape cs
      (readBody quote taken cs).map (before value)
    else (readBody quote 0 cs).map (before c)

/-- Reads a quoted form: the text, and what stands behind its quoted form. -/
def decode : List Char → Option (List Char × List Char)
  | [] => none
  | quote :: cs => readBody quote 0 cs

theorem readBody_skip (quote : Char) (taken rest : List Char) :
    readBody quote taken.length (taken ++ rest) = readBody quote 0 rest := by
  induction taken with
  | nil => rfl
  | cons c taken ih => exact ih

/-- An escape by code point is read as the character of the code point. -/
theorem readEscape_byCodePoint {mark c : Char} {width : Nat}
    (digits : Flow.codeWidth? mark = some width) (ordinary : mark ≠ apostrophe)
    (short : c.toNat < 16 ^ width) (rest : List Char) :
    readEscape (mark :: Radix.fixed 16 width c.toNat ++ rest) =
      some (c, (mark :: Radix.fixed 16 width c.toNat).length) := by
  rw [List.cons_append, readEscape, if_neg ordinary, digits, List.length_cons, Radix.length_fixed]
  simp only [Flow.hexNumber?_fixed short rest, Option.map_some, Char.ofNat_toNat]

/-- One of the two quotes that a text may stand between. -/
def IsQuote (q : Char) : Prop := q = apostrophe ∨ q = doubleQuote

theorem isQuote_quoteFor (s : List Char) : IsQuote (quoteFor s) := by
  unfold quoteFor
  split
  · exact .inr rfl
  · exact .inl rfl

section Escapes

variable {q c : Char} (quote : IsQuote q)

include quote

theorem IsQuote.ne_backslash : backslash ≠ q := by
  rcases quote with rfl | rfl
  · decide
  · decide

/-- An escape that is read as `c` adds `c` to the text. -/
theorem readBody_of_readEscape (written : List Char) {rest : List Char}
    (read : readEscape (written ++ rest) = some (c, written.length)) :
    readBody q 0 (backslash :: written ++ rest) = (readBody q 0 rest).map (before c) := by
  rw [List.cons_append, readBody, if_neg quote.ne_backslash, if_pos rfl, read]
  change (readBody q written.length (written ++ rest)).map (before c) = _
  rw [readBody_skip]

/-- The quote and the backslash are read as themselves behind a backslash. -/
theorem readEscape_special (special : c = q ∨ c = backslash) (rest : List Char) :
    readEscape (c :: rest) = some (c, 1) := by
  rcases special with rfl | rfl
  · rcases quote with rfl | rfl
    · rfl
    · rfl
  · rfl

/-- The written form of a character adds the character to the text. -/
theorem readBody_escape (rest : List Char) :
    readBody q 0 (escape q c ++ rest) = (readBody q 0 rest).map (before c) := by
  unfold escape
  split
  · rename_i special
    have either : c = q ∨ c = backslash := by simpa using special
    exact readBody_of_readEscape quote [c] (readEscape_special quote either rest)
  rename_i plain
  obtain ⟨notQuote, notBackslash⟩ : c ≠ q ∧ c ≠ backslash := by simpa using plain
  split
  · rename_i tab
    exact readBody_of_readEscape quote ['t'] (tab ▸ rfl)
  split
  · rename_i lineFeed
    exact readBody_of_readEscape quote ['n'] (lineFeed ▸ rfl)
  split
  · rename_i carriageReturn
    exact readBody_of_readEscape quote ['r'] (carriageReturn ▸ rfl)
  split
  · rw [List.singleton_append, readBody, if_neg notQuote, if_neg notBackslash]
  -- No character is left unless it is written by its code point, in as many digits as it needs.
  have valid : c.toNat < 0xd800 ∨ (0xdfff < c.toNat ∧ c.toNat < 0x110000) := c.valid
  split
  · rename_i low
    exact readBody_of_readEscape quote _ (readEscape_byCodePoint rfl (by decide) low rest)
  split
  · rename_i middle
    exact readBody_of_readEscape quote _ (readEscape_byCodePoint rfl (by decide) middle rest)
  · have short : c.toNat < 16 ^ 8 := by omega
    exact readBody_of_readEscape quote _ (readEscape_byCodePoint rfl (by decide) short rest)

theorem readBody_flatMap (s rest : List Char) :
    readBody q 0 (s.flatMap (escape q) ++ q :: rest) = some (s, rest) := by
  induction s with
  | nil => rw [List.flatMap_nil, List.nil_append, readBody, if_pos rfl]
  | cons c s ih =>
      rw [List.flatMap_cons, List.append_assoc, readBody_escape quote, ih]
      rfl

end Escapes

/-- A quoted form is read as its text, and what stands behind it is left. -/
theorem decode_encode (s rest : List Char) : decode (encode s ++ rest) = some (s, rest) := by
  have form : encode s ++ rest =
      quoteFor s :: (s.flatMap (escape (quoteFor s)) ++ quoteFor s :: rest) := by
    rw [encode, List.cons_append, List.cons_append, List.append_assoc, List.singleton_append]
  rw [form, decode, readBody_flatMap (isQuote_quoteFor s)]

/-- Quoted forms with something behind them are the same only if both parts are. -/
theorem eq_of_quote_append_eq {s t u v : String} (same : quote s ++ u = quote t ++ v) :
    s = t ∧ u = v := by
  have chars : encode s.toList ++ u.toList = encode t.toList ++ v.toList := by
    have lists := congrArg String.toList same
    simpa only [String.toList_append, quote, String.toList_ofList] using lists
  have read : some (s.toList, u.toList) = some (t.toList, v.toList) := by
    rw [← decode_encode, ← decode_encode, chars]
  obtain ⟨texts, behind⟩ := Prod.mk.inj (Option.some.inj read)
  exact ⟨String.toList_inj.mp texts, String.toList_inj.mp behind⟩

theorem quote_injective : Function.Injective quote := by
  intro s t same
  exact (eq_of_quote_append_eq (congrArg (· ++ "") same)).1

end Text.Quoted

/-! ### Messages -/

/-- A failure that tells of the refusal of `text`, where `count` marks are wanted: its message is
that of the catalog, with the text in its quoted form, whatever the text holds. -/
structure Failure.Tells (f : Failure) (text : String) (count : Nat) : Prop where
  category : f.category = .value
  rendered : Template.invalidDisplay.render [.text text, .int count] = .ok f.message
  message : f.message = "Invalid permission string " ++ Text.Quoted.quote text ++
    (", expected " ++ Radix.decimal count ++ " characters of r/w/x/-")

theorem tells_display (text : String) (count : Nat) :
    (Failure.display (.text text) count).Tells text count :=
  ⟨rfl, rfl, Mode.message_display text count⟩

/-- A message tells the text that it is about. -/
theorem Failure.Tells.text_eq {f g : Failure} {s t : String} {m n : Nat} (first : f.Tells s m)
    (second : g.Tells t n) (same : f.message = g.message) : s = t := by
  simp only [first.message, second.message, String.append_assoc, String.append_right_inj] at same
  exact (Text.Quoted.eq_of_quote_append_eq same).1

/-! ### Refusals -/

/-- A text among arguments of any kind is read as a triad in the same way. -/
theorem Triad.triadOfDisplay_text (text : String) :
    Argument.triadOfDisplay (.text text) =
      (parse text).mapError fun e => .display (.text e.text) e.expected := by
  change Argument.triadOfMembers (.text text) (Mode.characters text.toList) = _
  rw [Argument.triadOfMembers, Mode.mapM_char?_characters, Option.bind_some, parse]
  cases ofMarks? text.toList with
  | none => rfl
  | some t => rfl

theorem Triad.triadOfDisplay_eq_error_iff {text : String} {f : Failure} :
    Argument.triadOfDisplay (.text text) = .error f ↔
      ¬ IsDisplay 3 text.toList ∧ f = .display (.text text) 3 := by
  rw [triadOfDisplay_text]
  by_cases valid : IsDisplay 3 text.toList
  · obtain ⟨t, marks⟩ := isDisplay_iff_marks.mp valid
    rw [parse_eq_ok_iff.mpr marks]
    constructor
    · intro refused
      cases refused
    · rintro ⟨malformed, -⟩
      exact absurd valid malformed
  · have refused := parse_of_not_isDisplay valid
    rw [String.ofList_toList] at refused
    rw [refused, and_iff_right valid]
    exact ⟨fun same => (Except.error.inj same).symm, fun same => congrArg _ same.symm⟩

theorem Mode.modeOfDisplay_of_length_ne {text : String} (length : text.toList.length ≠ 9) :
    Argument.modeOfDisplay (.text text) = .error (.display (.text text) 9) := by
  rw [modeOfDisplay_text, parse_of_length_ne length]
  rfl

/-- **Refusals that tell which text was refused.** The quoted form of a text can be read again,
whatever follows it, so that different texts have different quoted forms. A text that shows no triad
is refused with a message that has the text in this form, as it stands, and so is one that has not
the length of a mode: the messages about two different texts differ. -/
theorem refused_texts (s t : String) :
    (∀ rest, Text.Quoted.decode ((Text.Quoted.quote s).toList ++ rest) = some (s.toList, rest)) ∧
    (Text.Quoted.quote s = Text.Quoted.quote t ↔ s = t) ∧
    ((∃ f, Argument.triadOfDisplay (.text s) = .error f) ↔ ¬ IsDisplay 3 s.toList) ∧
    (∀ f g, Argument.triadOfDisplay (.text s) = .error f →
      Argument.triadOfDisplay (.text t) = .error g →
      f.Tells s 3 ∧ g.Tells t 3 ∧ (s ≠ t → f.message ≠ g.message)) ∧
    (s.toList.length ≠ 9 → t.toList.length ≠ 9 →
      ∃ f g, Argument.modeOfDisplay (.text s) = .error f ∧
        Argument.modeOfDisplay (.text t) = .error g ∧
        f.Tells s 9 ∧ g.Tells t 9 ∧ (s ≠ t → f.message ≠ g.message)) := by
  refine ⟨?_, Text.Quoted.quote_injective.eq_iff, ?_, ?_, ?_⟩
  · intro rest
    rw [Text.Quoted.quote, String.toList_ofList, Text.Quoted.decode_encode]
  · simp only [Triad.triadOfDisplay_eq_error_iff, exists_and_left, exists_eq, and_true]
  · intro f g refused refused'
    obtain ⟨-, rfl⟩ := Triad.triadOfDisplay_eq_error_iff.mp refused
    obtain ⟨-, rfl⟩ := Triad.triadOfDisplay_eq_error_iff.mp refused'
    have first := tells_display s 3
    have second := tells_display t 3
    exact ⟨first, second, fun apart same => apart (first.text_eq second same)⟩
  · intro length length'
    have first := tells_display s 9
    have second := tells_display t 9
    exact ⟨_, _, Mode.modeOfDisplay_of_length_ne length, Mode.modeOfDisplay_of_length_ne length',
      first, second, fun apart same => apart (first.text_eq second same)⟩

/-- An escape that is typed is told apart from the character that it stands for, and a place of the
template that is typed stays as it is. -/
theorem refused_texts_bell :
    (∃ f g, Argument.triadOfDisplay (.text "\\x07") = .error f ∧
      Argument.triadOfDisplay (.text "\x07") = .error g ∧ f.message ≠ g.message) ∧
    ∃ f g, Argument.modeOfDisplay (.text "it's \x7b0\x7d") = .error f ∧
      Argument.modeOfDisplay (.text "it's \x7b1\x7d") = .error g ∧ f.message ≠ g.message := by
  obtain ⟨-, -, readable, told, -⟩ := refused_texts "\\x07" "\x07"
  obtain ⟨-, -, -, -, long⟩ := refused_texts "it's \x7b0\x7d" "it's \x7b1\x7d"
  obtain ⟨f, refused⟩ := readable.mpr (by decide)
  obtain ⟨g, refused'⟩ := (refused_texts "\x07" "\x07").2.2.1.mpr (by decide)
  obtain ⟨-, -, differ⟩ := told f g refused refused'
  obtain ⟨f', g', whole, whole', -, -, differ'⟩ := long (by decide) (by decide)
  exact ⟨⟨f, g, refused, refused', differ (by decide)⟩, f', g', whole, whole',
    differ' (by decide)⟩

end FileMode
