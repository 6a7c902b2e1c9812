import FileMode.Argument.Mode
import FileMode.Proofs.Digital
import Mathlib.Data.Nat.Find

/-!
The display form, read and shown.

`IsDisplay` says which texts are display forms by the mark at each place, without regard to how they
are read or made. Reading a triad undoes showing it and the other way round
(`ofMarks?_eq_some_iff`), and the same holds of modes (`parse_eq_ok_iff`), so that a text is read
exactly if it is what some mode shows. A text that is refused is quoted in the refusal: as a whole
if it has another length than a mode, and otherwise the first of its three parts that is no triad
(`parse_of_first_malformed`). `display_grammar` puts all of it together.
-/

namespace FileMode

/-- The letter that may stand at a place of a display form, counted from the start. -/
def letterAt (i : Nat) : Char :=
  match i % 3 with
  | 0 => 'r'
  | 1 => 'w'
  | _ => 'x'

/-- A text of a number of marks, each of which is a dash or the letter of its place. -/
structure IsDisplay (count : Nat) (cs : List Char) : Prop where
  length_eq : cs.length = count
  mark : ∀ i (inside : i < cs.length), cs[i] = '-' ∨ cs[i] = letterAt i

instance (count : Nat) (cs : List Char) : Decidable (IsDisplay count cs) :=
  decidable_of_iff (cs.length = count ∧
      ∀ i (inside : i < cs.length), cs[i] = '-' ∨ cs[i] = letterAt i)
    ⟨fun ⟨length, mark⟩ => ⟨length, mark⟩, fun ⟨length, mark⟩ => ⟨length, mark⟩⟩

theorem letterAt_add (k i : Nat) : letterAt (3 * k + i) = letterAt i := by
  rw [letterAt, letterAt, Nat.mul_add_mod]

theorem Right.letter_ne_dash (r : Right) : r.letter ≠ '-' := by
  cases r <;> decide

theorem Right.place_injective {r q : Right} (same : r.place = q.place) : r = q := by
  cases r <;> cases q <;> first | rfl | cases same

/-! ### Triads -/

namespace Triad

/-- The bit of a right that is added to a word is set, and the other bits stay. -/
theorem getLsbD_twoPow_or (r q : Right) (w : BitVec 3) :
    (BitVec.twoPow 3 r.place ||| w).getLsbD q.place = (decide (q = r) || w.getLsbD q.place) := by
  have place : r.place = q.place ↔ q = r :=
    ⟨fun same => (Right.place_injective same).symm, fun same => same ▸ rfl⟩
  rw [BitVec.getLsbD_or, BitVec.getLsbD_twoPow, decide_eq_true r.place_lt, Bool.true_and,
    decide_eq_decide.mpr place]

/-- Marks that are read are those that the word shows, and the word has no other rights. -/
theorem marks_of_wordOfMarks? {rights : List Right} {cs : List Char} {w : BitVec 3}
    (distinct : rights.Nodup) (read : wordOfMarks? rights cs = some w) :
    cs = rights.map (Triad.mk w).mark ∧ ∀ r ∉ rights, (Triad.mk w).grants r = false := by
  induction rights generalizing cs w with
  | nil =>
      cases cs with
      | nil =>
          cases read
          exact ⟨rfl, fun r _ => BitVec.getLsbD_zero⟩
      | cons c cs => cases read
  | cons r rights ih =>
      cases cs with
      | nil => cases read
      | cons c cs =>
          obtain ⟨fresh, distinct⟩ := List.nodup_cons.mp distinct
          simp only [wordOfMarks?] at read
          split at read
          · -- A letter: its right joins those of the marks behind it.
            rename_i letter
            obtain ⟨rest, readRest, rfl⟩ := Option.map_eq_some_iff.mp read
            obtain ⟨marks, others⟩ := ih distinct readRest
            have grants (q : Right) : (Triad.mk (BitVec.twoPow 3 r.place ||| rest)).grants q =
                (decide (q = r) || (Triad.mk rest).grants q) := getLsbD_twoPow_or r q rest
            constructor
            · rw [List.map_cons, mark, grants, decide_eq_true rfl, Bool.true_or, if_pos rfl, letter,
                marks]
              congr 1
              refine List.map_congr_left fun q member => ?_
              have apart : q ≠ r := fun same => fresh (same ▸ member)
              rw [mark, mark, grants, decide_eq_false apart, Bool.false_or]
            · intro q outside
              obtain ⟨apart, outside⟩ := not_or.mp (List.mem_cons.not.mp outside)
              rw [grants, decide_eq_false apart, Bool.false_or, others q outside]
          · split at read
            · -- A dash: the right is not among those of the marks behind it.
              rename_i dash
              obtain ⟨marks, others⟩ := ih distinct read
              refine ⟨?_, fun q outside => others q fun member =>
                outside (List.mem_cons_of_mem r member)⟩
              rw [List.map_cons, mark, others r fresh, dash, marks]
              rfl
            · cases read

/-- Marks are read whenever each is a dash or the letter of its right. -/
theorem exists_wordOfMarks? {rights : List Right} {cs : List Char}
    (valid : List.Forall₂ (fun r c => c = '-' ∨ c = Right.letter r) rights cs) :
    ∃ w, wordOfMarks? rights cs = some w := by
  induction valid with
  | nil => exact ⟨0, rfl⟩
  | @cons r c rights cs mark _ ih =>
      obtain ⟨w, read⟩ := ih
      by_cases letter : c = r.letter
      · exact ⟨BitVec.twoPow 3 r.place ||| w, by rw [wordOfMarks?, if_pos letter, read]; rfl⟩
      · have dash : c = '-' := mark.resolve_right letter
        exact ⟨w, by rw [wordOfMarks?, if_neg letter, if_pos dash, read]⟩

/-- A mark is a letter exactly where the right is held. -/
theorem mark_eq_dash_iff (t : Triad) (r : Right) : t.mark r = '-' ↔ t.grants r = false := by
  rw [mark]
  cases t.grants r with
  | true => simp [r.letter_ne_dash]
  | false => simp

theorem marks_injective {t u : Triad} (same : t.marks = u.marks) : t = u := by
  apply ext_grants
  intro r
  have mark : t.mark r = u.mark r := List.map_inj_left.mp same r (by cases r <;> decide)
  have dash := (t.mark_eq_dash_iff r).symm.trans (mark ▸ u.mark_eq_dash_iff r)
  cases held : u.grants r with
  | true =>
      exact Bool.eq_true_of_not_eq_false fun missing => absurd (dash.mp missing) (by simp [held])
  | false => exact dash.mpr held

theorem length_marks (t : Triad) : t.marks.length = 3 := rfl

theorem mark_valid (t : Triad) (r : Right) : t.mark r = '-' ∨ t.mark r = r.letter := by
  rw [mark]
  split
  · exact Or.inr rfl
  · exact Or.inl rfl

theorem marks_valid (t : Triad) :
    List.Forall₂ (fun r c => c = '-' ∨ c = Right.letter r) Right.all t.marks :=
  .cons (t.mark_valid _) (.cons (t.mark_valid _) (.cons (t.mark_valid _) .nil))

/-- Reading marks undoes showing them, and only what is shown is read. -/
theorem ofMarks?_eq_some_iff {cs : List Char} {t : Triad} :
    ofMarks? cs = some t ↔ cs = t.marks := by
  constructor
  · intro read
    obtain ⟨w, word, rfl⟩ := Option.map_eq_some_iff.mp read
    exact (marks_of_wordOfMarks? (by decide) word).1
  · rintro rfl
    obtain ⟨w, word⟩ := exists_wordOfMarks? t.marks_valid
    have shown : t.marks = (Triad.mk w).marks := (marks_of_wordOfMarks? (by decide) word).1
    rw [ofMarks?, word, marks_injective shown]
    rfl

/-- The display forms of triads are what triads show. -/
theorem isDisplay_iff_marks {cs : List Char} : IsDisplay 3 cs ↔ ∃ t : Triad, cs = t.marks := by
  constructor
  · rintro ⟨length, mark⟩
    match cs, length with
    | [a, b, c], _ =>
        have valid : List.Forall₂ (fun r c => c = '-' ∨ c = Right.letter r) Right.all [a, b, c] :=
          .cons (mark 0 (by simp)) (.cons (mark 1 (by simp)) (.cons (mark 2 (by simp)) .nil))
        obtain ⟨w, word⟩ := exists_wordOfMarks? valid
        exact ⟨⟨w⟩, (marks_of_wordOfMarks? (by decide) word).1⟩
  · rintro ⟨t, rfl⟩
    refine ⟨t.length_marks, fun i inside => ?_⟩
    match i, inside with
    | 0, _ => exact t.mark_valid .read
    | 1, _ => exact t.mark_valid .write
    | 2, _ => exact t.mark_valid .execute

/-- A text is read as the triad that shows it. -/
theorem parse_eq_ok_iff {text : String} {t : Triad} :
    parse text = .ok t ↔ text.toList = t.marks := by
  rw [← ofMarks?_eq_some_iff, parse]
  cases ofMarks? text.toList with
  | none => simp
  | some u => simp

theorem parse_display (t : Triad) : parse t.display = .ok t :=
  parse_eq_ok_iff.mpr String.toList_ofList

theorem parse_of_not_isDisplay {cs : List Char} (malformed : ¬ IsDisplay 3 cs) :
    parse (String.ofList cs) = .error ⟨String.ofList cs, markCount⟩ := by
  rw [parse, String.toList_ofList]
  cases read : ofMarks? cs with
  | none => rfl
  | some t => exact absurd (isDisplay_iff_marks.mpr ⟨t, ofMarks?_eq_some_iff.mp read⟩) malformed

end Triad

/-! ### Modes -/

namespace Mode

/-- The marks of the triad with the number `k` in a text. -/
def part (k : Nat) (cs : List Char) : List Char := (cs.drop (3 * k)).take 3

theorem getElem_part {k i : Nat} {cs : List Char} (inside : i < (part k cs).length) :
    ∃ reach : 3 * k + i < cs.length, (part k cs)[i] = cs[3 * k + i] := by
  have reach : 3 * k + i < cs.length := by
    simp only [part, List.length_take, List.length_drop] at inside
    omega
  exact ⟨reach, by simp [part]⟩

/-- A text of nine characters is a display form if its three parts are. -/
theorem isDisplay_iff_parts {cs : List Char} (length : cs.length = 9) :
    IsDisplay 9 cs ↔ ∀ k < 3, IsDisplay 3 (part k cs) := by
  constructor
  · intro valid k low
    refine ⟨?_, fun i inside => ?_⟩
    · simp only [part, List.length_take, List.length_drop]
      omega
    · obtain ⟨reach, same⟩ := getElem_part inside
      rw [same, ← letterAt_add k i]
      exact valid.mark (3 * k + i) reach
  · intro valid
    refine ⟨length, fun i inside => ?_⟩
    have low : i / 3 < 3 := by omega
    have place : i % 3 < (part (i / 3) cs).length := by
      rw [(valid _ low).length_eq]
      omega
    obtain ⟨reach, same⟩ := getElem_part place
    have mark := (valid _ low).mark (i % 3) place
    rw [same, ← letterAt_add (i / 3) (i % 3)] at mark
    simpa only [Nat.div_add_mod] using mark

theorem marks_eq (m : Mode) : m.marks = m.owner.marks ++ (m.group.marks ++ m.other.marks) := by
  simp [marks, UserClass.all, triad]

theorem length_marks (m : Mode) : m.marks.length = 9 := rfl

/-- The parts of a text of nine characters are read one after the other. -/
theorem parse_of_length {text : String} (length : text.toList.length = 9) :
    parse text = do
      let owner ← Triad.parse (String.ofList (part 0 text.toList))
      let group ← Triad.parse (String.ofList (part 1 text.toList))
      let other ← Triad.parse (String.ofList (part 2 text.toList))
      return ⟨owner, group, other⟩ := by
  have last : text.toList.drop 6 = part 2 text.toList :=
    (List.take_of_length_le (by rw [List.length_drop]; omega)).symm
  have whole : ¬ text.toList.length ≠ markCount := not_not.mpr length
  simp only [parse, if_neg whole, last]
  rfl

theorem parts_of_marks (m : Mode) :
    part 0 m.marks = m.owner.marks ∧ part 1 m.marks = m.group.marks ∧
      part 2 m.marks = m.other.marks :=
  ⟨rfl, rfl, rfl⟩

/-- A text of nine characters is its three parts in a row. -/
theorem append_parts {cs : List Char} (length : cs.length = 9) :
    part 0 cs ++ (part 1 cs ++ part 2 cs) = cs := by
  have last : part 2 cs = cs.drop 6 := List.take_of_length_le (by rw [List.length_drop]; omega)
  have middle : cs.drop 3 = part 1 cs ++ cs.drop 6 := by
    have split := (List.take_append_drop 3 (cs.drop 3)).symm
    rwa [List.drop_drop] at split
  rw [last, ← middle]
  exact List.take_append_drop 3 cs

/-- The display forms of modes are what modes show. -/
theorem isDisplay_iff_marks {cs : List Char} : IsDisplay 9 cs ↔ ∃ m : Mode, cs = m.marks := by
  constructor
  · intro valid
    have parts := (isDisplay_iff_parts valid.length_eq).mp valid
    obtain ⟨owner, ownerMarks⟩ := Triad.isDisplay_iff_marks.mp (parts 0 (by decide))
    obtain ⟨group, groupMarks⟩ := Triad.isDisplay_iff_marks.mp (parts 1 (by decide))
    obtain ⟨other, otherMarks⟩ := Triad.isDisplay_iff_marks.mp (parts 2 (by decide))
    refine ⟨⟨owner, group, other⟩, ?_⟩
    rw [marks_eq, ← ownerMarks, ← groupMarks, ← otherMarks, append_parts valid.length_eq]
  · rintro ⟨m, rfl⟩
    obtain ⟨owner, group, other⟩ := m.parts_of_marks
    refine (isDisplay_iff_parts m.length_marks).mpr fun k low => Triad.isDisplay_iff_marks.mpr ?_
    match k, low with
    | 0, _ => exact ⟨m.owner, owner⟩
    | 1, _ => exact ⟨m.group, group⟩
    | 2, _ => exact ⟨m.other, other⟩

/-- A mode is read from its marks. -/
theorem parse_of_marks {text : String} {m : Mode} (shown : text.toList = m.marks) :
    parse text = .ok m := by
  obtain ⟨owner, group, other⟩ := m.parts_of_marks
  rw [parse_of_length (by rw [shown, m.length_marks]), shown, owner, group, other]
  have read (t : Triad) : Triad.parse (String.ofList t.marks) = .ok t := t.parse_display
  rw [read, read, read]
  rfl

/-! ### Refusals -/

/-- A text of another length is refused as a whole. -/
theorem parse_of_length_ne {text : String} (length : text.toList.length ≠ 9) :
    parse text = .error ⟨text, 9⟩ :=
  if_pos length

/-- The first part of a text that is no triad is refused, whatever follows it. -/
theorem parse_of_first_malformed {text : String} (length : text.toList.length = 9) {k : Nat}
    (low : k < 3) (malformed : ¬ IsDisplay 3 (part k text.toList))
    (before : ∀ j < k, IsDisplay 3 (part j text.toList)) :
    parse text = .error ⟨String.ofList (part k text.toList), 3⟩ := by
  have refused := Triad.parse_of_not_isDisplay malformed
  have read : ∀ j < k, ∃ t, Triad.parse (String.ofList (part j text.toList)) = .ok t := by
    intro j earlier
    obtain ⟨t, marks⟩ := Triad.isDisplay_iff_marks.mp (before j earlier)
    exact ⟨t, by rw [marks]; exact t.parse_display⟩
  rw [parse_of_length length]
  obtain rfl | rfl | rfl : k = 0 ∨ k = 1 ∨ k = 2 := by omega
  · rw [refused]
    rfl
  · obtain ⟨owner, ownerRead⟩ := read 0 (by decide)
    rw [ownerRead, refused]
    rfl
  · obtain ⟨owner, ownerRead⟩ := read 0 (by decide)
    obtain ⟨group, groupRead⟩ := read 1 (by decide)
    rw [ownerRead, groupRead, refused]
    rfl

/-- A text of nine characters that is no display form has a first part that is no triad. -/
theorem exists_first_malformed {cs : List Char} (length : cs.length = 9)
    (malformed : ¬ IsDisplay 9 cs) :
    ∃ k < 3, ¬ IsDisplay 3 (part k cs) ∧ ∀ j < k, IsDisplay 3 (part j cs) := by
  have some : ∃ k, k < 3 ∧ ¬ IsDisplay 3 (part k cs) := by
    simpa [isDisplay_iff_parts length] using malformed
  obtain ⟨low, first⟩ := Nat.find_spec some
  refine ⟨Nat.find some, low, first, fun j earlier => ?_⟩
  by_contra other
  exact Nat.find_min some earlier ⟨earlier.trans low, other⟩

/-- Exactly the display forms are read. -/
theorem parse_eq_ok_iff {text : String} {m : Mode} :
    parse text = .ok m ↔ text.toList = m.marks := by
  refine ⟨fun read => ?_, parse_of_marks⟩
  by_cases length : text.toList.length = 9
  · by_cases valid : IsDisplay 9 text.toList
    · obtain ⟨n, marks⟩ := isDisplay_iff_marks.mp valid
      rw [parse_of_marks marks] at read
      cases read
      exact marks
    · obtain ⟨k, low, malformed, before⟩ := exists_first_malformed length valid
      rw [parse_of_first_malformed length low malformed before] at read
      cases read
  · rw [parse_of_length_ne length] at read
    cases read

/-! ### The number and the message of a text -/

/-- Each place of a display form shows a right of a class, at the bit that counts from the end. -/
theorem exists_mark (m : Mode) {i : Nat} (inside : i < m.marks.length) :
    ∃ (c : UserClass) (r : Right), 8 - i = c.shift + r.place ∧ m.marks[i] = (m.triad c).mark r := by
  match i, inside with
  | 0, _ => exact ⟨.owner, .read, rfl, rfl⟩
  | 1, _ => exact ⟨.owner, .write, rfl, rfl⟩
  | 2, _ => exact ⟨.owner, .execute, rfl, rfl⟩
  | 3, _ => exact ⟨.group, .read, rfl, rfl⟩
  | 4, _ => exact ⟨.group, .write, rfl, rfl⟩
  | 5, _ => exact ⟨.group, .execute, rfl, rfl⟩
  | 6, _ => exact ⟨.other, .read, rfl, rfl⟩
  | 7, _ => exact ⟨.other, .write, rfl, rfl⟩
  | 8, _ => exact ⟨.other, .execute, rfl, rfl⟩

/-- The digital form has a bit for each mark that is no dash. -/
theorem testBit_of_marks (m : Mode) {i : Nat} (inside : i < m.marks.length) :
    m.digital.testBit (8 - i) = decide (m.marks[i] ≠ '-') := by
  obtain ⟨c, r, bit, shown⟩ := m.exists_mark inside
  rw [Bool.eq_iff_iff, decide_eq_true_iff, bit, testBit_digital, shown, ne_eq,
    Triad.mark_eq_dash_iff, Bool.not_eq_false]

/-- The wording of a refusal quotes the text and tells the length that is wanted. -/
theorem message_display (text : String) (count : Nat) :
    (Failure.display (.text text) count).message =
      "Invalid permission string " ++ Text.Quoted.quote text ++
        (", expected " ++ Radix.decimal count ++ " characters of r/w/x/-") := by
  change Template.invalidDisplay.fill [.text text, .int count] = _
  simp [Template.fill, Template.invalidDisplay, Piece.fill, Value.plain, Value.quoted, String.join,
    String.append_assoc]

/-- A text is refused as `quoted`, where `count` marks are wanted: the refusal counts as that of a
value, and its wording quotes the text. -/
structure Refused (text quoted : String) (count : Nat) : Prop where
  parse_eq : parse text = .error ⟨quoted, count⟩
  category : (Failure.display (.text quoted) count).category = .value
  message : (Failure.display (.text quoted) count).message = "Invalid permission string " ++
    Text.Quoted.quote quoted ++ (", expected " ++ Radix.decimal count ++ " characters of r/w/x/-")

theorem Refused.of_parse_eq {text quoted : String} {count : Nat}
    (error : parse text = .error ⟨quoted, count⟩) : Refused text quoted count :=
  ⟨error, rfl, message_display quoted count⟩

/-! ### Texts among arguments of any kind -/

/-- The members by which a text is read among arguments of any kind: its characters. -/
def characters (cs : List Char) : List Value := cs.map fun c => .text (String.ofList [c])

theorem take_drop_characters (n k : Nat) (cs : List Char) :
    ((characters cs).drop n).take k = characters ((cs.drop n).take k) := by
  rw [characters, characters, List.map_take, List.map_drop]

theorem mapM_char?_characters (cs : List Char) :
    (characters cs).mapM Argument.char? = some cs := by
  induction cs with
  | nil => rfl
  | cons c cs ih =>
      have single : Argument.char? (.text (String.ofList [c])) = some c := by
        simp [Argument.char?]
      unfold characters at ih ⊢
      rw [List.map_cons, List.mapM_cons, single, ih]
      rfl

theorem join_characters (cs : List Char) :
    String.join ((characters cs).map Value.plain) = String.ofList cs := by
  induction cs with
  | nil => rfl
  | cons c cs ih =>
      unfold characters at ih ⊢
      rw [List.map_cons, List.map_cons, String.join_cons, ih, Value.plain, ← String.ofList_append]
      rfl

/-- A part of a text is read as a triad, or quoted. -/
theorem triad_of_characters (text : String) (cs : List Char) :
    (Argument.part (.text text) (characters cs) >>= fun v =>
        Argument.triadOfMembers v (characters cs)) =
      (Triad.parse (String.ofList cs)).mapError fun e => .display (.text e.text) e.expected := by
  change Argument.triadOfMembers (.text (String.join ((characters cs).map Value.plain))) _ = _
  rw [join_characters, Argument.triadOfMembers, mapM_char?_characters, Option.bind_some,
    Triad.parse, String.toList_ofList]
  cases Triad.ofMarks? cs with
  | none => rfl
  | some t => rfl

/-- A text among arguments of any kind is read in the same way. -/
theorem modeOfDisplay_text (text : String) :
    Argument.modeOfDisplay (.text text) =
      (parse text).mapError fun e => .display (.text e.text) e.expected := by
  have members : Argument.members (.text text) = .ok (characters text.toList) := rfl
  have count : (characters text.toList).length = text.toList.length := List.length_map _
  by_cases length : text.toList.length = 9
  · have whole : ¬ (characters text.toList).length ≠ markCount := by
      rw [count, length]
      decide
    rw [parse_of_length length]
    simp only [Argument.modeOfDisplay, members]
    change (if _ then _ else _) = _
    simp only [if_neg whole, take_drop_characters, triad_of_characters]
    change (do
      let owner ← (Triad.parse (String.ofList (part 0 text.toList))).mapError _
      let group ← (Triad.parse (String.ofList (part 1 text.toList))).mapError _
      let other ← (Triad.parse (String.ofList (part 2 text.toList))).mapError _
      return Mode.mk owner group other) = _
    cases Triad.parse (String.ofList (part 0 text.toList)) with
    | error e => rfl
    | ok owner =>
        cases Triad.parse (String.ofList (part 1 text.toList)) with
        | error e => rfl
        | ok group =>
            cases Triad.parse (String.ofList (part 2 text.toList)) with
            | error e => rfl
            | ok other => rfl
  · have other : (characters text.toList).length ≠ markCount := by
      rw [count]
      exact length
    rw [parse_of_length_ne length]
    simp only [Argument.modeOfDisplay, members]
    change (if _ then _ else _) = _
    rw [if_pos other]
    rfl

/-! ### Reading a text -/

/-- **The display form, read and shown.** Exactly the texts with a dash or its letter at each of
nine places are read, as the mode that they show: it is shown by the same text again, its number has
a bit for each mark that is no dash, and the text of any mode is read as that mode. A text of
another length is quoted as a whole in the refusal, and a text of nine characters by the first of
its three parts that is no triad. -/
theorem display_grammar (text : String) :
    Argument.modeOfDisplay (.text text) =
      (parse text).mapError (fun e => .display (.text e.text) e.expected) ∧
    ((∃ m, parse text = .ok m) ↔ IsDisplay 9 text.toList) ∧
    (∀ m, parse text = .ok m → m.display = text ∧ m.digital < 2 ^ 9 ∧
      ∀ i (inside : i < text.toList.length),
        m.digital.testBit (8 - i) = decide (text.toList[i] ≠ '-')) ∧
    (∀ n : Int, parse (Value.mode (ofDigital n)).plain = .ok (ofDigital n)) ∧
    (text.toList.length ≠ 9 → Refused text text 9) ∧
    (text.toList.length = 9 → ¬ IsDisplay 9 text.toList → ∃ k < 3,
      ¬ IsDisplay 3 (part k text.toList) ∧ (∀ j < k, IsDisplay 3 (part j text.toList)) ∧
      Refused text (String.ofList (part k text.toList)) 3) := by
  refine ⟨modeOfDisplay_text text, ⟨?_, ?_⟩, ?_, ?_, ?_, ?_⟩
  · rintro ⟨m, read⟩
    exact isDisplay_iff_marks.mpr ⟨m, parse_eq_ok_iff.mp read⟩
  · intro valid
    obtain ⟨m, marks⟩ := isDisplay_iff_marks.mp valid
    exact ⟨m, parse_of_marks marks⟩
  · intro m read
    have marks := parse_eq_ok_iff.mp read
    refine ⟨?_, m.digital_lt, ?_⟩
    · rw [display, ← marks, String.ofList_toList]
    · rw [marks]
      exact fun i inside => m.testBit_of_marks inside
  · intro n
    exact parse_of_marks String.toList_ofList
  · intro length
    exact .of_parse_eq (parse_of_length_ne length)
  · intro length malformed
    obtain ⟨k, low, first, before⟩ := exists_first_malformed length malformed
    exact ⟨k, low, first, before,
      .of_parse_eq (parse_of_first_malformed length low first before)⟩

/-- A letter in the place of another is refused with its own part alone, whatever stands behind
it. -/
theorem display_grammar_misplaced :
    (∃ m, parse "rw-r-x--x" = .ok m ∧ m.display = "rw-r-x--x" ∧ m.digital.testBit 5 = true) ∧
      parse "rwx-rw?--" = .error ⟨"-rw", 3⟩ ∧ parse "rwxrwxrw" = .error ⟨"rwxrwxrw", 9⟩ := by
  obtain ⟨-, readable, exact, -⟩ := display_grammar "rw-r-x--x"
  obtain ⟨-, -, -, -, -, refused⟩ := display_grammar "rwx-rw?--"
  obtain ⟨-, -, -, -, short, -⟩ := display_grammar "rwxrwxrw"
  obtain ⟨m, read⟩ := readable.mpr (by decide)
  obtain ⟨k, low, malformed, before, error⟩ := refused (by decide) (by decide)
  refine ⟨⟨m, read, (exact m read).1, (exact m read).2.2 3 (by decide)⟩, ?_,
    (short (by decide)).parse_eq⟩
  obtain rfl | rfl | rfl : k = 0 ∨ k = 1 ∨ k = 2 := by omega
  · exact absurd (by decide) malformed
  · exact error.parse_eq
  · exact absurd (before 1 (by decide)) (by decide)

end Mode

end FileMode
