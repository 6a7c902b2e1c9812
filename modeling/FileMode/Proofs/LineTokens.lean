import FileMode.Document.Tokens
import Mathlib.Data.List.TakeWhile

/-!
The tokens of lines of words.

A word that begins with a letter or a digit is a plain scalar wherever it stands outside flow
collections. A colon and a gap behind a word make it a key, and a key that is indented further than
all that is open has a block mapping opened in front of it (`read_key`). A word at the end of the
text, bare or between double quotes, is the last scalar (`read_lastWord`, `read_lastQuoted`), and
the end of the text closes all that is open (`read_nil`).
-/

namespace FileMode.Document

/-- Whether `c` stands for itself inside a scalar, bare or between double quotes, whatever follows
it. -/
def isOrdinary (c : Char) : Bool :=
  isAdmitted c && !isGap c && c ≠ byteOrderMark && c ≠ ':' && c ≠ '\x22' && c ≠ '\x5c'

/-- A word: ordinary characters, of which the first is a letter or a digit. -/
structure IsWord (w : List Char) : Prop where
  first : begins Char.isAlphanum w = true
  ordinary : w.all isOrdinary = true

/-- A word as it is written: between double quotes, or bare. -/
def written (quoted : Bool) (w : List Char) : List Char :=
  if quoted then '\x22' :: w ++ ['\x22'] else w

/-- The ends of a text behind its last word: none, and a line feed. -/
def ends : List (List Char) := [[], ['\n']]

/-! ### Characters -/

section Characters

variable {c : Char}

theorem isGap_of_isOrdinary (ordinary : isOrdinary c = true) : isGap c = false := by
  simp only [isOrdinary, Bool.and_eq_true, Bool.not_eq_true'] at ordinary
  exact ordinary.1.1.1.1.2

theorem isBreak_of_isGap (noGap : isGap c = false) : isBreak c = false := by
  simp only [isGap, Bool.or_eq_false_iff] at noGap
  exact noGap.2

theorem ne_of_isOrdinary (ordinary : isOrdinary c = true) :
    c ≠ byteOrderMark ∧ c ≠ ':' ∧ c ≠ '\x22' ∧ c ≠ '\x5c' := by
  simp only [isOrdinary, Bool.and_eq_true, decide_eq_true_eq] at ordinary
  exact ⟨ordinary.1.1.1.2, ordinary.1.1.2, ordinary.1.2, ordinary.2⟩

/-- A break of a line begins with a character that breaks lines. -/
theorem lineBreak?_of_isBreak (noBreak : isBreak c = false) (cs : List Char) :
    lineBreak? (c :: cs) = none := by
  unfold lineBreak?
  split
  · rename_i same
    cases same
    cases noBreak
  · rename_i same
    cases same
    simpa [isBreak] using noBreak
  · rfl

end Characters

/-! ### Scalars -/

/-- A word that a colon follows is read up to the colon. -/
theorem Plain.read_word_colon {w rest : List Char} (ordinary : w.all isOrdinary = true)
    (ends : endsOr isGap rest = true) (indent : Nat) :
    Plain.read false indent 0 false (w ++ ':' :: rest) = ⟨w, w.length, false⟩ := by
  induction w with
  | nil =>
      simp [Plain.read, endsRun, ends, gap, lineBreak?_of_isBreak (c := ':') rfl, Gap.passable]
  | cons c w ih =>
      simp only [List.all_cons, Bool.and_eq_true] at ordinary
      have noGap := isGap_of_isOrdinary ordinary.1
      obtain ⟨-, noColon, -⟩ := ne_of_isOrdinary ordinary.1
      rw [List.cons_append, Plain.read, ih ordinary.2]
      simp [endsRun, noGap, noColon, Plain.push]

/-- A word at the end of a text is read together with the end. -/
theorem Plain.read_word_end {w : List Char} (ordinary : w.all isOrdinary = true) {indent : Nat}
    (indented : 0 < indent) {back : List Char} (atEnd : back ∈ ends) :
    Plain.read false indent 0 false (w ++ back) =
      ⟨w, w.length + back.length, !back.isEmpty⟩ := by
  induction w with
  | nil =>
      simp only [ends, List.mem_cons, List.not_mem_nil, or_false] at atEnd
      rcases atEnd with rfl | rfl
      · rfl
      · have far : ¬ indent = 0 := by omega
        simp [Plain.read, endsRun, isGap, isSpaceOrTab, isBreak, breakValue?, gap, lineBreak?,
          BlankLines.read, BlankLines.none, Gap.passable, far]
  | cons c w ih =>
      simp only [List.all_cons, Bool.and_eq_true] at ordinary
      have noGap := isGap_of_isOrdinary ordinary.1
      obtain ⟨-, noColon, -⟩ := ne_of_isOrdinary ordinary.1
      rw [List.cons_append, Plain.read, ih ordinary.2]
      simp [endsRun, noGap, noColon, Plain.push]
      omega

/-- A word before a double quote is what stands between quotes. -/
theorem Flow.read_word {w : List Char} (ordinary : w.all isOrdinary = true) (rest : List Char) :
    Flow.read .double 0 (w ++ '\x22' :: rest) = .ok (w, w.length + 1) := by
  induction w with
  | nil => simp [Flow.read, Style.quote]
  | cons c w ih =>
      simp only [List.all_cons, Bool.and_eq_true] at ordinary
      have noGap := isGap_of_isOrdinary ordinary.1
      obtain ⟨-, -, noQuote, noEscape⟩ := ne_of_isOrdinary ordinary.1
      rw [List.cons_append, Flow.read, ih ordinary.2]
      simp [Style.quote, noQuote, noEscape, noGap, before, bind, Except.bind, pure, Except.pure]
      omega

/-! ### Places -/

def Place.along (p : Place) (n : Nat) : Place := ⟨p.index + n, p.line, p.column + n⟩

namespace Reader

/-- The state `n` characters further on the same line. -/
def along (r : Reader) (n : Nat) : Reader := { r with place := r.place.along n }

variable {r : Reader} {w rest : List Char}

theorem along_along (r : Reader) (m n : Nat) : (r.along m).along n = r.along (m + n) := by
  simp [along, Place.along, Nat.add_assoc]

theorem pass_of_ne {c : Char} (noBreak : isBreak c = false) (noMark : c ≠ byteOrderMark)
    (rest : List Char) : r.pass c rest = r.along 1 := by
  have noReturn : c ≠ '\r' := by
    rintro rfl
    cases noBreak
  simp [pass, Place.pass, along, Place.along, noReturn, noBreak, noMark]

theorem pass_of_isOrdinary {c : Char} (ordinary : isOrdinary c = true) (rest : List Char) :
    r.pass c rest = r.along 1 :=
  pass_of_ne (isBreak_of_isGap (isGap_of_isOrdinary ordinary)) (ne_of_isOrdinary ordinary).1 rest

/-- Characters of a word that belong to the token before only move the place. -/
theorem read_skip (ordinary : w.all isOrdinary = true) (r : Reader) (k : Nat) (rest : List Char) :
    r.read (w.length + k) (w ++ rest) = (r.along w.length).read k rest := by
  induction w generalizing r with
  | nil => simp [along, Place.along]
  | cons c w ih =>
      simp only [List.all_cons, Bool.and_eq_true] at ordinary
      rw [List.length_cons, Nat.add_right_comm, List.cons_append, read,
        pass_of_isOrdinary ordinary.1, ih ordinary.2, along_along, Nat.add_comm 1]

theorem read_space (r : Reader) (rest : List Char) :
    r.read 0 (' ' :: rest) = (r.along 1).read 0 rest := by
  rw [read, if_pos rfl, pass_of_ne rfl (by decide)]

/-- Spaces between tokens only move the place. -/
theorem read_spaces (r : Reader) (n : Nat) (rest : List Char) :
    r.read 0 (List.replicate n ' ' ++ rest) = (r.along n).read 0 rest := by
  induction n generalizing r with
  | zero => rfl
  | succ n ih =>
      rw [List.replicate_succ, List.cons_append, read_space, ih, along_along, Nat.add_comm 1]

/-- A token is read, and then what it does not take. -/
theorem read_token {c : Char} {next : Reader} {n : Nat} (noGap : isGap c = false)
    (noComment : c ≠ '#') (taken : r.token c rest = .ok (next, n)) :
    r.read 0 (c :: rest) = (next.pass c rest).read (n - 1) rest := by
  have noSpace : c ≠ ' ' := by
    rintro rfl
    cases noGap
  rw [read, if_neg noSpace, if_neg noComment]
  simp only [lineBreak?_of_isBreak (isBreak_of_isGap noGap), taken]

/-! ### States between tokens -/

/-- Outside flow collections, with all that is open at the place or left of it, and no key that
might still end. -/
structure Idle (r : Reader) : Prop where
  flow : r.flow = []
  outer : r.outer = none
  within : ∀ n ∈ r.indents, n ≤ r.place.column

/-- Before a token inside all that is open, nothing is closed, and no key is given up that may still
end. -/
theorem token_eq_dispatch (flow : r.flow = []) (fresh : fresh? r.place r.outer = r.outer)
    (within : ∀ n ∈ r.indents, n ≤ r.place.column) (c : Char) (rest : List Char) :
    r.token c rest = r.dispatch c rest := by
  have kept : (r.outer.any fun k => k.isStale r.place && k.required) = false := by
    cases same : r.outer with
    | none => rfl
    | some k =>
        rw [same, fresh?, Option.filter_eq_some_iff] at fresh
        simpa using fun stale => absurd stale (by simpa using fresh.2)
  have closed : r.indents.takeWhile (fun n => !decide (n ≤ r.place.column)) = [] := by
    cases same : r.indents with
    | nil => rfl
    | cons n ns => simp [within n (same ▸ List.mem_cons_self)]
  have unchanged : r.dropStale = .ok r := by
    obtain ⟨place, indents, inner, outer, allowed, ts, count⟩ := r
    cases flow
    simp only [dropStale, kept, fresh]
    rfl
  have nothing : r.closeDeeper r.place.column = r := by
    obtain ⟨place, indents, inner, outer, allowed, ts, count⟩ := r
    cases flow
    simp only [closeDeeper, closeBlocks, inFlow, closed]
    rfl
  simp only [Reader.token, unchanged, bind, Except.bind, nothing]

theorem Idle.token (idle : r.Idle) (c : Char) (rest : List Char) :
    r.token c rest = r.dispatch c rest :=
  token_eq_dispatch idle.flow (by rw [idle.outer]; rfl) idle.within c rest

/-- A letter or a digit begins a plain scalar. -/
theorem dispatch_of_isAlphanum {c : Char} (letter : c.isAlphanum = true) (noGap : isGap c = false)
    (rest : List Char) : r.dispatch c rest = r.plainScalar (c :: rest) := by
  have apart {d : Char} (mark : d.isAlphanum = false) : c ≠ d := by
    rintro rfl
    rw [mark] at letter
    cases letter
  have noIndicator : isIndicator c = false := by
    simp only [isIndicator, List.contains_eq_mem, decide_eq_false_iff_not]
    intro member
    have marks : ∀ d ∈ ['-', '?', ':', ',', '[', ']', '\x7b', '\x7d', '#', '&', '*', '!', '|', '>',
        '\x27', '\x22', '%', '@', '\x60'], d.isAlphanum = false := by
      simp only [List.forall_mem_cons, List.not_mem_nil, false_implies, implies_true, and_true]
      decide
    exact apart (marks c member) rfl
  have plain : r.mayBeginPlain c rest = true := by
    simp [mayBeginPlain, noGap, noIndicator]
  have noPoint : c ≠ '.' := apart rfl
  simp only [isIndicator] at noIndicator
  simp at noIndicator
  simp [dispatch, noIndicator, noPoint, plain]

/-! ### Words -/

/-- A word is read together with what the plain scalar takes behind it. -/
theorem read_word {next : Reader} {k : Nat} {broke : Bool} (word : IsWord w) (idle : r.Idle)
    (noted : r.noteCandidate = .ok next) (flow : next.flow = [])
    (taken : Plain.read false next.scalarIndent 0 false (w ++ rest) = ⟨w, w.length + k, broke⟩) :
    r.read 0 (w ++ rest) =
      (((next.allowKey broke).push (.scalar (String.ofList w) true)).along w.length).read k
        rest := by
  obtain ⟨first, ordinary⟩ := word
  cases w with
  | nil => cases first
  | cons c w =>
      have chars := ordinary
      simp only [List.all_cons, Bool.and_eq_true] at chars
      have noGap := isGap_of_isOrdinary chars.1
      have noComment : c ≠ '#' := by
        rintro rfl
        cases first
      have scalar : r.token c (w ++ rest) =
          .ok ((next.allowKey broke).push (.scalar (String.ofList (c :: w)) true),
            (c :: w).length + k) := by
        rw [List.cons_append] at taken
        simp only [idle.token, dispatch_of_isAlphanum first noGap, plainScalar, noted, inFlow, flow,
          List.isEmpty_nil, Bool.not_true, taken, bind, Except.bind, pure, Except.pure]
      have others : (c :: w).length + k - 1 = w.length + k := by
        rw [List.length_cons]
        omega
      rw [List.cons_append, read_token noGap noComment scalar, pass_of_isOrdinary chars.1, others,
        read_skip chars.2, along_along, List.length_cons, Nat.add_comm 1]

/-- The state behind a word that may be a key. -/
def afterWord (r : Reader) (w : List Char) : Reader :=
  { r with
    place := r.place.along w.length
    outer := some ⟨r.count, false, r.place⟩
    keyAllowed := false
    tokens := .scalar (String.ofList w) true :: r.tokens
    count := r.count + 1 }

/-- The state behind a key, its colon included, that opens a block mapping. -/
def afterKey (r : Reader) (w : List Char) : Reader :=
  { r with
    place := r.place.along (w.length + 1)
    indents := r.place.column :: r.indents
    outer := none
    keyAllowed := false
    tokens := .value :: .scalar (String.ofList w) true :: .key :: .blockMapping :: r.tokens
    count := r.count + 4 }

theorem isDeeper_of_forall {column : Nat} (left : ∀ n ∈ r.indents, n < column) :
    r.isDeeper column = true := by
  cases same : r.indents with
  | nil => simp [isDeeper, indent?, same]
  | cons n ns => simp [isDeeper, indent?, same, left n (same ▸ List.mem_cons_self)]

/-- Where a token is indented further than all that is open, it may begin a key, but need not. -/
theorem noteCandidate_of_left (flow : r.flow = []) (outer : r.outer = none)
    (allowed : r.keyAllowed = true) (left : ∀ n ∈ r.indents, n < r.place.column) :
    r.noteCandidate = .ok { r with outer := some ⟨r.count, false, r.place⟩ } := by
  have optional : (r.indents.head? = some r.place.column) = False := by
    rw [eq_iff_iff, iff_false]
    intro same
    exact Nat.lt_irrefl _ (left _ (List.mem_of_mem_head? same))
  obtain ⟨place, indents, _, _, _, ts, count⟩ := r
  cases flow
  cases outer
  cases allowed
  simp [noteCandidate, dropCandidate, candidate?, setCandidate, inFlow, indent?, optional, bind,
    Except.bind, pure, Except.pure]

/-- The colon of a word that has begun further right than all that is open. -/
theorem valueColon_afterWord (flow : r.flow = []) (left : ∀ n ∈ r.indents, n < r.place.column)
    (w : List Char) :
    (r.afterWord w).valueColon =
      .ok ({ r.afterKey w with place := (r.afterWord w).place }, 1) := by
  have deeper := isDeeper_of_forall left
  obtain ⟨place, indents, _, _, _, ts, count⟩ := r
  cases flow
  simp only [isDeeper, indent?] at deeper
  simp [afterWord, afterKey, valueColon, candidate?, setCandidate, markKey, inFlow, isDeeper,
    indent?, deeper, allowKey, push]

/-- **Keys.** A word that a colon and a gap follow is a key, and where it is indented further than
all that is open, it opens a block mapping. -/
theorem read_key (word : IsWord w) (short : w.length ≤ maxKeyLength) (flow : r.flow = [])
    (outer : r.outer = none) (allowed : r.keyAllowed = true)
    (left : ∀ n ∈ r.indents, n < r.place.column) (gap : endsOr isGap rest = true) :
    r.read 0 (w ++ ':' :: rest) = (r.afterKey w).read 0 rest := by
  have idle : r.Idle := ⟨flow, outer, fun n member => Nat.le_of_lt (left n member)⟩
  have noted := noteCandidate_of_left flow outer allowed left
  have fresh : fresh? (r.afterWord w).place (r.afterWord w).outer = (r.afterWord w).outer := by
    simp [afterWord, fresh?, Place.along, Candidate.isStale]
    omega
  have within : ∀ n ∈ (r.afterWord w).indents, n ≤ (r.afterWord w).place.column :=
    fun n member => Nat.le_add_right_of_le (idle.within n member)
  have colon : (r.afterWord w).token ':' rest =
      .ok ({ r.afterKey w with place := (r.afterWord w).place }, 1) := by
    have still : (r.afterWord w).flow = [] := flow
    rw [token_eq_dispatch still fresh within, ← valueColon_afterWord flow left]
    simp [dispatch, gap]
  calc r.read 0 (w ++ ':' :: rest)
    _ = (r.afterWord w).read 0 (':' :: rest) :=
        read_word (k := 0) word idle noted flow (Plain.read_word_colon word.ordinary gap _)
    _ = ({ r.afterKey w with place := (r.afterWord w).place }.pass ':' rest).read 0 rest :=
        read_token rfl (by decide) colon
    _ = (r.afterKey w).read 0 rest := by
        rw [pass_of_ne rfl (by decide)]
        rfl

/-! ### The last scalar -/

/-- After a line feed outside flow collections a key may begin. -/
theorem read_lineFeed (flow : r.flow = []) (rest : List Char) :
    r.read 0 ('\n' :: rest) =
      { r with place := ⟨r.place.index + 1, r.place.line + 1, 0⟩, keyAllowed := true }.read 0
        rest := by
  have feed : lineBreak? ('\n' :: rest) = some ('\n', 1) := rfl
  rw [read, if_neg (by decide), if_neg (by decide)]
  simp [feed, allowKey, pass, Place.pass, inFlow, flow, isBreak, breakValue?]

/-- The end of a text closes all that is open. -/
theorem read_nil (flow : r.flow = []) (outer : r.outer = none) (skip : Nat) :
    r.read skip [] =
      r.tokens.reverse ++ List.replicate r.indents.length .blockEnd ++ [.textEnd] := by
  have all : r.indents.takeWhile (fun _ => true) = r.indents :=
    List.takeWhile_eq_self_iff.mpr fun _ _ => rfl
  obtain ⟨place, indents, _, _, allowed, ts, count⟩ := r
  cases flow
  cases outer
  simp only at all
  simp [read, finish, dropStale, closeAll, closeBlocks, inFlow, dropCandidate, candidate?,
    setCandidate, fresh?, bind, Except.bind, pure, Except.pure, push, result, all]

/-- Where no key may begin, no place is noted. -/
theorem noteCandidate_of_not_allowed (banned : r.keyAllowed = false) : r.noteCandidate = .ok r := by
  simp [noteCandidate, banned]

/-- A word at the end of a text, inside of a block collection. -/
theorem read_lastWord {back : List Char} (word : IsWord w) (idle : r.Idle)
    (banned : r.keyAllowed = false) (inside : r.indents ≠ []) (atEnd : back ∈ ends) :
    r.read 0 (w ++ back) = r.tokens.reverse ++ .scalar (String.ofList w) true ::
      (List.replicate r.indents.length .blockEnd ++ [.textEnd]) := by
  have indented : 0 < r.scalarIndent := by
    obtain ⟨n, ns, same⟩ := List.exists_cons_of_ne_nil inside
    simp [scalarIndent, indent?, same]
  rw [read_word word idle (noteCandidate_of_not_allowed banned) idle.flow
    (Plain.read_word_end word.ordinary indented atEnd)]
  simp only [ends, List.mem_cons, List.not_mem_nil, or_false] at atEnd
  rcases atEnd with rfl | rfl
  · rw [List.length_nil, read_nil]
    · simp [along, push, allowKey]
    · exact idle.flow
    · exact idle.outer
  · rw [List.length_singleton, read, read_nil]
    · simp [along, push, allowKey, pass]
    · exact idle.flow
    · exact idle.outer

/-- The same word between double quotes. -/
theorem read_lastQuoted {back : List Char} (ordinary : w.all isOrdinary = true) (idle : r.Idle)
    (banned : r.keyAllowed = false) (atEnd : back ∈ ends) :
    r.read 0 ('\x22' :: w ++ '\x22' :: back) =
      r.tokens.reverse ++ .scalar (String.ofList w) false ::
        (List.replicate r.indents.length .blockEnd ++ [.textEnd]) := by
  have scalar : r.token '\x22' (w ++ '\x22' :: back) =
      .ok ((r.allowKey false).push (.scalar (String.ofList w) false), w.length + 1 + 1) := by
    rw [idle.token]
    simp [dispatch, flowScalar, noteCandidate_of_not_allowed banned, Flow.read_word ordinary, bind,
      Except.bind, pure, Except.pure]
  rw [List.cons_append, read_token rfl (by decide) scalar, pass_of_ne rfl (by decide),
    Nat.add_sub_cancel, read_skip ordinary, read, pass_of_ne rfl (by decide)]
  simp only [ends, List.mem_cons, List.not_mem_nil, or_false] at atEnd
  rcases atEnd with rfl | rfl
  · rw [read_nil]
    · simp [along, push, allowKey]
    · exact idle.flow
    · exact idle.outer
  · rw [read_lineFeed, read_nil]
    · simp [along, push, allowKey]
    · exact idle.flow
    · exact idle.outer
    · exact idle.flow

/-- The last word of a text, bare or quoted. -/
theorem read_last {quoted : Bool} {back : List Char} (word : IsWord w) (idle : r.Idle)
    (banned : r.keyAllowed = false) (inside : r.indents ≠ []) (atEnd : back ∈ ends) :
    r.read 0 (written quoted w ++ back) = r.tokens.reverse ++ .scalar (String.ofList w) (!quoted) ::
      (List.replicate r.indents.length .blockEnd ++ [.textEnd]) := by
  cases quoted with
  | false => exact read_lastWord word idle banned inside atEnd
  | true =>
      rw [written, if_pos rfl, List.append_assoc]
      exact read_lastQuoted word.ordinary idle banned atEnd

theorem Idle.along (idle : r.Idle) (n : Nat) : (r.along n).Idle where
  flow := idle.flow
  outer := idle.outer
  within m member := Nat.le_add_right_of_le (idle.within m member)

theorem idle_afterKey (flow : r.flow = []) (left : ∀ n ∈ r.indents, n < r.place.column)
    (w : List Char) : (r.afterKey w).Idle where
  flow := flow
  outer := rfl
  within := by
    intro n member
    simp only [afterKey, Place.along, List.mem_cons] at member ⊢
    rcases member with rfl | member
    · omega
    · have := left n member
      omega

end Reader

/-! ### Documents of one line -/

theorem isAdmitted_of_isWord {w : List Char} (word : IsWord w) : ∀ c ∈ w, isAdmitted c = true := by
  intro c member
  have ordinary := List.all_eq_true.mp word.ordinary c member
  simp only [isOrdinary, Bool.and_eq_true] at ordinary
  exact ordinary.1.1.1.1.1

theorem isAdmitted_of_mem_written {quoted : Bool} {w : List Char} (word : IsWord w) :
    ∀ c ∈ written quoted w, isAdmitted c = true := by
  intro c member
  cases quoted with
  | false => exact isAdmitted_of_isWord word c member
  | true =>
      simp only [written, if_true, List.cons_append, List.mem_cons, List.mem_append,
        List.not_mem_nil, or_false] at member
      rcases member with rfl | member | rfl
      · rfl
      · exact isAdmitted_of_isWord word c member
      · rfl

theorem isAdmitted_of_mem_ends {back : List Char} (atEnd : back ∈ ends) :
    ∀ c ∈ back, isAdmitted c = true := by
  simp only [ends, List.mem_cons, List.not_mem_nil, or_false] at atEnd
  rcases atEnd with rfl | rfl <;> simp [isAdmitted]

/-- A text of characters that a document may hold is read from its start on, if it begins with a
word. -/
theorem tokens_of_isWord {w rest : List Char} (word : IsWord w)
    (admitted : ∀ c ∈ rest, isAdmitted c = true) :
    tokens (w ++ rest) = Reader.start.read 0 (w ++ rest) := by
  have all : (w ++ rest).all isAdmitted = true :=
    List.all_eq_true.mpr fun c member =>
      (List.mem_append.mp member).elim (isAdmitted_of_isWord word c) (admitted c)
  cases w with
  | nil => cases word.first
  | cons c w =>
      have noMark : c ≠ byteOrderMark :=
        (ne_of_isOrdinary (List.all_eq_true.mp word.ordinary c List.mem_cons_self)).1
      unfold tokens
      rw [if_pos all]
      simp only [List.cons_append, if_neg noMark]

/-- The tokens of a mapping of one key with a scalar. -/
def lineTokens (key w : String) (plain : Bool) : List Token :=
  [.blockMapping, .key, .scalar key true, .value, .scalar w plain, .blockEnd, .textEnd]

/-- The tokens of a line with a key and a word. -/
theorem tokens_line {key w back : List Char} {quoted : Bool} (keyWord : IsWord key)
    (short : key.length ≤ maxKeyLength) (word : IsWord w) (atEnd : back ∈ ends) :
    tokens (key ++ ':' :: ' ' :: (written quoted w ++ back)) =
      lineTokens (String.ofList key) (String.ofList w) (!quoted) := by
  have admitted : ∀ c ∈ ':' :: ' ' :: (written quoted w ++ back), isAdmitted c = true := by
    simp only [List.forall_mem_cons, List.forall_mem_append]
    exact ⟨rfl, rfl, isAdmitted_of_mem_written word, isAdmitted_of_mem_ends atEnd⟩
  have idle := Reader.idle_afterKey (r := Reader.start) rfl (by simp [Reader.start]) key
  rw [tokens_of_isWord keyWord admitted,
    Reader.read_key keyWord short rfl rfl rfl (by simp [Reader.start]) rfl, Reader.read_space,
    Reader.read_last word (idle.along 1) rfl (List.cons_ne_nil _ _) atEnd]
  rfl

end FileMode.Document
