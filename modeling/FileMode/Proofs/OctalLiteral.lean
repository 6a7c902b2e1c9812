import FileMode.Number.Literal
import FileMode.Proofs.UmaskText
import Mathlib.Data.List.TakeWhile

/-!
Integer literals in base eight, over texts of ASCII characters.

`OctalLiteral` lists the parts of a literal in the order in which they are written, without regard
to how a text is read: blanks, a sign, an announcement of the base, groups of digits with an
underscore between any two, and blanks again. The reader takes a text apart from the outside to the
inside, and the lemmas go the other way: `digits?_eq_some_iff` for the groups,
`magnitude_eq_ok_iff` for the announcement in front of them, and `integer_eq_ok_iff` for whole
texts, of which exactly those of literals are read.
-/

namespace FileMode

/-- What holds of each character of a text is decided by going through the text, and not through all
characters there are. -/
instance (priority := 2000) decidableForallText {P : Char → Prop} [DecidablePred P]
    (cs : List Char) : Decidable (∀ c ∈ cs, P c) :=
  List.decidableBAll P cs

/-! ### Literals -/

def IsOctalDigit (d : Char) : Prop := '0' ≤ d ∧ d ≤ '7'

instance (d : Char) : Decidable (IsOctalDigit d) := inferInstanceAs (Decidable (_ ∧ _))

/-- Groups of digits: at least one group, and at least one digit in each. -/
structure OctalGroups (groups : List (List Char)) : Prop where
  ne_nil : groups ≠ []
  group_ne_nil : ∀ g ∈ groups, g ≠ []
  digit : ∀ g ∈ groups, ∀ d ∈ g, IsOctalDigit d

namespace OctalLiteral

def blanks : List Char := [' ', '\t', '\n', '\x0b', '\x0c', '\r']

/-- The signs that may stand in front of a literal, and none. -/
def signs : List (List Char) := [[], ['+'], ['-']]

/-- The ways to announce base eight in front of the digits, and none. -/
def announcements : List (List Char) :=
  [[], ['0', 'o'], ['0', 'O'], ['0', 'o', '_'], ['0', 'O', '_']]

end OctalLiteral

open OctalLiteral in
/-- An integer literal in base eight, by its parts. -/
structure OctalLiteral where
  front : List Char
  sign : List Char
  announcement : List Char
  groups : List (List Char)
  back : List Char
  front_blank : ∀ c ∈ front, c ∈ blanks
  sign_mem : sign ∈ signs
  announcement_mem : announcement ∈ announcements
  grouped : OctalGroups groups
  back_blank : ∀ c ∈ back, c ∈ blanks

namespace OctalLiteral

variable (l : OctalLiteral)

/-- The digits of a literal as they are written, with an underscore between any two groups. -/
def written : List Char := ['_'].intercalate l.groups

/-- The text of a literal without the blanks around it. -/
def body : List Char := l.sign ++ (l.announcement ++ l.written)

def chars : List Char := l.front ++ l.body ++ l.back

def digits : List Char := l.groups.flatten

def value : Int :=
  if l.sign = ['-'] then -(Umask.reading l.digits : Int) else Umask.reading l.digits

end OctalLiteral

/-! ### Digits and their groups -/

theorem mem_of_toNat_mem {c : Char} {cs : List Char} (code : c.toNat ∈ cs.map Char.toNat) :
    c ∈ cs := by
  obtain ⟨d, member, same⟩ := List.mem_map.mp code
  exact Char.toNat_inj.mp same ▸ member

def octalDigits : List Char := ['0', '1', '2', '3', '4', '5', '6', '7']

theorem IsOctalDigit.mem {d : Char} (digit : IsOctalDigit d) : d ∈ octalDigits := by
  have codes : ∀ n ≤ 55, 48 ≤ n → n ∈ octalDigits.map Char.toNat := by decide
  exact mem_of_toNat_mem (codes d.toNat digit.2 digit.1)

theorem IsOctalDigit.isDigit {d : Char} (digit : IsOctalDigit d) : Umask.IsDigit d :=
  ⟨digit.1, Char.le_trans digit.2 (by decide)⟩

namespace OctalGroups

variable {c : Char} {g : List Char} {groups : List (List Char)}

theorem single (nonempty : g ≠ []) (digit : ∀ d ∈ g, IsOctalDigit d) : OctalGroups [g] where
  ne_nil := List.cons_ne_nil g []
  group_ne_nil := by simpa using nonempty
  digit := by simpa using digit

/-- A digit in front of an underscore is a group of its own. -/
theorem cons (digit : IsOctalDigit c) (grouped : OctalGroups groups) :
    OctalGroups ([c] :: groups) where
  ne_nil := List.cons_ne_nil [c] groups
  group_ne_nil := List.forall_mem_cons.mpr ⟨List.cons_ne_nil c [], grouped.group_ne_nil⟩
  digit := List.forall_mem_cons.mpr ⟨by simpa using digit, grouped.digit⟩

/-- A digit in front of another joins its group. -/
theorem push (digit : IsOctalDigit c) (grouped : OctalGroups (g :: groups)) :
    OctalGroups ((c :: g) :: groups) where
  ne_nil := List.cons_ne_nil (c :: g) groups
  group_ne_nil := List.forall_mem_cons.mpr
    ⟨List.cons_ne_nil c g, (List.forall_mem_cons.mp grouped.group_ne_nil).2⟩
  digit := by
    obtain ⟨first, others⟩ := List.forall_mem_cons.mp grouped.digit
    exact List.forall_mem_cons.mpr ⟨List.forall_mem_cons.mpr ⟨digit, first⟩, others⟩

theorem tail (grouped : OctalGroups (g :: groups)) (nonempty : groups ≠ []) :
    OctalGroups groups where
  ne_nil := nonempty
  group_ne_nil := (List.forall_mem_cons.mp grouped.group_ne_nil).2
  digit := (List.forall_mem_cons.mp grouped.digit).2

theorem mem_intercalate (grouped : OctalGroups groups) (member : c ∈ ['_'].intercalate groups) :
    c = '_' ∨ IsOctalDigit c := by
  induction groups with
  | nil => cases member
  | cons g groups ih =>
      have digit := grouped.digit g List.mem_cons_self
      cases groups with
      | nil =>
          rw [List.intercalate_singleton] at member
          exact .inr (digit c member)
      | cons h groups =>
          rw [List.intercalate_cons_cons, List.mem_append, List.mem_append] at member
          rcases member with (inGroup | between) | behind
          · exact .inr (digit c inGroup)
          · exact .inl (List.mem_singleton.mp between)
          · exact ih (grouped.tail (List.cons_ne_nil h groups)) behind

/-- A digit stands first. -/
theorem exists_cons (grouped : OctalGroups groups) :
    ∃ d cs, ['_'].intercalate groups = d :: cs ∧ IsOctalDigit d := by
  obtain ⟨g, groups, rfl⟩ := List.exists_cons_of_ne_nil grouped.ne_nil
  obtain ⟨d, g, rfl⟩ := List.exists_cons_of_ne_nil (grouped.group_ne_nil g List.mem_cons_self)
  have digit := grouped.digit (d :: g) List.mem_cons_self d List.mem_cons_self
  exact ⟨d, _, List.intercalate_cons_cons_left, digit⟩

end OctalGroups

namespace Literal

open OctalLiteral

def octalValue (d : Char) : Nat := d.toNat - '0'.toNat

theorem digitValue?_eight {c : Char} {d : Nat} :
    Radix.digitValue? 8 c = some d ↔ IsOctalDigit c ∧ d = octalValue c := by
  have octal : IsOctalDigit c ↔ 48 ≤ c.toNat ∧ c.toNat ≤ 55 := Iff.rfl
  have zero : '0'.toNat = 48 := rfl
  rw [octal, octalValue, zero, Radix.digitValue?, Option.filter_eq_some_iff]
  simp only [Bool.and_eq_true, decide_eq_true_eq]
  -- A letter has a value beyond seven.
  split
  · rw [Option.some.injEq]
    omega
  · split
    · rw [Option.some.injEq]
      omega
    · split
      · rw [Option.some.injEq]
        omega
      · simp only [reduceCtorEq, false_and, false_iff]
        omega

end Literal

/-- Digits that come first stand for the higher powers of the base. -/
theorem Radix.ofDigits_eq (base : Nat) (ds : List Nat) :
    Radix.ofDigits base ds = Nat.ofDigits base ds.reverse := by
  have step : (fun x y : Nat => y + base * x) = fun x y => base * x + y :=
    funext fun x => funext fun y => Nat.add_comm _ _
  rw [Nat.ofDigits_eq_foldr, List.foldr_reverse]
  simp only [Nat.cast_id]
  rw [step]
  rfl

namespace Literal

open OctalLiteral

/-- The values of digits denote the reading of the digits. -/
theorem ofDigits_octalValue (digits : List Char) :
    Radix.ofDigits 8 (digits.map octalValue) = Umask.reading digits := by
  rw [Umask.reading, List.map_reverse, Radix.ofDigits_eq]
  rfl

/-- A group of digits ends with the text, or at an underscore behind which other digits are read. -/
theorem digits?_append {base : Nat} {g rest : List Char} {ds : List Nat} (nonempty : g ≠ [])
    (digit : ∀ d ∈ g, Radix.digitValue? base d = some (octalValue d)) (solid : '_' ∉ g)
    (after : (rest = [] ∧ ds = []) ∨ ∃ cs, rest = '_' :: cs ∧ digits? base cs = some ds) :
    digits? base (g ++ rest) = some (g.map octalValue ++ ds) := by
  induction g with
  | nil => exact absurd rfl nonempty
  | cons d g ih =>
      obtain ⟨first, others⟩ := List.forall_mem_cons.mp digit
      cases g with
      | nil =>
          rcases after with ⟨rfl, rfl⟩ | ⟨cs, rfl, read⟩
          · simp [digits?, first]
          · simp [digits?, first, read]
      | cons e g =>
          have read := ih (List.cons_ne_nil e g) others (List.not_mem_of_not_mem_cons solid)
          have apart : e ≠ '_' := by
            rintro rfl
            exact solid (by simp)
          simp only [List.cons_append] at read ⊢
          rw [digits?, first, read]
          · rfl
          · simp
          · intro cs same
            cases same
            exact apart rfl

/-- Digits in groups are read one group after the other. -/
theorem digits?_of_groups {groups : List (List Char)} (grouped : OctalGroups groups) :
    digits? 8 (['_'].intercalate groups) = some (groups.flatten.map octalValue) := by
  induction groups with
  | nil => exact absurd rfl grouped.ne_nil
  | cons g groups ih =>
      have nonempty := grouped.group_ne_nil g List.mem_cons_self
      have octal := grouped.digit g List.mem_cons_self
      have digit : ∀ d ∈ g, Radix.digitValue? 8 d = some (octalValue d) :=
        fun d member => digitValue?_eight.mpr ⟨octal d member, rfl⟩
      have solid : '_' ∉ g := fun member => absurd (octal '_' member) (by decide)
      cases groups with
      | nil =>
          have read : digits? 8 (g ++ []) = some (g.map octalValue ++ []) :=
            digits?_append nonempty digit solid (.inl ⟨rfl, rfl⟩)
          simpa using read
      | cons h groups =>
          have rest := ih (grouped.tail (List.cons_ne_nil h groups))
          have read := digits?_append nonempty digit solid (.inr ⟨_, rfl, rest⟩)
          rw [List.intercalate_cons_cons, List.append_assoc, List.flatten_cons, List.map_append]
          exact read

/-- What is read of a text that goes on behind its first character. -/
theorem digit_cons_eq_some {c : Char} {others : Option (List Nat)} {ds : List Nat}
    (read : (do
      let d ← Radix.digitValue? 8 c
      let es ← others
      return d :: es) = some ds) :
    IsOctalDigit c ∧ ∃ es, others = some es ∧ ds = octalValue c :: es := by
  obtain ⟨d, first, rest⟩ := Option.bind_eq_some_iff.mp read
  obtain ⟨es, readOthers, same⟩ := Option.bind_eq_some_iff.mp rest
  obtain ⟨digit, rfl⟩ := digitValue?_eight.mp first
  cases same
  exact ⟨digit, es, readOthers, rfl⟩

/-- Exactly the digits in groups are read, with single underscores between the groups. -/
theorem digits?_eq_some_iff {cs : List Char} {ds : List Nat} :
    digits? 8 cs = some ds ↔ ∃ groups, OctalGroups groups ∧ cs = ['_'].intercalate groups ∧
      ds = groups.flatten.map octalValue := by
  refine ⟨fun read => ?_, ?_⟩
  · fun_induction digits? 8 cs generalizing ds with
    | case1 => cases read
    | case2 c =>
        obtain ⟨d, first, rfl⟩ := Option.map_eq_some_iff.mp read
        obtain ⟨digit, rfl⟩ := digitValue?_eight.mp first
        exact ⟨[[c]], .single (List.cons_ne_nil c []) (by simpa using digit), by simp, rfl⟩
    | case3 c cs ih =>
        obtain ⟨digit, es, others, rfl⟩ := digit_cons_eq_some read
        obtain ⟨groups, grouped, rfl, rfl⟩ := ih others
        refine ⟨[c] :: groups, grouped.cons digit, ?_, rfl⟩
        rw [List.intercalate_cons_of_ne_nil grouped.ne_nil]
        rfl
    | case4 c cs _ _ ih =>
        obtain ⟨digit, es, others, rfl⟩ := digit_cons_eq_some read
        obtain ⟨groups, grouped, rfl, rfl⟩ := ih others
        obtain ⟨g, groups, rfl⟩ := List.exists_cons_of_ne_nil grouped.ne_nil
        exact ⟨(c :: g) :: groups, grouped.push digit, List.intercalate_cons_cons_left.symm, rfl⟩
  · rintro ⟨groups, grouped, rfl, rfl⟩
    exact digits?_of_groups grouped

/-! ### The announcement of the base -/

/-- What stands in front of the rest is an announcement. -/
theorem exists_announcement (cs : List Char) :
    ∃ announcement ∈ announcements, cs = announcement ++ dropAnnouncement 8 cs := by
  unfold dropAnnouncement
  split
  · rename_i c cs
    split
    · rename_i announced
      have letter : c = 'o' ∨ c = 'O' := by simpa [announces] using announced
      split
      · rcases letter with rfl | rfl
        · exact ⟨['0', 'o', '_'], by decide, rfl⟩
        · exact ⟨['0', 'O', '_'], by decide, rfl⟩
      · rcases letter with rfl | rfl
        · exact ⟨['0', 'o'], by decide, rfl⟩
        · exact ⟨['0', 'O'], by decide, rfl⟩
    · exact ⟨[], by decide, rfl⟩
  · exact ⟨[], by decide, rfl⟩

/-- No announcement is seen where neither of its letters stands. -/
theorem dropAnnouncement_of_forall {cs : List Char} (plain : ∀ c ∈ cs, announces 8 c = false) :
    dropAnnouncement 8 cs = cs := by
  unfold dropAnnouncement
  split
  · rename_i c cs
    rw [plain c (by simp)]
    rfl
  · rfl

/-- An announcement is dropped from in front of digits. -/
theorem dropAnnouncement_append {announcement : List Char} {groups : List (List Char)}
    (announced : announcement ∈ announcements) (grouped : OctalGroups groups) :
    dropAnnouncement 8 (announcement ++ ['_'].intercalate groups) = ['_'].intercalate groups := by
  obtain ⟨d, cs, first, digit⟩ := grouped.exists_cons
  have apart : d ≠ '_' := by
    rintro rfl
    exact absurd digit (by decide)
  -- No underscore follows the letter that could be dropped along with it.
  have letter (c : Char) (announces : announces 8 c = true) :
      dropAnnouncement 8 ('0' :: c :: d :: cs) = d :: cs := by
    simp [dropAnnouncement, announces, apart]
  simp only [announcements, List.mem_cons, List.not_mem_nil, or_false] at announced
  rcases announced with rfl | rfl | rfl | rfl | rfl
  · refine dropAnnouncement_of_forall fun c member => ?_
    rcases grouped.mem_intercalate member with rfl | digit
    · rfl
    · exact (by decide : ∀ d ∈ octalDigits, announces 8 d = false) c digit.mem
  · rw [first]
    exact letter 'o' rfl
  · rw [first]
    exact letter 'O' rfl
  · rfl
  · rfl

/-- Exactly the digits in groups are read, behind an announcement or without one. -/
theorem magnitude_eq_ok_iff {cs : List Char} {n : Nat} :
    magnitude 8 cs = .ok n ↔ ∃ announcement ∈ announcements, ∃ groups, OctalGroups groups ∧
      cs = announcement ++ ['_'].intercalate groups ∧ n = Umask.reading groups.flatten := by
  have outcome : magnitude 8 cs = .ok n ↔
      ∃ ds, digits? 8 (dropAnnouncement 8 cs) = some ds ∧ n = Radix.ofDigits 8 ds := by
    unfold magnitude
    cases digits? 8 (dropAnnouncement 8 cs) with
    | none => simp
    | some ds => simp [eq_comm]
  rw [outcome]
  constructor
  · rintro ⟨ds, read, rfl⟩
    obtain ⟨groups, grouped, rest, rfl⟩ := digits?_eq_some_iff.mp read
    obtain ⟨announcement, announced, parts⟩ := exists_announcement cs
    exact ⟨announcement, announced, groups, grouped, rest ▸ parts, ofDigits_octalValue _⟩
  · rintro ⟨announcement, announced, groups, grouped, rfl, rfl⟩
    rw [dropAnnouncement_append announced grouped]
    exact ⟨_, digits?_of_groups grouped, (ofDigits_octalValue _).symm⟩

/-! ### The sign and the blanks -/

theorem exists_sign (cs : List Char) :
    ∃ sign ∈ signs, cs = sign ++ (splitSign cs).2 ∧ (splitSign cs).1 = decide (sign = ['-']) := by
  unfold splitSign
  split
  · exact ⟨['-'], by decide, rfl, rfl⟩
  · exact ⟨['+'], by decide, rfl, rfl⟩
  · exact ⟨[], by decide, rfl, rfl⟩

/-- A sign is split off from what does not begin with another. -/
theorem splitSign_append {sign : List Char} {c : Char} {cs : List Char} (signed : sign ∈ signs)
    (unsigned : c ≠ '+' ∧ c ≠ '-') :
    splitSign (sign ++ c :: cs) = (decide (sign = ['-']), c :: cs) := by
  simp only [signs, List.mem_cons, List.not_mem_nil, or_false] at signed
  rcases signed with rfl | rfl | rfl
  · simp [splitSign, unsigned]
  · rfl
  · rfl

theorem isBlank_iff (c : Char) : Text.isBlank c = true ↔ c ∈ blanks := by
  constructor
  · intro blank
    simp only [Text.isBlank, Bool.or_eq_true, Bool.and_eq_true, decide_eq_true_eq] at blank
    rcases blank with rfl | ⟨low, high⟩
    · decide
    · have codes : ∀ n ≤ 13, 9 ≤ n → n ∈ blanks.map Char.toNat := by decide
      exact mem_of_toNat_mem (codes c.toNat high low)
  · exact (by decide : ∀ c ∈ blanks, Text.isBlank c = true) c

/-- What stands around the rest is blank. -/
theorem exists_blanks (cs : List Char) :
    ∃ front back, (∀ c ∈ front, c ∈ blanks) ∧ (∀ c ∈ back, c ∈ blanks) ∧
      cs = front ++ Text.trimBlanks cs ++ back := by
  have blank {ds : List Char} {c : Char} (member : c ∈ ds.takeWhile Text.isBlank) : c ∈ blanks :=
    (isBlank_iff c).mp (List.mem_takeWhile_imp member)
  refine ⟨cs.takeWhile Text.isBlank,
    ((cs.dropWhile Text.isBlank).reverse.takeWhile Text.isBlank).reverse,
    fun c member => blank member, fun c member => blank (List.mem_reverse.mp member), ?_⟩
  rw [Text.trimBlanks, List.append_assoc, ← List.reverse_append, List.takeWhile_append_dropWhile,
    List.reverse_reverse, List.takeWhile_append_dropWhile]

/-- Blanks are dropped from around a text without blanks. -/
theorem trimBlanks_append {front body back : List Char} (frontBlank : ∀ c ∈ front, c ∈ blanks)
    (backBlank : ∀ c ∈ back, c ∈ blanks) (nonempty : body ≠ []) (solid : ∀ c ∈ body, c ∉ blanks) :
    Text.trimBlanks (front ++ body ++ back) = body := by
  have blank {ds : List Char} (inside : ∀ c ∈ ds, c ∈ blanks) : ∀ c ∈ ds, Text.isBlank c :=
    fun c member => (isBlank_iff c).mpr (inside c member)
  -- Nothing is dropped from a text that begins with a character of `body`.
  have keep {c : Char} (member : c ∈ body) (ds : List Char) :
      (c :: ds).dropWhile Text.isBlank = c :: ds :=
    List.dropWhile_cons_of_neg fun blank => solid c member ((isBlank_iff c).mp blank)
  obtain ⟨c, cs, first⟩ := List.exists_cons_of_ne_nil nonempty
  obtain ⟨d, ds, last⟩ := List.exists_cons_of_ne_nil (List.reverse_ne_nil_iff.mpr nonempty)
  have cMember : c ∈ body := first ▸ List.mem_cons_self
  have dMember : d ∈ body := List.mem_reverse.mp (last ▸ List.mem_cons_self)
  have reversed : ∀ e ∈ back.reverse, e ∈ blanks :=
    fun e member => backBlank e (List.mem_reverse.mp member)
  have untouched : (body ++ back).dropWhile Text.isBlank = body ++ back := by
    rw [first]
    exact keep cMember (cs ++ back)
  rw [Text.trimBlanks, List.append_assoc, List.dropWhile_append_of_pos (blank frontBlank),
    untouched, List.reverse_append, List.dropWhile_append_of_pos (blank reversed), last,
    keep dMember, ← last, List.reverse_reverse]

end Literal

/-! ### Whole texts -/

namespace OctalLiteral

variable (l : OctalLiteral)

/-- The characters of literals but for the blanks around them. -/
def alphabet : List Char := '+' :: '-' :: '_' :: 'o' :: 'O' :: octalDigits

theorem mem_body {c : Char} (member : c ∈ l.body) : c ∈ alphabet := by
  rw [body, List.mem_append, List.mem_append] at member
  rcases member with inSign | inAnnouncement | inDigits
  · exact (by decide : ∀ sign ∈ signs, ∀ c ∈ sign, c ∈ alphabet) _ l.sign_mem c inSign
  · exact (by decide : ∀ a ∈ announcements, ∀ c ∈ a, c ∈ alphabet) _ l.announcement_mem c
      inAnnouncement
  · rcases l.grouped.mem_intercalate inDigits with rfl | digit
    · decide
    · exact (by decide : ∀ d ∈ octalDigits, d ∈ alphabet) c digit.mem

theorem mem_chars {c : Char} (member : c ∈ l.chars) : c ∈ blanks ++ alphabet := by
  rw [chars, List.mem_append, List.mem_append] at member
  rcases member with (inFront | inBody) | inBack
  · exact List.mem_append_left alphabet (l.front_blank c inFront)
  · exact List.mem_append_right blanks (l.mem_body inBody)
  · exact List.mem_append_left alphabet (l.back_blank c inBack)

/-- An announcement, or else a digit, stands behind the sign. -/
theorem exists_cons : ∃ c cs, l.announcement ++ l.written = c :: cs ∧ c ≠ '+' ∧ c ≠ '-' := by
  have announced := l.announcement_mem
  simp only [announcements, List.mem_cons, List.not_mem_nil, or_false] at announced
  rcases announced with empty | letter | letter | letter | letter
  · obtain ⟨d, cs, first, digit⟩ := l.grouped.exists_cons
    refine ⟨d, cs, by rw [empty, written, first]; rfl, ?_⟩
    exact (by decide : ∀ d ∈ octalDigits, d ≠ '+' ∧ d ≠ '-') d digit.mem
  all_goals exact ⟨'0', _, congrArg (· ++ l.written) letter, by decide⟩

theorem trimBlanks_chars : Text.trimBlanks l.chars = l.body := by
  have nonempty : l.body ≠ [] := by
    obtain ⟨c, cs, first, -⟩ := l.exists_cons
    rw [body, first]
    simp
  have solid : ∀ c ∈ l.body, c ∉ blanks := fun c member =>
    (by decide : ∀ c ∈ alphabet, c ∉ blanks) c (l.mem_body member)
  exact Literal.trimBlanks_append l.front_blank l.back_blank nonempty solid

theorem splitSign_body :
    Literal.splitSign l.body = (decide (l.sign = ['-']), l.announcement ++ l.written) := by
  obtain ⟨c, cs, first, unsigned⟩ := l.exists_cons
  rw [body, first]
  exact Literal.splitSign_append l.sign_mem unsigned

/-- A text that folds to that of a literal is that text. -/
theorem map_foldAscii_eq_chars_iff {cs : List Char} (ascii : ∀ c ∈ cs, c.toNat < 128) :
    cs.map Text.foldAscii = l.chars ↔ cs = l.chars := by
  have fixed : ∀ c ∈ blanks ++ alphabet, Text.foldAscii c = c := by decide
  constructor
  · intro folded
    have same : ∀ c ∈ cs, Text.foldAscii c = c := by
      intro c member
      have inside : Text.foldAscii c ∈ blanks ++ alphabet :=
        l.mem_chars (folded ▸ List.mem_map_of_mem member)
      by_cases low : c.toNat < 0x7f
      · exact if_pos low
      · -- The last ASCII character folds to a mark that no literal holds.
        have below := ascii c member
        have code : c.toNat = '\x7f'.toNat := by
          change c.toNat = 127
          omega
        rw [Char.toNat_inj.mp code] at inside
        exact absurd inside (by decide)
    rw [← folded, List.map_congr_left same, List.map_id']
  · rintro rfl
    exact (List.map_congr_left fun c member => fixed c (l.mem_chars member)).trans (List.map_id' _)

end OctalLiteral

namespace Literal

/-- An integer is read from what stands between the blanks, by its sign and its magnitude. -/
theorem integer_eq_ok {base : Nat} {cs : List Char} {n : Int} {parts : Bool × List Char}
    (split : splitSign (Text.trimBlanks (cs.map Text.foldAscii)) = parts) :
    integer base cs = .ok n ↔
      ∃ m, magnitude base parts.2 = .ok m ∧ n = if parts.1 then -(m : Int) else m := by
  obtain ⟨negative, body⟩ := parts
  simp only [integer, split]
  cases magnitude base body with
  | error e => simp [bind, Except.bind]
  | ok m => simp [bind, Except.bind, pure, Except.pure, eq_comm]

/-- **Exactly the texts of literals are read**, each as the number that its literal denotes. -/
theorem integer_eq_ok_iff {cs : List Char} (ascii : ∀ c ∈ cs, c.toNat < 128) {n : Int} :
    integer 8 cs = .ok n ↔ ∃ l : OctalLiteral, cs = l.chars ∧ l.value = n := by
  constructor
  · intro read
    obtain ⟨m, magnitude, rfl⟩ := (integer_eq_ok rfl).mp read
    obtain ⟨announcement, announced, groups, grouped, rest, rfl⟩ :=
      magnitude_eq_ok_iff.mp magnitude
    obtain ⟨sign, signed, signedParts, negative⟩ :=
      exists_sign (Text.trimBlanks (cs.map Text.foldAscii))
    obtain ⟨front, back, frontBlank, backBlank, parts⟩ := exists_blanks (cs.map Text.foldAscii)
    let l : OctalLiteral :=
      ⟨front, sign, announcement, groups, back, frontBlank, signed, announced, grouped, backBlank⟩
    rw [signedParts, rest] at parts
    refine ⟨l, (l.map_foldAscii_eq_chars_iff ascii).mp parts, ?_⟩
    rw [negative]
    simp only [decide_eq_true_eq]
    rfl
  · rintro ⟨l, rfl, rfl⟩
    have folded : l.chars.map Text.foldAscii = l.chars :=
      (l.map_foldAscii_eq_chars_iff ascii).mpr rfl
    refine (integer_eq_ok (by rw [folded, l.trimBlanks_chars, l.splitSign_body])).mpr
      ⟨_, magnitude_eq_ok_iff.mpr ⟨_, l.announcement_mem, _, l.grouped, rfl, rfl⟩, ?_⟩
    simp only [decide_eq_true_eq]
    rfl

end Literal

namespace OctalLiteral

variable (l : OctalLiteral)

theorem toNat_lt {c : Char} (member : c ∈ l.chars) : c.toNat < 128 :=
  (by decide : ∀ c ∈ blanks ++ alphabet, c.toNat < 128) c (l.mem_chars member)

theorem integer_chars : Literal.integer 8 l.chars = .ok l.value :=
  (Literal.integer_eq_ok_iff fun _ member => l.toNat_lt member).mpr ⟨l, rfl, rfl⟩

/-- A text is that of literals of one number only. -/
theorem value_eq_of_chars_eq {l l' : OctalLiteral} (same : l.chars = l'.chars) :
    l.value = l'.value := by
  have read := l.integer_chars
  rw [same, l'.integer_chars] at read
  exact (Except.ok.inj read).symm

/-! ### Literals from others -/

/-- The literal of a sign and digits alone. -/
def ofDigits {sign digits : List Char} (signed : sign ∈ signs) (nonempty : digits ≠ [])
    (octal : ∀ d ∈ digits, IsOctalDigit d) : OctalLiteral where
  front := []
  sign := sign
  announcement := []
  groups := [digits]
  back := []
  front_blank := by simp
  sign_mem := signed
  announcement_mem := by decide
  grouped := .single nonempty octal
  back_blank := by simp

theorem chars_ofDigits {sign digits : List Char} (signed : sign ∈ signs) (nonempty : digits ≠ [])
    (octal : ∀ d ∈ digits, IsOctalDigit d) :
    (ofDigits signed nonempty octal).chars = sign ++ digits := by
  simp [chars, body, written, ofDigits]

theorem value_ofDigits {sign digits : List Char} (signed : sign ∈ signs) (nonempty : digits ≠ [])
    (octal : ∀ d ∈ digits, IsOctalDigit d) : (ofDigits signed nonempty octal).value =
      if sign = ['-'] then -(Umask.reading digits : Int) else Umask.reading digits := by
  simp [value, OctalLiteral.digits, ofDigits]

/-- Zeros in front of digits do not count. -/
theorem reading_replicate (k : Nat) (digits : List Char) :
    Umask.reading (List.replicate k '0' ++ digits) = Umask.reading digits := by
  induction k with
  | zero => rfl
  | succ k ih =>
      rw [List.replicate_succ, List.cons_append, ← ih, ← Literal.ofDigits_octalValue,
        ← Literal.ofDigits_octalValue]
      rfl

/-- With more zeros in front of its digits a literal denotes the same number. -/
theorem exists_padded (k : Nat) : ∃ l' : OctalLiteral, l'.value = l.value ∧
    l'.chars =
      l.front ++ (l.sign ++ (l.announcement ++ (List.replicate k '0' ++ l.written))) ++ l.back := by
  obtain ⟨front, sign, announcement, groups, back, frontBlank, signed, announced, grouped,
    backBlank⟩ := l
  -- The zeros join the first group.
  obtain ⟨g, groups, rfl⟩ := List.exists_cons_of_ne_nil grouped.ne_nil
  have padded : OctalGroups ((List.replicate k '0' ++ g) :: groups) := by
    induction k with
    | zero => exact grouped
    | succ k ih => exact ih.push (by decide)
  have written : ['_'].intercalate ((List.replicate k '0' ++ g) :: groups) =
      List.replicate k '0' ++ ['_'].intercalate (g :: groups) := by
    cases groups with
    | nil => simp
    | cons h groups => simp
  refine ⟨⟨front, sign, announcement, _, back, frontBlank, signed, announced, padded, backBlank⟩,
    ?_, ?_⟩
  · have same := reading_replicate k (g ++ groups.flatten)
    simp only [value, digits, List.flatten_cons, List.append_assoc, same]
  · simp only [chars, body, OctalLiteral.written, written]

end OctalLiteral

end FileMode
