import FileMode.Proofs.TypedModes

/-!
Modes that are shown, and what is shown taken back.

The show command has one operand, and a word without a dash is that operand (`readWord_of_head_ne`).
So the four digits of a mode always get through to the reader of modes, and a display form does so
if its first mark is a letter. One that begins with a dash is read as options, of which the command
has none that fit (`readWord_display`), and has to stand behind two dashes. What is printed is
written out from the marks of the display form (`shownLines`), without regard to the triads behind
it, and `prints_showReport` says that the report on a mode has these lines. `show_takes_back` puts
the two together.
-/

namespace FileMode

/-- Octal digits do not begin with a dash. -/
theorem IsOctalText.head?_ne_dash {cs : List Char} (octal : IsOctalText cs) :
    cs.head? ≠ some '-' := by
  intro dash
  have digit := octal.digit '-' (List.mem_of_mem_head? dash)
  exact absurd digit (by decide)

namespace Command

/-! ### Words with and without a dash -/

/-- A word that does not begin with a dash is an operand. -/
theorem readWord_of_head_ne {specs : List OptionSpec} {word : String}
    (plain : word.toList.head? ≠ some '-') : readWord specs word = .operand := by
  unfold readWord
  split
  · rename_i dashes
    rw [dashes] at plain
    exact absurd rfl plain
  · rename_i dash
    rw [dash] at plain
    exact absurd rfl plain
  · rfl

theorem splitValue_of_notMem {cs : List Char} (absent : '=' ∉ cs) :
    splitValue cs = (String.ofList cs, none) := by
  have whole : cs.takeWhile (· ≠ '=') = cs := by
    refine List.takeWhile_eq_self_iff.mpr fun c member => ?_
    exact decide_eq_true fun same => absent (same ▸ member)
  simp only [splitValue, whole, List.drop_length]

/-- A word behind a dash that is no option is taken for one if it begins with two dashes, and for a
bundle of options otherwise. -/
theorem readWord_of_unknown {specs : List OptionSpec} {word : String} {c d : Char} {cs : List Char}
    (chars : word.toList = '-' :: c :: d :: cs) (absent : '=' ∉ word.toList)
    (unknown : specs.find? (fun s => s.long = word) = none) :
    readWord specs word =
      if c = '-' then .fault (.noSuchOption word (Text.closeTo word (specs.map OptionSpec.long)))
      else readBundle specs (c :: d :: cs) := by
  have split : splitValue ('-' :: c :: d :: cs) = (word, none) := by
    rw [← chars, splitValue_of_notMem absent, String.ofList_toList]
  unfold readWord
  rw [chars]
  simp only [split, unknown]

/-! ### The show command with one word -/

/-- A word without a dash is the operand, as it is behind two dashes. -/
theorem run_show_of_head_ne {word : String} (plain : word.toList.head? ≠ some '-')
    (files : FileTree) : run files ["show", word] = run files ["show", "--", word] := by
  have words : parse Name.showMode.options true [word] = .ok ⟨[], [word]⟩ := by
    simp only [parse, readWords, readWord_of_head_ne plain]
    rfl
  have command : plan ["show", word] = Name.showMode.plan false [word] := rfl
  have planned : plan ["show", word] = plan ["show", "--", word] := by
    rw [command, Name.plan, words]
    rfl
  rw [run, run, planned]

/-- A word that is no option is told as such. -/
theorem run_show_of_fault {word : String} {f : UsageFault}
    (unknown : readWord Name.showMode.options word = .fault f) (files : FileTree) :
    run files ["show", word] = .ofFault (some .showMode) f := by
  have words : parse Name.showMode.options true [word] = .error f := by
    simp only [parse, readWords, unknown]
  have command : plan ["show", word] = Name.showMode.plan false [word] := rfl
  rw [run, command, Name.plan, words]

end Command

namespace Mode

variable (m : Mode)

/-! ### Display forms that begin with a dash -/

theorem toList_display : m.display.toList = m.marks := String.toList_ofList

/-- The first mark is a dash exactly where the owner may not read. -/
theorem head?_display_eq_dash_iff :
    m.display.toList.head? = some '-' ↔ m.owner.grants .read = false := by
  have first : m.marks.head? = some (m.owner.mark .read) := rfl
  rw [toList_display, first, Option.some.injEq, Triad.mark_eq_dash_iff]

theorem notMem_display : '=' ∉ m.display.toList := by
  intro member
  rw [toList_display] at member
  obtain ⟨i, inside, same⟩ := List.mem_iff_getElem.mp member
  obtain ⟨c, r, -, shown⟩ := m.exists_mark inside
  rw [same] at shown
  rcases (m.triad c).mark_valid r with dash | letter
  · exact absurd (shown.trans dash) (by decide)
  · have ordinary : ∀ r : Right, '=' ≠ r.letter := by
      intro r
      cases r <;> decide
    exact ordinary r (shown.trans letter)

/-- The fault of a display form that begins with a dash, where it is taken for options: the bundle
of a second mark that is a letter, or else a long option. -/
def dashFault : Command.UsageFault :=
  if m.owner.grants .write then .noSuchOption "-w" []
  else .noSuchOption m.display (Text.closeTo m.display [Command.helpOption.long])

theorem readWord_display (dash : m.owner.grants .read = false) :
    Command.readWord Command.Name.showMode.options m.display = .fault m.dashFault := by
  have first : m.owner.mark .read = '-' := (m.owner.mark_eq_dash_iff .read).mpr dash
  have chars : m.display.toList =
      '-' :: m.owner.mark .write :: m.owner.mark .execute :: (m.group.marks ++ m.other.marks) := by
    rw [toList_display, marks_eq, ← first]
    rfl
  have unknown : Command.Name.showMode.options.find? (fun s => s.long = m.display) = none := by
    have other : Command.helpOption.long ≠ m.display := by
      intro same
      have lengths := congrArg String.length same
      rw [m.length_display] at lengths
      exact absurd lengths (by decide)
    exact List.find?_eq_none.mpr fun s member same => by
      cases List.mem_singleton.mp member
      exact other (of_decide_eq_true same)
  rw [Command.readWord_of_unknown chars m.notMem_display unknown, dashFault, Triad.mark]
  cases m.owner.grants .write with
  | true => rfl
  | false => rfl

end Mode

namespace Command

/-! ### What is printed -/

/-- Whether a mark is a letter, in a word of three characters. -/
def heldWord (mark : Char) : String := if mark = '-' then "no " else "yes"

/-- The row of a class: its name, its marks, and whether each of them is a letter. -/
def classLine (name : String) (marks : List Char) : String :=
  "  " ++ name ++ "   " ++ String.ofList marks ++
    String.join (List.zipWith (· ++ ·) ["    ", "    ", "     "] (marks.map heldWord)) ++ "      "

/-- The lines of the table of the nine marks of a mode. -/
def permissionLines (marks : List Char) : List String :=
  ["               Permissions               ",
    "                                         ",
    "  Class   Bits   Read   Write   Execute  ",
    " ─────────────────────────────────────── ",
    classLine "owner" (Mode.part 0 marks),
    classLine "group" (Mode.part 1 marks),
    classLine "other" (Mode.part 2 marks),
    "                                         "]

/-- The lines that show a mode: its four octal digits and its display form, and the table of its
marks. -/
def shownLines (m : Mode) : List String :=
  (String.ofList (Radix.fixed 8 4 m.digital) ++ "  " ++ m.display) ::
    permissionLines m.display.toList

theorem heldWord_mark (t : Triad) (r : Right) :
    heldWord (t.mark r) = Grid.padRight 3 (yesNo (t.grants r)) := by
  rw [heldWord]
  cases held : t.grants r with
  | true =>
      have letter : t.mark r ≠ '-' := by
        intro dash
        rw [(t.mark_eq_dash_iff r).mp dash] at held
        cases held
      rw [if_neg letter]
      rfl
  | false =>
      rw [if_pos ((t.mark_eq_dash_iff r).mpr held)]
      rfl

/-- The columns of the table are as wide as their headings, below which no wider cell stands. -/
theorem widths_classRow (m : Mode) (c : UserClass) :
    (([5, 4, 4, 5, 7].zip (classRow m c)).map fun (w, cell) => max w cell.length) =
      [5, 4, 4, 5, 7] := by
  have name : c.name.length = 5 := by
    cases c <;> rfl
  have bits : (m.triad c).display.length = 3 := by
    rw [Triad.display, String.length_ofList, Triad.length_marks]
  have cell (b : Bool) : (yesNo b).length ≤ 3 := by
    cases b <;> decide
  have four (b : Bool) : max 4 (yesNo b).length = 4 := max_eq_left ((cell b).trans (by decide))
  have five (b : Bool) : max 5 (yesNo b).length = 5 := max_eq_left ((cell b).trans (by decide))
  have seven (b : Bool) : max 7 (yesNo b).length = 7 := max_eq_left ((cell b).trans (by decide))
  simp only [classRow, Right.all, List.map_cons, List.map_nil, List.cons_append, List.nil_append,
    List.zip_cons_cons, List.zip_nil_right, name, bits, four, five, seven]
  rfl

theorem widths_modeGrid (m : Mode) : (modeGrid m).widths = [5, 4, 4, 5, 7] := by
  have heading : (modeGrid m).heading.map String.length = [5, 4, 4, 5, 7] := rfl
  rw [Grid.widths, heading]
  simp only [modeGrid, UserClass.all, List.map_cons, List.map_nil, List.foldl_cons, List.foldl_nil,
    widths_classRow]

theorem line_classRow (m : Mode) (c : UserClass) :
    Grid.line [5, 4, 4, 5, 7] (classRow m c) = classLine c.name (m.triad c).marks := by
  have name : Grid.padRight 5 c.name = c.name := by
    cases c <;> rfl
  have bits : Grid.padRight 4 (m.triad c).display = (m.triad c).display ++ " " := by
    rw [Grid.padRight, Triad.display, String.length_ofList, Triad.length_marks]
    rfl
  have read (b : Bool) : Grid.padRight 4 (yesNo b) = Grid.padRight 3 (yesNo b) ++ " " := by
    cases b <;> rfl
  have write (b : Bool) : Grid.padRight 5 (yesNo b) = Grid.padRight 3 (yesNo b) ++ "  " := by
    cases b <;> rfl
  have execute (b : Bool) : Grid.padRight 7 (yesNo b) = Grid.padRight 3 (yesNo b) ++ "    " := by
    cases b <;> rfl
  have held : (m.triad c).marks.map heldWord =
      Right.all.map fun r => Grid.padRight 3 (yesNo ((m.triad c).grants r)) := by
    rw [Triad.marks, List.map_map]
    exact List.map_congr_left fun r _ => heldWord_mark (m.triad c) r
  -- The blanks between two cells are those of both, and those that fill up the first.
  have two : "  " = " " ++ " " := rfl
  have three : "   " = " " ++ (" " ++ " ") := rfl
  have four : "    " = " " ++ (" " ++ (" " ++ " ")) := rfl
  have five : "     " = " " ++ (" " ++ (" " ++ (" " ++ " "))) := rfl
  have six : "      " = " " ++ (" " ++ (" " ++ (" " ++ (" " ++ " ")))) := rfl
  rw [classLine, held, ← Triad.display]
  simp only [Grid.line, classRow, Right.all, List.map_cons, List.map_nil, List.cons_append,
    List.nil_append, List.zip_cons_cons, List.zip_nil_right, List.zipWith_cons_cons,
    List.zipWith_nil_right, String.join_cons, String.join_nil, name, bits, read, write, execute,
    two, three, four, five, six, String.append_assoc, String.empty_append]

theorem lines_modeGrid (m : Mode) : (modeGrid m).lines = permissionLines m.marks := by
  have widths := widths_modeGrid m
  have width : (modeGrid m).width = 41 := by
    rw [Grid.width, widths]
    rfl
  have title : Grid.center 41 "Permissions" = "               Permissions               " := rfl
  have blank : Grid.spaces 41 = "                                         " := rfl
  have heading : Grid.line [5, 4, 4, 5, 7] ["Class", "Bits", "Read", "Write", "Execute"] =
      "  Class   Bits   Read   Write   Execute  " := rfl
  have rule : " " ++ String.ofList (List.replicate (41 - 2) '─') ++ " " =
      " ─────────────────────────────────────── " := by decide
  obtain ⟨owner, group, other⟩ := m.parts_of_marks
  simp only [Grid.lines, widths, width]
  simp only [modeGrid, UserClass.all, List.map_cons, List.map_nil, line_classRow, permissionLines,
    owner, group, other, title, blank, heading, rule]
  rfl

/-- The report on a mode that is shown. -/
theorem prints_showReport (m : Mode) : (showReport m).Prints (shownLines m) := by
  have lines : (m.octal ++ "  " ++ m.display) :: (modeGrid m).lines = shownLines m := by
    rw [lines_modeGrid, m.octal_eq, shownLines, m.toList_display]
  refine ⟨rfl, ?_, rfl⟩
  rw [← lines]
  rfl

/-! ### Shown and taken back -/

theorem run_show_operand {word : String} {m : Mode} (accepted : Mode.read word = .ok m)
    (files : FileTree) : run files ["show", "--", word] = showReport m := by
  rw [run_show, accepted]

theorem run_show_display_of_dash {m : Mode} (dash : m.owner.grants .read = false)
    (files : FileTree) : run files ["show", m.display] = .ofFault (some .showMode) m.dashFault :=
  run_show_of_fault (m.readWord_display dash) files

/-- **Modes that are shown and taken back.** A text of a mode that does not begin with a dash makes
the show command print the four digits of the mode, its display form, and a table that says of each
mark whether it is a letter. The digits that are printed make it print the same, and so does the
display form where the owner may read. Otherwise that form begins with a dash, as no other text of
a mode does, and is refused as an option that does not exist, unless two dashes stand before it. -/
theorem show_takes_back {text : String} {m : Mode} (accepted : Mode.read text = .ok m)
    (files : FileTree) :
    ∃ shown : Report, shown.Prints (shownLines m) ∧ shown.err = "" ∧
      (text.toList.head? ≠ some '-' → run files ["show", text] = shown) ∧
      run files ["show", m.octal] = shown ∧
      (m.owner.grants .read = true → run files ["show", m.display] = shown) ∧
      (m.owner.grants .read = false →
        run files ["show", m.display] = .ofFault (some .showMode) m.dashFault) ∧
      (text.toList.head? = some '-' → text = m.display ∧ m.owner.grants .read = false) ∧
      run files ["show", "--", text] = shown ∧ run files ["show", "--", m.display] = shown := by
  have behind := run_show_operand accepted files
  have display := run_show_operand m.read_display files
  refine ⟨showReport m, prints_showReport m, rfl, ?_, ?_, ?_, ?_, ?_, behind, display⟩
  · intro plain
    rw [run_show_of_head_ne plain, behind]
  · rw [run_show_of_head_ne m.isOctalText_octal.head?_ne_dash]
    exact run_show_operand m.read_octal files
  · intro readable
    have plain : m.display.toList.head? ≠ some '-' := by
      rw [ne_eq, m.head?_display_eq_dash_iff, readable]
      decide
    rw [run_show_of_head_ne plain, display]
  · intro dash
    exact run_show_display_of_dash dash files
  · intro dash
    rcases Mode.read_eq_ok_iff.mp accepted with ⟨octal, -⟩ | shown
    · exact absurd dash octal.head?_ne_dash
    · subst shown
      exact ⟨rfl, m.head?_display_eq_dash_iff.mp dash⟩

/-- Bits beyond the nine are not printed, and the four digits without them are taken back. A display
form in which the owner may write and not read is taken for the option of its second mark. -/
theorem show_takes_back_sticky :
    (∃ shown : Report, shown.Prints (shownLines (.ofDigital 0o640)) ∧
      run strayTree ["show", "1640"] = shown ∧ run strayTree ["show", "0640"] = shown ∧
      run strayTree ["show", "rw-r-----"] = shown) ∧
    ∃ shown : Report, shown.Prints (shownLines (.ofDigital 0o250)) ∧
      run strayTree ["show", "--", "-w-r-x---"] = shown ∧
      run strayTree ["show", "0250"] = shown ∧
      run strayTree ["show", "-w-r-x---"] =
        .ofFault (some .showMode) (.noSuchOption "-w" []) := by
  have digits : (Mode.ofDigital 0o640).octal = "0640" := by
    rw [Mode.octal_eq]
    rfl
  have otherDigits : (Mode.ofDigital 0o250).octal = "0250" := by
    rw [Mode.octal_eq]
    rfl
  have marks : (Mode.ofDigital 0o640).display = "rw-r-----" := rfl
  have accepted : Mode.read "1640" = .ok (.ofDigital 0o640) := rfl
  have read : Mode.read "-w-r-x---" = .ok (.ofDigital 0o250) := rfl
  obtain ⟨shown, prints, -, typed, octal, display, -⟩ := show_takes_back accepted strayTree
  obtain ⟨other, printed, -, -, again, -, refused, own, behind, -⟩ :=
    show_takes_back read strayTree
  obtain ⟨same, unreadable⟩ := own (by decide)
  rw [digits] at octal
  rw [marks] at display
  rw [otherDigits] at again
  have fault := refused unreadable
  rw [← same] at fault
  exact ⟨⟨shown, prints, typed (by decide), octal, display rfl⟩, other, printed, behind, again,
    fault⟩

/-- A display form that is read as a mode, and printed for the digits of the mode, is refused. -/
theorem show_refuses_display :
    Mode.read "-w-------" = .ok (.ofDigital 0o200) ∧
    (run strayTree ["show", "0200"]).Prints (shownLines (.ofDigital 0o200)) ∧
    (Mode.ofDigital 0o200).display = "-w-------" ∧
    (run strayTree ["show", "-w-------"]).Stops 2 none := by
  have marks : (Mode.ofDigital 0o200).display = "-w-------" := rfl
  have dash : (Mode.ofDigital 0o200).owner.grants .read = false := rfl
  refine ⟨rfl, ?_, marks, ?_⟩
  · rw [run_show_of_head_ne (by decide), run_show_operand (m := .ofDigital 0o200) rfl]
    exact prints_showReport _
  · rw [← marks, run_show_display_of_dash dash]
    exact ⟨rfl, rfl, rfl⟩

end Command

end FileMode
