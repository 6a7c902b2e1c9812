import FileMode.Command.Run
import FileMode.Proofs.Display
import FileMode.Proofs.UmaskInForce

/-!
The umask command, stage by stage.

The command does three things that can fail, in a fixed order: it builds a configuration over what
its path leads to, it reads the mode that it is to start from, and it reads the umask. What a stage
gives is said by the operations of the library: `building` is the step of a session that builds the
configuration, `UmaskRequest.StartsFrom` the mode and `UmaskRequest.asked` the umask that the
configuration has in force where the command line gives none. `umask_stages` says which stage ends a
run with which code, and which lines a run prints that passes all of them.
-/

namespace FileMode

/-! ### Filled numbers -/

namespace Radix

/-- The digits below eight have the characters that the library gives them. -/
theorem digitChar_of_lt {d : Nat} (small : d < 8) : digitChar d = d.digitChar := by
  have each : ∀ e : Fin 8, digitChar e = Nat.digitChar e := by decide
  exact each ⟨d, small⟩

theorem fixed_zero (base width : Nat) : fixed base width 0 = List.replicate width '0' := by
  induction width with
  | zero => rfl
  | succ width hyp =>
    have same : digitChar (0 % base) = '0' := by rw [Nat.zero_mod]; rfl
    rw [fixed, Nat.zero_div, hyp, same, List.replicate_succ']

/-- The digits of a number that is not too long, filled with zeros. -/
theorem fixed_eight {width n : Nat} (short : n < 8 ^ (width + 1)) :
    fixed 8 (width + 1) n =
      List.replicate (width + 1 - (Nat.toDigits 8 n).length) '0' ++ Nat.toDigits 8 n := by
  induction width generalizing n with
  | zero =>
    have small : n < 8 := short
    rw [fixed, fixed, Nat.toDigits_of_lt_base small, Nat.mod_eq_of_lt small, digitChar_of_lt small]
    rfl
  | succ width hyp =>
    rw [fixed]
    by_cases small : n < 8
    · rw [Nat.toDigits_of_lt_base small, Nat.div_eq_of_lt small, Nat.mod_eq_of_lt small, fixed_zero,
        digitChar_of_lt small]
      rfl
    · have rest : n / 8 < 8 ^ (width + 1) := by
        rw [Nat.pow_succ] at short
        omega
      rw [hyp rest, Nat.toDigits_of_base_le (by decide) (Nat.le_of_not_lt small),
        digitChar_of_lt (Nat.mod_lt n (by decide)), List.length_append, List.length_singleton,
        List.append_assoc, Nat.add_sub_add_right]

/-- A natural number that is not too long has `width` octal digits when it is filled with zeros. -/
theorem octal_of_lt {width n : Nat} (short : n < 8 ^ (width + 1)) :
    octal (width + 1) n = String.ofList (fixed 8 (width + 1) n) := by
  have positive : ¬ ((n : Int) < 0) := by omega
  rw [fixed_eight short, octal]
  simp only [positive, if_false, Int.natAbs_natCast, List.length_nil, Nat.sub_zero,
    List.nil_append]

end Radix

/-! ### What is looked up and shown -/

/-- A table that is written out is looked up as the table itself. -/
theorem Settings.valueUnder?_tableEntries (t : Table String) (key : String) :
    Value.valueUnder? (.text key) (tableEntries t) = (t.get? key).map .text := by
  obtain ⟨entries⟩ := t
  induction entries with
  | nil => rfl
  | cons e entries hyp =>
      change Value.valueUnder? (.text key) ((.text e.1, .text e.2) :: tableEntries ⟨entries⟩) = _
      rw [Value.valueUnder?_cons, hyp, Table.get?, Table.get?, Table.lookup_cons]
      simp only [Value.same_text, Value.text.injEq, eq_comm (a := key)]
      split <;> rfl

/-- The four digits of a mode: a zero, and one digit for each class. -/
theorem Mode.octal_eq (m : Mode) : m.octal = String.ofList (Radix.fixed 8 4 m.digital) :=
  Radix.octal_of_lt (lt_trans m.digital_lt (by decide))

theorem Mode.length_octal (m : Mode) : m.octal.length = 4 := by
  rw [m.octal_eq, String.length_ofList, Radix.length_fixed]

theorem Mode.length_display (m : Mode) : m.display.length = 9 := by
  rw [Mode.display, String.length_ofList, m.length_marks]

namespace Command

/-! ### The words of a request -/

def UmaskRequest.uses (r : UmaskRequest) : List (OptionSpec × String) :=
  (r.mode.map fun text => (modeOption, text)).toList ++
    (r.umask.map fun text => (umaskOption, text)).toList ++ [(configOption, r.config)]

def useWords (uses : List (OptionSpec × String)) : List String :=
  uses.flatMap fun u => [u.1.long, u.2]

def UmaskRequest.words (r : UmaskRequest) : List String := Name.umask.word :: useWords r.uses

/-- A word behind an option is taken for its value, whatever it looks like. -/
theorem readWords_uses {specs : List OptionSpec} (mixed : Bool)
    {uses : List (OptionSpec × String)}
    (waits : ∀ u ∈ uses, readWord specs u.1.long = .options ⟨[], some (u.1.long, u.1.long)⟩) :
    readWords specs mixed none (useWords uses) =
      .ok ⟨uses.map fun u => ⟨u.1.long, some u.2⟩, []⟩ := by
  induction uses with
  | nil => rfl
  | cons u uses hyp =>
      have first := waits u List.mem_cons_self
      have rest := hyp fun v member => waits v (List.mem_cons_of_mem u member)
      change readWords specs mixed none (u.1.long :: u.2 :: useWords uses) = _
      simp only [readWords, first, rest]
      rfl

namespace UmaskRequest

theorem mem_uses {r : UmaskRequest} {u : OptionSpec × String} (member : u ∈ r.uses) :
    u.1 = modeOption ∨ u.1 = umaskOption ∨ u.1 = configOption := by
  simp only [uses, List.mem_append, Option.mem_toList, Option.map_eq_some_iff,
    List.mem_singleton] at member
  rcases member with (⟨text, -, rfl⟩ | ⟨text, -, rfl⟩) | rfl
  · exact .inl rfl
  · exact .inr (.inl rfl)
  · exact .inr (.inr rfl)

theorem parse_uses (r : UmaskRequest) : parse Name.umask.options true (useWords r.uses) =
    .ok ⟨r.uses.map fun u => ⟨u.1.long, some u.2⟩, []⟩ := by
  refine readWords_uses true fun u member => ?_
  rcases mem_uses member with same | same | same
  · rw [same]
    rfl
  · rw [same]
    rfl
  · rw [same]
    rfl

/-- The command line of a request asks for it. -/
theorem plan_words (r : UmaskRequest) : plan r.words =
    if (Path.parse r.config).hasNull then .done (.ofBreakdown .nullInPath) else .umask r false := by
  have command : plan r.words = Name.umask.plan false (useWords r.uses) := rfl
  rw [command, Name.plan, parse_uses]
  obtain ⟨mode, umask, config⟩ := r
  cases mode with
  | none =>
      cases umask with
      | none => rfl
      | some text => rfl
  | some text =>
      cases umask with
      | none => rfl
      | some text => rfl

end UmaskRequest

/-! ### The configuration of a path -/

/-- The step that builds the configuration `conf` over the settings that a path leads to, or over
those of empty data if it leads nowhere. -/
def building (files : FileTree) (path : String) : Step :=
  match files.find? (Path.parse path) with
  | none => .configure "conf" none
  | some _ => .configureFile "conf" path

/-- A session that has built the configuration `conf` over some settings and done nothing else. -/
def built (s : Settings) : Store :=
  ⟨[.ofSettings s], .empty, Table.empty.insert "conf" ⟨0, Settings.tableEntries s.table⟩, .empty⟩

/-- The command goes by the settings over which a session builds the configuration. -/
theorem step_building (files : FileTree) (path : String) :
    Store.empty.step files (building files path) =
      (settingsFor (files.find? (Path.parse path)) (Path.parse path).text).map
        fun r => ⟨.null, r.2, built r.1⟩ := by
  unfold building settingsFor
  cases found : files.find? (Path.parse path) with
  | none => rfl
  | some entry =>
      simp only [Store.step, Settings.load, found]
      cases Settings.ofEntry (some entry) (Path.parse path).text with
      | error f => rfl
      | ok r => rfl

/-! ### The mode and the umask of a request -/

namespace UmaskRequest

/-- The mode that a request starts from: the one that it gives, or the low nine bits of the mode of
the settings. -/
def StartsFrom (r : UmaskRequest) (s : Settings) (m : Mode) : Prop :=
  match r.mode with
  | some text => Mode.read text = .ok m
  | none => (m.digital : Int) = s.defaultMode % 512

/-- The umask of a request: the one that it gives, or else the one that the configuration has in
force, with the default of the configuration. -/
def asked (r : UmaskRequest) (s : Settings) : Except Failure Mode :=
  match r.umask with
  | some text => Argument.parseUmask (.text text) (.text Umask.key)
  | none => ((built s).umaskInForce (some "conf") .configured).map Prod.fst

theorem startMode_of_startsFrom {r : UmaskRequest} {s : Settings} {m : Mode}
    (starts : r.StartsFrom s m) : r.startMode s = .ok m := by
  unfold StartsFrom at starts
  unfold startMode
  cases given : r.mode with
  | none =>
      rw [given] at starts
      have number : (Mode.ofDigital s.defaultMode).digital = m.digital := by
        have read := Mode.digital_ofDigital s.defaultMode
        dsimp only at starts
        omega
      rw [← m.ofDigital_digital, ← number, Mode.ofDigital_digital]
  | some text =>
      rw [given] at starts
      simp only [starts]
      rfl

theorem asked_eq (r : UmaskRequest) (s : Settings) :
    r.asked s = ((r.mask s).mapError .umask).map Prod.fst := by
  unfold asked mask
  cases r.umask with
  | some text =>
      simp only [Umask.parseUmask_text]
      cases Umask.parse text Umask.key with
      | ok m => rfl
      | error e => rfl
  | none =>
      have answer : Configuration.get ⟨0, Settings.tableEntries s.table⟩ Umask.key =
          ((s.table.get? Umask.key).map Value.text).getD .null :=
        congrArg (·.getD Value.null) (Settings.valueUnder?_tableEntries s.table Umask.key)
      have called : (built s).umaskInForce (some "conf") .configured =
          Configuration.umask (some ⟨0, Settings.tableEntries s.table⟩) (.int s.defaultUmask) := rfl
      simp only [called, Configuration.umask_eq answer]
      cases Umask.inForce (s.table.get? Umask.key) s.defaultUmask with
      | ok m => rfl
      | error e => rfl

theorem mask_of_asked_error {r : UmaskRequest} {s : Settings} {f : Failure}
    (refused : r.asked s = .error f) : ∃ e, r.mask s = .error e ∧ f = .umask e := by
  rw [asked_eq] at refused
  cases taken : r.mask s with
  | ok pair =>
      rw [taken] at refused
      cases refused
  | error e =>
      rw [taken] at refused
      cases refused
      exact ⟨e, rfl, rfl⟩

theorem mask_of_asked_ok {r : UmaskRequest} {s : Settings} {umask : Mode}
    (asked : r.asked s = .ok umask) : ∃ notes, r.mask s = .ok (umask, notes) := by
  rw [asked_eq] at asked
  cases taken : r.mask s with
  | ok pair =>
      rw [taken] at asked
      cases asked
      exact ⟨pair.2, rfl⟩
  | error e =>
      rw [taken] at asked
      cases asked

end UmaskRequest

/-! ### What is printed -/

/-- A row of the table, with a name of six columns: the four octal digits and the nine marks of a
mode. -/
def effectLine (name : String) (m : Mode) : String :=
  "  " ++ name ++ "   " ++ String.ofList (Radix.fixed 8 4 m.digital) ++ "    " ++ m.display ++ "  "

/-- The lines of the table of a mode, a umask and the masked mode. -/
def effectLines (m umask masked : Mode) : List String :=
  ["      Umask Application       ",
    "                              ",
    "           Octal   Symbolic   ",
    " ──────────────────────────── ",
    effectLine "mode  " m,
    effectLine "umask " umask,
    effectLine "result" masked,
    "                              "]

/-- The columns are as wide as their widest cells, whatever the modes are. -/
theorem widths_umaskGrid (m umask : Mode) : (umaskGrid m umask).widths = [6, 5, 9] := by
  simp only [Grid.widths, umaskGrid, effectRow, List.map_cons, List.map_nil, List.foldl_cons,
    List.foldl_nil, List.zip_cons_cons, List.zip_nil_left, Mode.length_octal, Mode.length_display]
  rfl

theorem line_effectRow (name : String) (m : Mode) :
    Grid.line [6, 5, 9] (effectRow name m) = effectLine (Grid.padRight 6 name) m := by
  have octal : Grid.padRight 5 m.octal = m.octal ++ " " := by
    rw [Grid.padRight, m.length_octal]
    rfl
  have display : Grid.padRight 9 m.display = m.display := by
    rw [Grid.padRight, m.length_display]
    exact String.append_empty
  -- The blanks between two cells are those of both.
  have three : "   " = " " ++ "  " := rfl
  have four : "    " = " " ++ (" " ++ "  ") := rfl
  rw [effectLine, ← m.octal_eq, three, four]
  simp only [Grid.line, effectRow, List.zip_cons_cons, List.zip_nil_left, List.map_cons,
    List.map_nil, octal, display, String.join, List.foldl_cons, List.foldl_nil,
    String.append_assoc, String.empty_append]
  rfl

theorem lines_umaskGrid (m umask : Mode) :
    (umaskGrid m umask).lines = effectLines m umask (m.applyUmask umask) := by
  have widths := widths_umaskGrid m umask
  have width : (umaskGrid m umask).width = 30 := by
    rw [Grid.width, widths]
    rfl
  simp only [Grid.lines, widths, width]
  simp only [umaskGrid, List.map_cons, List.map_nil, line_effectRow]
  rfl

/-! ### The stages of a run -/

/-- A run that ends before it prints anything: its code, and the failure on which it breaks down. -/
structure Report.Stops (r : Report) (code : Nat) (breakdown : Option Failure) : Prop where
  code_eq : r.code = code
  out_eq : r.out = ""
  breakdown_eq : r.breakdown = breakdown

/-- A run that succeeds and prints some lines. -/
structure Report.Prints (r : Report) (lines : List String) : Prop where
  code_eq : r.code = 0
  out_eq : r.out = unlines lines
  breakdown_eq : r.breakdown = none

theorem stops_settingsFailure (f : Failure) :
    (settingsFailure f).Stops 1 (if f.isRefusal then none else some f) := by
  unfold settingsFailure
  split
  · split
    · exact ⟨rfl, rfl, rfl⟩
    · exact ⟨rfl, rfl, rfl⟩
  · exact ⟨rfl, rfl, rfl⟩

section Stages

variable {r : UmaskRequest} {entry : Option FileEntry} {s : Settings} {loaded : List Note}

theorem stops_of_settings {f : Failure}
    (failed : settingsFor entry (Path.parse r.config).text = .error f) (verbose : Bool) :
    (r.report entry verbose).Stops 1 (if f.isRefusal then none else some f) := by
  simp only [UmaskRequest.report, failed]
  exact stops_settingsFailure f

variable (loads : settingsFor entry (Path.parse r.config).text = .ok (s, loaded))

include loads

theorem stops_of_mode {f : UsageFault} (refused : r.startMode s = .error f) (verbose : Bool) :
    (r.report entry verbose).Stops 2 none := by
  simp only [UmaskRequest.report, loads, refused]
  exact ⟨rfl, rfl, rfl⟩

variable {m : Mode} (starts : r.startMode s = .ok m)

include starts

theorem stops_of_umask {e : UmaskError} (refused : r.mask s = .error e) (verbose : Bool) :
    (r.report entry verbose).Stops 1 none := by
  simp only [UmaskRequest.report, loads, starts, refused]
  exact ⟨rfl, rfl, rfl⟩

theorem prints_of_umask {umask : Mode} {taken : List Note}
    (masks : r.mask s = .ok (umask, taken)) (verbose : Bool) :
    (r.report entry verbose).Prints (effectLines m umask (m.applyUmask umask)) := by
  simp only [UmaskRequest.report, loads, starts, masks, lines_umaskGrid]
  exact ⟨rfl, rfl, rfl⟩

end Stages

/-- **The umask command, stage by stage.** Every request has a command line. A run on a request
first builds a configuration, and ends with code one where a session that builds it fails, whatever
mode and umask are asked for; the failure is reported, or breaks the run down where it is no
refusal. Where the path leads nowhere, the configuration is over the settings of empty data. With a
configuration the mode is read, and one that is refused ends the run with code two, whatever the
umask is. The umask is read last: the one asked for, or else the one in force in the configuration;
one that is refused ends the run with code one. Otherwise the run succeeds and prints mode, umask
and masked mode, whose number is that of the mode with the bits of the umask cleared. -/
theorem umask_stages :
    (∀ r : UmaskRequest, (Path.parse r.config).hasNull = false → plan r.words = .umask r false) ∧
    ∀ (files : FileTree) (words : List String) (r : UmaskRequest) (verbose : Bool),
      plan words = .umask r verbose →
      (∀ f, Store.empty.step files (building files r.config) = .error f →
        (run files words).Stops 1 (if f.isRefusal then none else some f)) ∧
      ∀ result, Store.empty.step files (building files r.config) = .ok result →
        ∃ s, result.store = built s ∧
          (files.find? (Path.parse r.config) = none → s = .initial) ∧
          (∀ text e, r.mode = some text → Mode.read text = .error e →
            (run files words).Stops 2 none) ∧
          ∀ m, r.StartsFrom s m →
            (∀ f, r.asked s = .error f →
              f.category = .umask ∧ (run files words).Stops 1 none) ∧
            ∀ umask, r.asked s = .ok umask →
              ((m.applyUmask umask).digital : Int) =
                Int.land m.digital (Int.lnot umask.digital) ∧
              (run files words).Prints (effectLines m umask (m.applyUmask umask)) := by
  refine ⟨fun r clean => by rw [r.plan_words, clean]; rfl, fun files words r verbose planned => ?_⟩
  have reported : run files words = r.report (files.find? (Path.parse r.config)) verbose := by
    rw [run, planned]
  rw [reported, step_building]
  cases loads : settingsFor (files.find? (Path.parse r.config)) (Path.parse r.config).text with
  | error f =>
      refine ⟨fun g failed => ?_, fun result stored => (by cases stored)⟩
      cases failed
      exact stops_of_settings loads verbose
  | ok pair =>
      obtain ⟨s, loaded⟩ := pair
      refine ⟨fun f failed => (by cases failed), fun result stored => ?_⟩
      cases stored
      refine ⟨s, rfl, fun absent => ?_, fun text e given malformed => ?_, fun m start => ?_⟩
      · rw [absent] at loads
        cases loads
        rfl
      · have refused : r.startMode s = .error (.invalidOperand "MODE" e.message) := by
          simp only [UmaskRequest.startMode, given, malformed]
          rfl
        exact stops_of_mode loads refused verbose
      · have starts := UmaskRequest.startMode_of_startsFrom start
        constructor
        · intro f refused
          obtain ⟨e, mask, rfl⟩ := UmaskRequest.mask_of_asked_error refused
          exact ⟨rfl, stops_of_umask loads starts mask verbose⟩
        · intro umask asked
          obtain ⟨taken, mask⟩ := UmaskRequest.mask_of_asked_ok asked
          exact ⟨m.digital_applyUmask umask, prints_of_umask loads starts mask verbose⟩

/-- A tree with an empty file of settings and a file that is no text. -/
def strayTree : FileTree := .ofLists [(defaultConfig, []), ("stray.yaml", [0xff])] []

/-- Three faults are told one at a time, in the order of the stages. Without a fault the mode is
masked: by a umask whose plus borrows from all three triads, and by the default one where the path
leads nowhere. -/
theorem umask_stages_stray :
    (run strayTree ["umask", "-c", "stray.yaml", "-m", "999", "-u", "oct"]).Stops 1 none ∧
    (run strayTree ["umask", "--mode=999", "--umask", "oct"]).Stops 2 none ∧
    (run strayTree ["-v", "umask", "-uoct", "-cnowhere"]).Stops 1 none ∧
    (run strayTree ["umask", "-m", "rwxrw-r--", "-u+9"]).Prints
      (effectLines (.ofDigital 0o764) (.ofDigital 0o741) (.ofDigital 0o024)) ∧
    (run strayTree ["umask", "-cnowhere"]).Prints
      (effectLines (.ofDigital 0o777) (.ofDigital 0o022) (.ofDigital 0o755)) := by
  obtain ⟨-, stages⟩ := umask_stages
  have stray := stages strayTree
    ["umask", "-c", "stray.yaml", "-m", "999", "-u", "oct"] _ false rfl
  have unread := stages strayTree ["umask", "--mode=999", "--umask", "oct"] _ false rfl
  have unmasked := stages strayTree ["-v", "umask", "-uoct", "-cnowhere"] _ true rfl
  have masked := stages strayTree ["umask", "-m", "rwxrw-r--", "-u+9"] _ false rfl
  have default := stages strayTree ["umask", "-cnowhere"] _ false rfl
  refine ⟨?_, ?_, ?_, ?_, ?_⟩
  · have stopped := stray.1 _ rfl
    exact stopped
  · obtain ⟨s, -, -, refused, -⟩ := unread.2 _ rfl
    exact refused "999" _ rfl rfl
  · obtain ⟨s, -, initial, -, masks⟩ := unmasked.2 _ rfl
    cases initial rfl
    exact ((masks (.ofDigital 0o777) rfl).1 _ rfl).2
  · obtain ⟨s, -, -, -, masks⟩ := masked.2 _ rfl
    exact ((masks (.ofDigital 0o764) rfl).2 _ rfl).2
  · obtain ⟨s, -, initial, -, masks⟩ := default.2 _ rfl
    cases initial rfl
    exact ((masks (.ofDigital 0o777) rfl).2 _ rfl).2

end Command

end FileMode
