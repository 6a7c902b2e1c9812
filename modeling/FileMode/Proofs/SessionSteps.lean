import FileMode.Session

/-!
What the steps of a session can do, and what a run of them leaves.

A session keeps its settings by number. A name leads to a number for as long as nothing else is
given the name, and a configuration holds on to the number that it was built over.

* `move_of_step` says once what a step that succeeds can do to the settings, to their names and to
  the configurations; a step that fails changes nothing (`next_of_error`). Every invariant of runs
  is read off the five kinds of `Move`.
* `WellNumbered` and `Mapped` are the invariants: each name leads to settings that exist, and the
  table of each settings is a map where only maps are assigned as tables.
-/

namespace FileMode

/-! ### Changes of a table -/

/-- A change of the table of a configuration: a key is given a value, or is taken away. -/
inductive Edit (α : Type) where
  | set (key : String) (value : α)
  | unset (key : String)
deriving DecidableEq, Repr

namespace Edit

variable {α : Type}

def key : Edit α → String
  | set key _ => key
  | unset key => key

/-- The value that a change leaves under its key. -/
def value? : Edit α → Option α
  | set _ value => some value
  | unset _ => none

def map {β : Type} (f : α → β) : Edit α → Edit β
  | set key value => set key (f value)
  | unset key => unset key

end Edit

/-- The configuration after a change of its table. -/
def Configuration.edit (c : Configuration) : Edit Value → Configuration
  | .set key v => c.set key v
  | .unset key => c.unset key

def Configuration.editAll (c : Configuration) (edits : List (Edit Value)) : Configuration :=
  edits.foldl edit c

/-! ### What a step is about -/

namespace Step

/-- The change that a step makes to the table of the configuration of a name. -/
def edit? (name : String) : Step → Option (Edit Value)
  | set configuration key v => if configuration = name then some (.set key v) else none
  | unset configuration key => if configuration = name then some (.unset key) else none
  | _ => none

/-- The name under which a step builds a configuration. -/
def target? : Step → Option String
  | configureFile name _ => some name
  | configure name _ => some name
  | _ => none

/-- Whether a step neither builds nor changes a configuration, and writes into no settings. -/
def Silent : Step → Prop
  | configureFile .. | configure .. | assign .. | put .. | set .. | unset .. => False
  | _ => True

/-- Whether a step that assigns a table as a whole assigns a map. -/
def AssignsMap : Step → Prop
  | assign _ field v => field = Settings.tableField → ∃ entries, v = .map entries
  | _ => True

end Step

/-- The step that makes a change to the table of the configuration of a name. -/
def Edit.step (name : String) : Edit Value → Step
  | set key v => .set name key v
  | unset key => .unset name key

theorem Step.edit?_eq_some {s : Step} {name : String} {e : Edit Value} :
    s.edit? name = some e ↔ s = e.step name := by
  constructor
  · intro edits
    cases s with
    | set configuration key v =>
        simp only [edit?] at edits
        split at edits
        · cases edits
          subst name
          rfl
        · cases edits
    | unset configuration key =>
        simp only [edit?] at edits
        split at edits
        · cases edits
          subst name
          rfl
        · cases edits
    | _ => cases edits
  · rintro rfl
    cases e <;> exact if_pos rfl

/-! ### Runs -/

namespace Store

/-- The store after a step, which is the same store if the step fails. -/
def next (files : FileTree) (st : Store) (s : Step) : Store :=
  match st.step files s with
  | .ok r => r.store
  | .error _ => st

def report (files : FileTree) (st : Store) (s : Step) : StepReport :=
  ⟨(st.step files s).map fun r => (r.value, r.notes), st.next files s⟩

/-- The store that a session leaves: that of its last report. -/
def after (files : FileTree) (st : Store) (steps : List Step) : Store :=
  ((Session.run files st steps).getLast?.map StepReport.store).getD st

/-- The number of the settings that a step builds a configuration over: of those under the name that
it gives, or of those that it adds. -/
def source? (st : Store) : Step → Option Nat
  | .configure _ (some settings) => st.settings.get? settings
  | .configure _ none => some st.records.length
  | .configureFile _ _ => some st.records.length
  | _ => none

/-- A step succeeds in building a configuration of a name over the settings of a number. -/
structure Builds (files : FileTree) (st : Store) (name : String) (number : Nat) (s : Step) :
    Prop where
  target : s.target? = some name
  source : st.source? s = some number
  succeeds : ∃ r, st.step files s = .ok r

/-- No step of a run builds a configuration of a name. -/
def Keeps (files : FileTree) (name : String) : Store → List Step → Prop
  | _, [] => True
  | st, s :: later =>
    (∀ number, ¬ st.Builds files name number s) ∧ Keeps files name (st.next files s) later

variable {files : FileTree} {st : Store}

theorem next_of_ok {s : Step} {r : StepResult} (ok : st.step files s = .ok r) :
    st.next files s = r.store := by
  rw [next, ok]

/-- A step that fails changes nothing. -/
theorem next_of_error {s : Step} {f : Failure} (error : st.step files s = .error f) :
    st.next files s = st := by
  rw [next, error]

theorem run_cons (s : Step) (later : List Step) :
    Session.run files st (s :: later) =
      st.report files s :: Session.run files (st.next files s) later := by
  rw [Session.run, report, next]
  cases st.step files s with
  | ok r => rfl
  | error f => rfl

@[simp] theorem after_nil : st.after files [] = st := rfl

@[simp] theorem after_cons (s : Step) (later : List Step) :
    st.after files (s :: later) = (st.next files s).after files later := by
  unfold after
  rw [run_cons, List.getLast?_cons]
  cases (Session.run files (st.next files s) later).getLast? with
  | none => rfl
  | some report => rfl

theorem after_append (earlier later : List Step) :
    st.after files (earlier ++ later) = (st.after files earlier).after files later := by
  induction earlier generalizing st with
  | nil => rfl
  | cons s earlier ih => rw [List.cons_append, after_cons, after_cons, ih]

/-! ### What a step does -/

theorem bind_eq_ok {ε α β : Type} {x : Except ε α} {f : α → Except ε β} {b : β} :
    (x >>= f) = .ok b ↔ ∃ a, x = .ok a ∧ f a = .ok b := by
  cases x with
  | error e => simp [bind, Except.bind]
  | ok a => simp [bind, Except.bind]

theorem find_eq_ok {α : Type} {t : Table α} {name : String} {a : α} :
    find t name = .ok a ↔ t.get? name = some a := by
  unfold find
  cases t.get? name with
  | none => simp
  | some b => simp

/-- Each name of settings leads to settings that exist. -/
def WellNumbered (st : Store) : Prop :=
  ∀ name number, st.settings.get? name = some number → number < st.records.length

/-- The store with more settings, which have no names yet. -/
def addAll (st : Store) (made : List Settings) : Store :=
  { st with records := st.records ++ made.map SettingsRecord.ofSettings }

/-- What a step that succeeds can do to the settings, to their names and to the configurations. -/
inductive Move (st : Store) : Step → Store → Prop
  /-- Only modes change, if anything does. -/
  | still {s : Step} {st' : Store} (silent : s.Silent) (records : st'.records = st.records)
      (settings : st'.settings = st.settings)
      (configurations : st'.configurations = st.configurations) : Move st s st'
  /-- New settings are given a name, which may have been that of others. -/
  | name {s : Step} (silent : s.Silent) (target : String) (made : Settings) :
      Move st s (st.nameSettings target made)
  /-- A configuration copies the table of settings, which may be new and then have no name. -/
  | build {s : Step} {name : String} {number : Nat} {entries : List (Value × Value)}
      (made : List Settings) (target : s.target? = some name) (source : st.source? s = some number)
      (inside : st.WellNumbered → number < (st.addAll made).records.length)
      (copied : ((st.addAll made).record number).copyEntries = .ok entries) :
      Move st s ((st.addAll made).nameConfiguration name ⟨number, entries⟩)
  /-- A field of settings is assigned, through a name that they have. -/
  | assign {settings field : String} {v : Value} {number : Nat}
      (named : st.settings.get? settings = some number) :
      Move st (.assign settings field v)
        (st.setRecord number ((st.record number).assign field v))
  /-- A value is written into the table of settings, through a name that they have. -/
  | put {settings key : String} {v : Value} {number : Nat} {r : SettingsRecord}
      (named : st.settings.get? settings = some number)
      (written : (st.record number).put key v = .ok r) :
      Move st (.put settings key v) (st.setRecord number r)
  /-- The table of a configuration is changed. -/
  | edit {s : Step} {name : String} {e : Edit Value} {c : Configuration}
      (edits : s.edit? name = some e) (found : st.configurations.get? name = some c) :
      Move st s (st.nameConfiguration name (c.edit e))

/-- **What a step does.** A step that succeeds makes one of the moves. -/
theorem move_of_step {s : Step} {r : StepResult} (ok : st.step files s = .ok r) :
    st.Move s r.store := by
  cases s with
  | validate name data =>
      obtain ⟨made, -, result⟩ := bind_eq_ok.mp ok
      cases result
      exact .name (s := .validate name data) trivial name made
  | loadText name text =>
      obtain ⟨made, -, result⟩ := bind_eq_ok.mp ok
      cases result
      exact .name (s := .loadText name text) trivial name made
  | loadFile name path =>
      obtain ⟨⟨made, note⟩, -, result⟩ := bind_eq_ok.mp ok
      cases result
      exact .name (s := .loadFile name path) trivial name made
  | configureFile name path =>
      obtain ⟨⟨made, note⟩, -, result⟩ := bind_eq_ok.mp ok
      obtain ⟨built, configured, result⟩ := bind_eq_ok.mp result
      obtain ⟨entries, copied, stored⟩ := bind_eq_ok.mp configured
      cases result
      cases stored
      have inside : st.records.length < (st.addAll [made]).records.length := by simp [addAll]
      exact .build [made] rfl rfl (fun _ => inside) copied
  | configure name settings =>
      cases settings with
      | none =>
          obtain ⟨built, configured, result⟩ := bind_eq_ok.mp ok
          obtain ⟨entries, copied, stored⟩ := bind_eq_ok.mp configured
          cases result
          cases stored
          have inside : st.records.length < (st.addAll [.initial]).records.length := by
            simp [addAll]
          exact .build [.initial] rfl rfl (fun _ => inside) copied
      | some settings =>
          obtain ⟨number, named, result⟩ := bind_eq_ok.mp ok
          obtain ⟨built, configured, result⟩ := bind_eq_ok.mp result
          obtain ⟨entries, copied, stored⟩ := bind_eq_ok.mp configured
          cases result
          cases stored
          have unchanged : st.addAll [] = st := by simp [addAll]
          have inside : st.WellNumbered → number < (st.addAll []).records.length := fun numbered =>
            unchanged.symm ▸ numbered settings number (find_eq_ok.mp named)
          rw [← unchanged] at copied
          have move : st.Move (.configure name (some settings)) _ :=
            .build [] rfl (find_eq_ok.mp named) inside copied
          rwa [unchanged] at move
  | assign settings field v =>
      obtain ⟨number, named, result⟩ := bind_eq_ok.mp ok
      cases result
      exact .assign (find_eq_ok.mp named)
  | put settings key v =>
      obtain ⟨number, named, result⟩ := bind_eq_ok.mp ok
      obtain ⟨r, written, result⟩ := bind_eq_ok.mp result
      cases result
      exact .put (find_eq_ok.mp named) written
  | get configuration key =>
      obtain ⟨c, -, result⟩ := bind_eq_ok.mp ok
      cases result
      exact .still trivial rfl rfl rfl
  | set configuration key v =>
      obtain ⟨c, found, result⟩ := bind_eq_ok.mp ok
      cases result
      exact .edit (e := .set key v) (if_pos rfl) (find_eq_ok.mp found)
  | unset configuration key =>
      obtain ⟨c, found, result⟩ := bind_eq_ok.mp ok
      cases result
      exact .edit (e := .unset key) (if_pos rfl) (find_eq_ok.mp found)
  | mode name v =>
      obtain ⟨m, -, result⟩ := bind_eq_ok.mp ok
      cases result
      exact .still trivial rfl rfl rfl
  | defaultMode name configuration =>
      obtain ⟨c, -, result⟩ := bind_eq_ok.mp ok
      obtain ⟨m, -, result⟩ := bind_eq_ok.mp result
      cases result
      exact .still trivial rfl rfl rfl
  | parseUmask name text =>
      obtain ⟨m, -, result⟩ := bind_eq_ok.mp ok
      cases result
      exact .still trivial rfl rfl rfl
  | umask name configuration default =>
      obtain ⟨⟨m, note⟩, -, result⟩ := bind_eq_ok.mp ok
      cases result
      exact .still trivial rfl rfl rfl
  | applyUmask name mode umask =>
      obtain ⟨m, -, result⟩ := bind_eq_ok.mp ok
      obtain ⟨u, -, result⟩ := bind_eq_ok.mp result
      cases result
      exact .still trivial rfl rfl rfl
  | applyConfigured name mode configuration default =>
      obtain ⟨m, -, result⟩ := bind_eq_ok.mp ok
      obtain ⟨⟨u, note⟩, -, result⟩ := bind_eq_ok.mp result
      cases result
      exact .still trivial rfl rfl rfl

/-- What holds of a store and of all that a step can make of it holds after the step. -/
theorem next_of_move {s : Step} {P : Store → Prop} (stays : P st)
    (moves : ∀ st', st.Move s st' → P st') : P (st.next files s) := by
  cases taken : st.step files s with
  | error f =>
      rw [next_of_error taken]
      exact stays
  | ok r =>
      rw [next_of_ok taken]
      exact moves r.store (move_of_step taken)

/-! ### Settings by number -/

theorem record_addAll {number : Nat} (inside : number < st.records.length)
    (made : List Settings) : (st.addAll made).record number = st.record number := by
  unfold record addAll
  rw [List.getElem?_append_left inside]

theorem record_setRecord {number : Nat} (inside : number < st.records.length) (other : Nat)
    (r : SettingsRecord) :
    (st.setRecord number r).record other = if number = other then r else st.record other := by
  unfold record setRecord
  by_cases same : number = other
  · subst same
    rw [if_pos rfl, List.getElem?_set_self inside, Option.getD_some]
  · rw [if_neg same, List.getElem?_set_ne same]

/-- Settings are never taken away. -/
theorem Move.length_le {s : Step} {st' : Store} (move : st.Move s st') :
    st.records.length ≤ st'.records.length := by
  cases move with
  | still _ records _ _ => exact Nat.le_of_eq (congrArg List.length records).symm
  | name _ target made =>
      change _ ≤ (st.records ++ [SettingsRecord.ofSettings made]).length
      simp
  | build made _ _ _ _ =>
      change _ ≤ (st.records ++ made.map SettingsRecord.ofSettings).length
      simp
  | assign _ => exact Nat.le_of_eq List.length_set.symm
  | put _ _ => exact Nat.le_of_eq List.length_set.symm
  | edit _ _ => exact Nat.le_refl _

theorem length_le_next (s : Step) : st.records.length ≤ (st.next files s).records.length :=
  next_of_move (Nat.le_refl _) fun _ move => move.length_le

theorem WellNumbered.move (numbered : st.WellNumbered) {s : Step} {st' : Store}
    (move : st.Move s st') : st'.WellNumbered := by
  intro name number named
  have longer := move.length_le
  cases move with
  | still _ _ settings _ =>
      rw [settings] at named
      exact Nat.lt_of_lt_of_le (numbered name number named) longer
  | name _ target made =>
      change (st.settings.insert target st.records.length).get? name = some number at named
      change number < (st.records ++ [SettingsRecord.ofSettings made]).length
      rw [List.length_append, List.length_singleton]
      rw [Table.get?_insert] at named
      split at named
      · cases named
        exact Nat.lt_succ_self _
      · exact Nat.lt_succ_of_lt (numbered name number named)
  | build made _ _ _ _ => exact Nat.lt_of_lt_of_le (numbered name number named) longer
  | assign _ => exact Nat.lt_of_lt_of_le (numbered name number named) longer
  | put _ _ => exact Nat.lt_of_lt_of_le (numbered name number named) longer
  | edit _ _ => exact numbered name number named

theorem wellNumbered_after (numbered : st.WellNumbered) (steps : List Step) :
    (st.after files steps).WellNumbered := by
  induction steps generalizing st with
  | nil => exact numbered
  | cons s steps ih =>
      rw [after_cons]
      exact ih (next_of_move numbered fun _ move => numbered.move move)

theorem wellNumbered_empty : Store.empty.WellNumbered := by
  intro name number named
  cases named

/-- The table of each settings is a map. -/
def Mapped (st : Store) : Prop := ∀ r ∈ st.records, ∃ entries, r.table = .map entries

theorem Mapped.record (mapped : st.Mapped) (number : Nat) :
    ∃ entries, (st.record number).table = .map entries := by
  unfold Store.record
  cases found : st.records[number]? with
  | none => exact ⟨_, rfl⟩
  | some r => exact mapped r (List.mem_of_getElem? found)

/-- Settings that were read hold a map, and so do those whose table is assigned a map or written
into. -/
theorem Mapped.move (mapped : st.Mapped) {s : Step} (assignsMap : s.AssignsMap) {st' : Store}
    (move : st.Move s st') : st'.Mapped := by
  have ofSettings : ∀ made : List Settings, ∀ r ∈ st.records ++ made.map SettingsRecord.ofSettings,
      ∃ entries, r.table = .map entries := by
    intro made r member
    rcases List.mem_append.mp member with old | new
    · exact mapped r old
    · obtain ⟨settings, -, rfl⟩ := List.mem_map.mp new
      exact ⟨_, rfl⟩
  cases move with
  | still _ records _ _ =>
      intro r member
      rw [records] at member
      exact mapped r member
  | name _ target made => exact ofSettings [made]
  | build made _ _ _ _ => exact ofSettings made
  | @assign settings field v number named =>
      intro r member
      rcases List.mem_or_eq_of_mem_set member with old | rfl
      · exact mapped r old
      · unfold SettingsRecord.assign
        split
        · exact mapped.record number
        · split
          · exact mapped.record number
          · split
            · exact assignsMap ‹_›
            · split
              · exact mapped.record number
              · exact mapped.record number
  | @put settings key v number written named put =>
      intro r member
      rcases List.mem_or_eq_of_mem_set member with old | rfl
      · exact mapped r old
      · obtain ⟨entries, table⟩ := mapped.record number
        rw [SettingsRecord.put, table] at put
        cases put
        exact ⟨_, rfl⟩
  | edit _ _ => exact mapped

theorem mapped_after (mapped : st.Mapped) {steps : List Step}
    (assignMaps : ∀ s ∈ steps, s.AssignsMap) : (st.after files steps).Mapped := by
  induction steps generalizing st with
  | nil => exact mapped
  | cons s steps ih =>
      rw [after_cons]
      refine ih ?_ fun t member => assignMaps t (List.mem_cons_of_mem s member)
      exact next_of_move mapped fun _ move => mapped.move (assignMaps s List.mem_cons_self) move

theorem mapped_empty : Store.empty.Mapped := by
  intro r member
  cases member

end Store

end FileMode
