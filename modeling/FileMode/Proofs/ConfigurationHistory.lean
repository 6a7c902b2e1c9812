import FileMode.Proofs.SessionSteps
import Mathlib.Data.List.Induction

/-!
What configurations hold at the end of a session, in terms of the session alone.

A configuration is one of a name from the step that builds it until a step builds another of that
name; `Origin` splits a session there. From the split on, its table answers for the changes made
under its name and for nothing else, over a copy of the table that the settings held at the split
(`configuration_of_keeps`). The defaults it reads from the settings themselves, which go on changing
through whichever name they have at the time (`default_after`).
-/

namespace FileMode

/-! ### The last change of a key -/

/-- The last of several changes that is about a key. -/
def lastEdit? {α : Type} (key : String) (edits : List (Edit α)) : Option (Edit α) :=
  (edits.filter fun e => e.key = key).getLast?

namespace Configuration

theorem get_set (c : Configuration) (changed : String) (v : Value) (key : String) :
    (c.set changed v).get key = if changed = key then v else c.get key := by
  have agree : Value.same (.text changed) (.text key) = true ↔ changed = key := by
    rw [Value.same_text, Value.text.injEq]
  simp only [get, set, Value.valueUnder?_insertEntry, agree]
  split
  · rfl
  · rfl

theorem get_unset (c : Configuration) (changed key : String) :
    (c.unset changed).get key = if changed = key then .null else c.get key := by
  simp only [get, unset, Value.valueUnder?_eraseEntry, eq_comm (a := key)]
  split
  · rfl
  · rfl

theorem get_edit (c : Configuration) (e : Edit Value) (key : String) :
    (c.edit e).get key = if e.key = key then e.value?.getD .null else c.get key := by
  cases e with
  | set changed v => exact c.get_set changed v key
  | unset changed => exact c.get_unset changed key

/-- **The last write wins.** Of several changes of a table, the last one about a key decides. -/
theorem get_editAll (c : Configuration) (edits : List (Edit Value)) (key : String) :
    (c.editAll edits).get key = match lastEdit? key edits with
      | some e => e.value?.getD .null
      | none => c.get key := by
  induction edits using List.reverseRecOn with
  | nil => rfl
  | append_singleton edits e ih =>
      unfold editAll at ih ⊢
      rw [List.foldl_append, List.foldl_cons, List.foldl_nil, get_edit]
      unfold lastEdit? at ih ⊢
      rw [List.filter_append]
      by_cases about : e.key = key
      · rw [if_pos about, List.filter_cons_of_pos (by simpa using about), List.filter_nil,
          List.getLast?_concat]
      · rw [if_neg about, List.filter_cons_of_neg (by simpa using about), List.filter_nil,
          List.append_nil, ih]

theorem record_editAll (c : Configuration) (edits : List (Edit Value)) :
    (c.editAll edits).record = c.record := by
  induction edits generalizing c with
  | nil => rfl
  | cons e edits ih =>
      have kept : (c.edit e).record = c.record := by cases e <;> rfl
      exact (ih (c.edit e)).trans kept

end Configuration

/-! ### The defaults of settings -/

/-- The defaults that settings hold and that configurations read from them. -/
inductive DefaultField where
  | mode | umask
deriving DecidableEq, Repr

def DefaultField.name : DefaultField → String
  | mode => Settings.modeField
  | umask => Settings.umaskField

namespace SettingsRecord

def default (r : SettingsRecord) : DefaultField → Value
  | .mode => r.defaultMode
  | .umask => r.defaultUmask

theorem default_assign (r : SettingsRecord) (field : String) (v : Value) (d : DefaultField) :
    (r.assign field v).default d = if field = d.name then v else r.default d := by
  have apart : Settings.umaskField ≠ Settings.modeField := by decide
  have apartTable : Settings.tableField ≠ Settings.modeField := by decide
  have apartTable' : Settings.tableField ≠ Settings.umaskField := by decide
  cases d with
  | mode =>
      change (r.assign field v).defaultMode =
        if field = Settings.modeField then v else r.defaultMode
      unfold assign
      split
      · rfl
      · split
        · rfl
        · split
          · rfl
          · split <;> rfl
  | umask =>
      change (r.assign field v).defaultUmask =
        if field = Settings.umaskField then v else r.defaultUmask
      unfold assign
      by_cases mode : field = Settings.modeField
      · subst mode
        rw [if_pos rfl, if_neg apart.symm]
      · rw [if_neg mode]
        split
        · rfl
        · split
          · rfl
          · split <;> rfl

/-- Writing into the table leaves the defaults. -/
theorem default_put {r r' : SettingsRecord} {key : String} {v : Value}
    (written : r.put key v = .ok r') (d : DefaultField) : r'.default d = r.default d := by
  unfold put at written
  split at written
  · cases written
    cases d <;> rfl
  · cases written

end SettingsRecord

/-! ### Steps that leave a configuration alone -/

namespace Step

variable {s : Step} {name : String}

theorem edit?_of_silent (silent : s.Silent) : s.edit? name = none := by
  cases s <;> first | rfl | exact silent.elim

theorem target?_of_silent (silent : s.Silent) : s.target? = none := by
  cases s <;> first | rfl | exact silent.elim

theorem edit?_of_target? {target : String} (builds : s.target? = some target) :
    s.edit? name = none := by
  cases s <;> first | rfl | cases builds

theorem target?_of_edit? {e : Edit Value} (edits : s.edit? name = some e) : s.target? = none := by
  obtain rfl := edit?_eq_some.mp edits
  cases e <;> rfl

/-- A change is about the configuration of one name. -/
theorem edit?_of_ne {e : Edit Value} (edits : s.edit? name = some e) {other : String}
    (apart : name ≠ other) : s.edit? other = none := by
  obtain rfl := edit?_eq_some.mp edits
  cases e <;> exact if_neg apart

end Step

namespace Store

variable {files : FileTree} {st : Store} {name : String} {s : Step}

/-- A change of the table of a configuration that is there succeeds. -/
theorem step_of_edit? {e : Edit Value} (edits : s.edit? name = some e) {c : Configuration}
    (found : st.configurations.get? name = some c) :
    st.step files s = .ok (.change (st.nameConfiguration name (c.edit e))) := by
  obtain rfl := Step.edit?_eq_some.mp edits
  have there := find_eq_ok.mpr found
  cases e with
  | set key v =>
      simp only [Edit.step, step, there]
      rfl
  | unset key =>
      simp only [Edit.step, step, there]
      rfl

/-- Without a change a configuration stays as it is. -/
theorem map_editAll_nil (found : Option Configuration) :
    found.map (fun c => c.editAll []) = found := by
  cases found with
  | none => rfl
  | some c => rfl

/-- A move that builds no configuration of a name leaves that of the name as it was but for the
change that it makes to its table. -/
theorem Move.configuration {st' : Store} (move : st.Move s st')
    (kept : ∀ number, s.target? = some name → st.source? s ≠ some number) :
    st'.configurations.get? name =
      (st.configurations.get? name).map fun c => c.editAll (s.edit? name).toList := by
  have unedited : s.edit? name = none →
      (st.configurations.get? name).map (fun c => c.editAll (s.edit? name).toList) =
        st.configurations.get? name := by
    intro still
    rw [still]
    exact map_editAll_nil _
  cases move with
  | still silent _ _ configurations =>
      rw [configurations, unedited (Step.edit?_of_silent silent)]
  | name silent target made => exact (unedited (Step.edit?_of_silent silent)).symm
  | @build _ built number entries made target source inside copied =>
      have apart : ¬ name = built := by
        rintro rfl
        exact kept number target source
      rw [unedited (Step.edit?_of_target? target)]
      exact (Table.get?_insert _ _ _ _).trans (if_neg apart)
  | assign _ => exact (unedited rfl).symm
  | put _ _ => exact (unedited rfl).symm
  | @edit _ changed e c edits found =>
      refine (Table.get?_insert _ _ _ _).trans ?_
      by_cases same : name = changed
      · subst same
        rw [if_pos rfl, found, edits]
        rfl
      · rw [if_neg same, unedited (Step.edit?_of_ne edits (Ne.symm same))]

theorem configuration_next (kept : ∀ number, ¬ st.Builds files name number s) :
    (st.next files s).configurations.get? name =
      (st.configurations.get? name).map fun c => c.editAll (s.edit? name).toList := by
  cases taken : st.step files s with
  | ok r =>
      rw [next_of_ok taken]
      exact (move_of_step taken).configuration fun number target source =>
        kept number ⟨target, source, r, taken⟩
  | error f =>
      -- A change of a configuration that is there does not fail.
      rw [next_of_error taken]
      cases found : st.configurations.get? name with
      | none => rfl
      | some c =>
          cases edits : s.edit? name with
          | none => rfl
          | some e =>
              rw [step_of_edit? edits found] at taken
              cases taken

/-- A move of a step that builds a configuration makes it a copy of the table of its settings, which
exist. -/
theorem Move.built {st' : Store} (move : st.Move s st') {number : Nat}
    (target : s.target? = some name) (source : st.source? s = some number) :
    (∃ entries, st'.configurations.get? name = some ⟨number, entries⟩ ∧
      (st'.record number).copyEntries = .ok entries) ∧
    (st.WellNumbered → number < st'.records.length) ∧ st'.modes = st.modes := by
  cases move with
  | still silent _ _ _ =>
      rw [Step.target?_of_silent silent] at target
      cases target
  | name silent _ _ =>
      rw [Step.target?_of_silent silent] at target
      cases target
  | @build _ built other entries made target' source' inside copied =>
      cases target.symm.trans target'
      cases source.symm.trans source'
      exact ⟨⟨entries, (Table.get?_insert _ _ _ _).trans (if_pos rfl), copied⟩, inside, rfl⟩
  | assign _ => cases target
  | put _ _ => cases target
  | edit edits _ =>
      rw [Step.target?_of_edit? edits] at target
      cases target

theorem Builds.built {number : Nat} (builds : st.Builds files name number s) :
    (∃ entries, (st.next files s).configurations.get? name = some ⟨number, entries⟩ ∧
      ((st.next files s).record number).copyEntries = .ok entries) ∧
    (st.WellNumbered → number < (st.next files s).records.length) ∧
    (st.next files s).modes = st.modes := by
  obtain ⟨target, source, r, taken⟩ := builds
  rw [next_of_ok taken]
  exact (move_of_step taken).built target source

/-- While no step builds another of its name, a configuration answers for the changes made under its
name, and for nothing else. -/
theorem configuration_of_keeps {steps : List Step} (keeps : Keeps files name st steps) :
    (st.after files steps).configurations.get? name =
      (st.configurations.get? name).map fun c => c.editAll (steps.filterMap (Step.edit? name)) := by
  induction steps generalizing st with
  | nil => exact (map_editAll_nil _).symm
  | cons s steps ih =>
      rw [after_cons, ih keeps.2, configuration_next keeps.1, Option.map_map]
      congr 1
      funext c
      cases edits : s.edit? name with
      | none =>
          rw [List.filterMap_cons_none edits]
          rfl
      | some e =>
          rw [List.filterMap_cons_some edits]
          rfl

/-! ### Where a configuration comes from -/

/-- The last step of a session that builds a configuration of a name, with the steps before and
after it. The configuration is built over the settings of a number. -/
structure Origin (files : FileTree) (st : Store) (steps : List Step) (name : String)
    (number : Nat) where
  before : List Step
  build : Step
  later : List Step
  split : steps = before ++ build :: later
  builds : (st.after files before).Builds files name number build
  keeps : Keeps files name ((st.after files before).next files build) later

def Origin.built {steps : List Step} {number : Nat} (o : Origin files st steps name number) :
    Store :=
  (st.after files o.before).next files o.build

theorem Origin.after_eq {steps : List Step} {number : Nat}
    (o : Origin files st steps name number) :
    st.after files steps = o.built.after files o.later := by
  calc st.after files steps = st.after files (o.before ++ o.build :: o.later) := by rw [← o.split]
    _ = o.built.after files o.later := by rw [after_append, after_cons, Origin.built]

theorem Origin.built_eq {steps : List Step} {number : Nat}
    (o : Origin files st steps name number) : o.built = st.after files (o.before ++ [o.build]) := by
  rw [after_append, after_cons, after_nil, Origin.built]

/-- Either no step of a run builds a configuration of a name, or there is a last one that does. -/
theorem keeps_or_origin (files : FileTree) (st : Store) (name : String) (steps : List Step) :
    Keeps files name st steps ∨ ∃ number, Nonempty (Origin files st steps name number) := by
  induction steps generalizing st with
  | nil => exact .inl trivial
  | cons s steps ih =>
      rcases ih (st.next files s) with keeps | ⟨number, ⟨o⟩⟩
      · by_cases builds : ∃ number, st.Builds files name number s
        · obtain ⟨number, builds⟩ := builds
          exact .inr ⟨number, ⟨⟨[], s, steps, rfl, builds, keeps⟩⟩⟩
        · exact .inl ⟨not_exists.mp builds, keeps⟩
      · obtain ⟨before, build, later, rfl, builds, keeps⟩ := o
        rw [← after_cons] at builds keeps
        exact .inr ⟨number, ⟨⟨s :: before, build, later, rfl, builds, keeps⟩⟩⟩

/-- What a configuration holds at the end of a session over an empty store is what it held when it
was built, with the changes made since. -/
theorem origin_of_found {steps : List Step} {c : Configuration}
    (found : (Store.empty.after files steps).configurations.get? name = some c) :
    ∃ (o : Origin files .empty steps name c.record) (entries : List (Value × Value)),
      (o.built.record c.record).copyEntries = .ok entries ∧
      c = Configuration.editAll ⟨c.record, entries⟩ (o.later.filterMap (Step.edit? name)) := by
  rcases keeps_or_origin files .empty name steps with keeps | ⟨number, ⟨o⟩⟩
  · rw [configuration_of_keeps keeps] at found
    cases found
  · obtain ⟨⟨entries, built, copied⟩, -⟩ := o.builds.built
    have kept := configuration_of_keeps o.keeps
    rw [built, Option.map_some] at kept
    have last := (o.after_eq ▸ found).symm.trans kept
    rw [Option.some.injEq] at last
    have record : number = c.record := by
      rw [last, Configuration.record_editAll]
    subst record
    exact ⟨o, entries, copied, last⟩

theorem Origin.wellNumbered {steps : List Step} {number : Nat}
    (o : Origin files .empty steps name number) : o.built.WellNumbered := by
  rw [o.built_eq]
  exact wellNumbered_after wellNumbered_empty _

/-- A configuration is built over settings that exist. -/
theorem Origin.inside {steps : List Step} {number : Nat}
    (o : Origin files .empty steps name number) : number < o.built.records.length :=
  o.builds.built.2.1 (wellNumbered_after wellNumbered_empty o.before)

theorem Origin.mapped {steps : List Step} {number : Nat}
    (o : Origin files .empty steps name number) (maps : ∀ s ∈ steps, s.AssignsMap) :
    o.built.Mapped := by
  rw [o.built_eq]
  refine mapped_after mapped_empty fun s member => maps s ?_
  rw [o.split]
  rcases List.mem_append.mp member with early | last
  · exact List.mem_append_left _ early
  · cases List.mem_singleton.mp last
    exact List.mem_append_right _ List.mem_cons_self

/-! ### Defaults are read live -/

/-- The value that a step assigns to a field of the settings of a number, through whichever name
they have when it is taken. -/
def assigned? (st : Store) (number : Nat) (field : String) : Step → Option Value
  | .assign settings f v =>
    if st.settings.get? settings = some number ∧ f = field then some v else none
  | _ => none

/-- The last value that a run assigns to a field of the settings of a number. -/
def lastAssigned? (files : FileTree) (number : Nat) (field : String) :
    Store → List Step → Option Value
  | _, [] => none
  | st, s :: later =>
    (lastAssigned? files number field (st.next files s) later).or (st.assigned? number field s)

theorem assigned?_of_silent (silent : s.Silent) (number : Nat) (field : String) :
    st.assigned? number field s = none := by
  cases s <;> first | rfl | exact silent.elim

theorem assigned?_of_target? {target : String} (builds : s.target? = some target) (number : Nat)
    (field : String) : st.assigned? number field s = none := by
  cases s <;> first | rfl | cases builds

theorem assigned?_of_edit? {e : Edit Value} (edits : s.edit? name = some e) (number : Nat)
    (field : String) : st.assigned? number field s = none := by
  cases s <;> first | rfl | cases edits

/-- An assignment through a name that stands for settings succeeds. -/
theorem assigned?_of_error {f : Failure} (error : st.step files s = .error f) (number : Nat)
    (field : String) : st.assigned? number field s = none := by
  cases s with
  | assign settings assigned v =>
      refine if_neg fun named => ?_
      have there := find_eq_ok.mpr named.1
      simp only [step, there] at error
      cases error
  | _ => rfl

theorem Move.default {st' : Store} (move : st.Move s st') (numbered : st.WellNumbered)
    {number : Nat} (inside : number < st.records.length) (d : DefaultField) :
    (st'.record number).default d =
      (st.assigned? number d.name s).getD ((st.record number).default d) := by
  cases move with
  | still silent records _ _ =>
      rw [assigned?_of_silent silent, Option.getD_none, record, record, records]
  | name silent target made =>
      rw [assigned?_of_silent silent, Option.getD_none]
      exact congrArg (·.default d) (record_addAll inside [made])
  | build made target _ _ _ =>
      rw [assigned?_of_target? target, Option.getD_none]
      exact congrArg (·.default d) (record_addAll inside made)
  | @assign settings field v other named =>
      rw [record_setRecord (numbered _ _ named)]
      simp only [assigned?, named, Option.some.injEq]
      by_cases same : other = number
      · subst same
        rw [if_pos rfl, SettingsRecord.default_assign]
        by_cases assigned : field = d.name
        · rw [if_pos assigned, if_pos ⟨rfl, assigned⟩, Option.getD_some]
        · rw [if_neg assigned, if_neg fun both => assigned both.2, Option.getD_none]
      · rw [if_neg same, if_neg fun both => same both.1, Option.getD_none]
  | @put settings key v other r named written =>
      rw [record_setRecord (numbered _ _ named)]
      by_cases same : other = number
      · subst same
        rw [if_pos rfl, SettingsRecord.default_put written]
        rfl
      · rw [if_neg same]
        rfl
  | edit edits _ =>
      rw [assigned?_of_edit? edits, Option.getD_none]
      rfl

theorem default_next (numbered : st.WellNumbered) {number : Nat}
    (inside : number < st.records.length) (d : DefaultField) :
    ((st.next files s).record number).default d =
      (st.assigned? number d.name s).getD ((st.record number).default d) := by
  cases taken : st.step files s with
  | ok r =>
      rw [next_of_ok taken]
      exact (move_of_step taken).default numbered inside d
  | error f => rw [next_of_error taken, assigned?_of_error taken, Option.getD_none]

/-- A default of settings is what a run last assigned to it, through whichever names the settings
had, or what it was before. -/
theorem default_after (numbered : st.WellNumbered) {number : Nat}
    (inside : number < st.records.length) (steps : List Step) (d : DefaultField) :
    ((st.after files steps).record number).default d =
      (lastAssigned? files number d.name st steps).getD ((st.record number).default d) := by
  induction steps generalizing st with
  | nil => rfl
  | cons s steps ih =>
      have numbered' : (st.next files s).WellNumbered :=
        next_of_move numbered fun _ move => numbered.move move
      have inside' : number < (st.next files s).records.length :=
        Nat.lt_of_lt_of_le inside (length_le_next s)
      rw [after_cons, ih numbered' inside', default_next numbered inside, lastAssigned?]
      cases lastAssigned? files number d.name (st.next files s) steps with
      | none => rfl
      | some v => rfl

/-- The defaults that a configuration reads at the end of a session are what was last assigned to
its settings since it was built, or what they were then. -/
theorem Origin.default {steps : List Step} {number : Nat}
    (o : Origin files .empty steps name number) (d : DefaultField) :
    ((Store.empty.after files steps).record number).default d =
      (lastAssigned? files number d.name o.built o.later).getD
        ((o.built.record number).default d) := by
  rw [o.after_eq]
  exact default_after o.wellNumbered o.inside o.later d

/-! ### Whole sessions -/

theorem Move.settings_of_edit? {st' : Store} (move : st.Move s st') {e : Edit Value}
    (edits : s.edit? name = some e) :
    st'.records = st.records ∧ st'.settings = st.settings ∧ st'.modes = st.modes := by
  cases move with
  | still silent _ _ _ =>
      rw [Step.edit?_of_silent silent] at edits
      cases edits
  | name silent _ _ =>
      rw [Step.edit?_of_silent silent] at edits
      cases edits
  | build _ target _ _ _ =>
      rw [Step.edit?_of_target? target] at edits
      cases edits
  | assign _ => cases edits
  | put _ _ => cases edits
  | edit _ _ => exact ⟨rfl, rfl, rfl⟩

/-- A set or an unset changes no settings, no mode and no other configuration. -/
theorem next_of_edit? {e : Edit Value} (edits : s.edit? name = some e) :
    (st.next files s).records = st.records ∧ (st.next files s).settings = st.settings ∧
      (st.next files s).modes = st.modes ∧
      ∀ other ≠ name,
        (st.next files s).configurations.get? other = st.configurations.get? other := by
  obtain ⟨records, settings, modes⟩ : (st.next files s).records = st.records ∧
      (st.next files s).settings = st.settings ∧ (st.next files s).modes = st.modes :=
    next_of_move ⟨rfl, rfl, rfl⟩ fun _ move => move.settings_of_edit? edits
  refine ⟨records, settings, modes, fun other apart => ?_⟩
  have kept : ∀ number, ¬ st.Builds files other number s := by
    intro number builds
    have target := builds.target
    rw [Step.target?_of_edit? edits] at target
    cases target
  rw [configuration_next kept, Step.edit?_of_ne edits (Ne.symm apart)]
  exact map_editAll_nil _

/-- A configuration that is there is asked for a key without failing. -/
theorem step_get {c : Configuration} (found : st.configurations.get? name = some c) (key : String) :
    st.step files (.get name key) = .ok ⟨c.get key, [], st⟩ := by
  simp only [step, find_eq_ok.mpr found]
  rfl

/-- **Isolation and the last write.** At the end of any session, a configuration answers for a key
with what the last set or unset of the key under its name left there since it was built, and
otherwise with what the table of its settings held at that moment. Its defaults are those of the
same settings as they are now, which is what was last assigned to them under whichever name they
had. No step but a set, an unset or a new configuration of its own name changes its table, and a set
or an unset changes no settings and no other configuration. -/
theorem configuration_history (files : FileTree) {steps : List Step}
    (maps : ∀ s ∈ steps, s.AssignsMap) :
    (∀ name c, (Store.empty.after files steps).configurations.get? name = some c →
      ∃ (o : Origin files .empty steps name c.record) (entries : List (Value × Value)),
        (o.built.record c.record).table = .map entries ∧
        (∀ key, (Store.empty.after files steps).step files (.get name key) =
          .ok ⟨match lastEdit? key (o.later.filterMap (Step.edit? name)) with
            | some (.set _ v) => v
            | some (.unset _) => .null
            | none => (Value.valueUnder? (.text key) entries).getD .null,
          [], Store.empty.after files steps⟩) ∧
        ((Store.empty.after files steps).recordOf c).defaultMode =
          (lastAssigned? files c.record Settings.modeField o.built o.later).getD
            (o.built.record c.record).defaultMode ∧
        ((Store.empty.after files steps).recordOf c).defaultUmask =
          (lastAssigned? files c.record Settings.umaskField o.built o.later).getD
            (o.built.record c.record).defaultUmask) ∧
    (∀ (st : Store) (s : Step) (name : String), s.edit? name = none → s.target? ≠ some name →
      (st.next files s).configurations.get? name = st.configurations.get? name) ∧
    (∀ (st : Store) (s : Step) (name : String) (e : Edit Value), s.edit? name = some e →
      (st.next files s).records = st.records ∧ (st.next files s).settings = st.settings ∧
        (st.next files s).modes = st.modes ∧
        ∀ other ≠ name,
          (st.next files s).configurations.get? other = st.configurations.get? other) := by
  refine ⟨fun name c found => ?_, fun st s name unedited apart => ?_, fun st s name e edits => ?_⟩
  · obtain ⟨o, entries, copied, last⟩ := origin_of_found found
    obtain ⟨own, table⟩ := (o.mapped maps).record c.record
    rw [SettingsRecord.copyEntries, table] at copied
    cases copied
    refine ⟨o, entries, table, fun key => ?_, o.default .mode, o.default .umask⟩
    have answer := Configuration.get_editAll ⟨c.record, entries⟩
      (o.later.filterMap (Step.edit? name)) key
    rw [← last] at answer
    rw [step_get found, answer]
    cases lastEdit? key (o.later.filterMap (Step.edit? name)) with
    | none => rfl
    | some e => cases e <;> rfl
  · have kept : ∀ number, ¬ st.Builds files name number s := fun number builds =>
      apart builds.target
    rw [configuration_next kept, unedited]
    exact map_editAll_nil _
  · exact next_of_edit? edits

/-- A session with two configurations over the same settings, whose name goes to others in the
end. -/
def sharedSession : List Step :=
  [.validate "s" (.map []), .put "s" "k" (.text "early"), .configure "first" (some "s"),
    .assign "s" Settings.tableField (.map [(.text "k", .text "late")]),
    .configure "second" (some "s"), .set "first" "k" (.text "own"),
    .set "second" "k" (.text "other"), .assign "s" Settings.umaskField (.int 0o77),
    .validate "s" (.map []), .assign "s" Settings.umaskField (.int 0)]

/-- The first of the two configurations answers with its own change, and its default is the one
that was assigned while the name was that of its settings. -/
theorem configuration_history_shared :
    (∀ s ∈ sharedSession, s.AssignsMap) ∧
    ∃ c, (Store.empty.after .empty sharedSession).configurations.get? "first" = some c ∧
      ∃ (o : Origin .empty .empty sharedSession "first" c.record) (entries : List (Value × Value)),
        (o.built.record c.record).table = .map entries ∧
        (match lastEdit? "k" (o.later.filterMap (Step.edit? "first")) with
          | some (.set _ v) => v
          | some (.unset _) => .null
          | none => (Value.valueUnder? (.text "k") entries).getD .null) = .text "own" ∧
        (lastAssigned? .empty c.record Settings.umaskField o.built o.later).getD
          (o.built.record c.record).defaultUmask = .int 0o77 := by
  have maps : ∀ s ∈ sharedSession, s.AssignsMap := by
    simp [sharedSession, Step.AssignsMap, Settings.tableField, Settings.umaskField]
  have found : (Store.empty.after .empty sharedSession).configurations.get? "first" =
      some ⟨0, [(.text "k", .text "own")]⟩ := rfl
  obtain ⟨o, entries, table, answers, -, live⟩ := (configuration_history .empty maps).1 _ _ found
  have answer := answers "k"
  rw [step_get found, Except.ok.injEq, StepResult.mk.injEq] at answer
  exact ⟨maps, _, found, o, entries, table, answer.1.symm, live.symm⟩

end Store

end FileMode
