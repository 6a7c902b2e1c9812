import FileMode.Proofs.ConfigurationHistory
import FileMode.Proofs.UmaskText

/-!
The umask that a configuration has in force after any history of its table.

What a call shows that asks for the umask depends on two things only: on the text in force, which is
what the last change about the umask key left or what the settings held, and on the default that is
given to the call (`TextHistory.seen_umask`). The account of a single call and the comparison of two
runs are both read off this one equation.
-/

namespace FileMode

/-! ### The text in force -/

namespace Edit

variable {α β : Type} (e : Edit α) (f : α → β)

@[simp] theorem key_map : (e.map f).key = e.key := by
  cases e <;> rfl

@[simp] theorem value?_map : (e.map f).value? = e.value?.map f := by
  cases e <;> rfl

end Edit

theorem lastEdit?_map {α β : Type} (f : α → β) (key : String) (edits : List (Edit α)) :
    lastEdit? key (edits.map (Edit.map f)) = (lastEdit? key edits).map (Edit.map f) := by
  have about : (fun e : Edit β => decide (e.key = key)) ∘ Edit.map f =
      fun e : Edit α => decide (e.key = key) := by
    funext e
    exact congrArg (fun k => decide (k = key)) (e.key_map f)
  rw [lastEdit?, List.filter_map, about, List.getLast?_map, lastEdit?]

namespace Umask

/-- The text in force after some changes of a table: what the last change about the umask key left
there, or what the table held before if no change is about it. -/
def overrideAfter (held : Option String) (changes : List (Edit String)) : Option String :=
  match lastEdit? key changes with
  | some e => e.value?
  | none => held

/-- Changes about other keys leave the text in force. -/
theorem overrideAfter_congr {changes changes' : List (Edit String)}
    (same : (changes'.filter fun e => e.key = key) = changes.filter fun e => e.key = key)
    (held : Option String) : overrideAfter held changes' = overrideAfter held changes := by
  rw [overrideAfter, overrideAfter, lastEdit?, lastEdit?, same]

end Umask

/-- A table of texts answers for the umask key with the text in force. -/
theorem Configuration.get_umask {c : Configuration} {held : Option String}
    (holds : Value.valueUnder? (.text Umask.key) c.entries = held.map .text)
    (changes : List (Edit String)) :
    (c.editAll (changes.map (Edit.map .text))).get Umask.key =
      ((Umask.overrideAfter held changes).map Value.text).getD .null := by
  rw [get_editAll, lastEdit?_map, Umask.overrideAfter]
  cases lastEdit? Umask.key changes with
  | none => exact congrArg (·.getD Value.null) holds
  | some e => exact congrArg (·.getD Value.null) (e.value?_map .text)

/-- A configuration with a text in force reads it as a umask, and one without takes the default. -/
theorem Configuration.umask_eq {c : Configuration} {override : Option String}
    (answer : c.get Umask.key = (override.map Value.text).getD .null) (d : Int) :
    Configuration.umask (some c) (.int d) = (Umask.inForce override d).mapError .umask := by
  simp only [Configuration.umask, answer]
  cases override with
  | none => rfl
  | some t =>
      have read := Umask.parseUmask_text t Umask.key
      simp only [Option.map_some, Option.getD_some, Argument.umaskInForce, Umask.inForce, read]
      cases Umask.parse t Umask.key with
      | ok m => rfl
      | error e => rfl

/-! ### What a call shows -/

/-- Whether a step asks for the umask in force. -/
def Step.AsksUmask : Step → Prop
  | umask .. | applyConfigured .. => True
  | _ => False

namespace Store

variable {files : FileTree} {st : Store}

/-- What a step shows that makes a mode of a name: the mode and the notes, or the failure. -/
def seen (files : FileTree) (st : Store) (s : Step) (target : String) :
    Except Failure (Mode × List Note) := do
  let r ← st.step files s
  let m ← find r.store.modes target
  return (m, r.notes)

theorem find_nameMode (target : String) (m : Mode) :
    find (st.nameMode target m).modes target = .ok m :=
  find_eq_ok.mpr ((Table.get?_insert _ _ _ _).trans (if_pos rfl))

theorem umaskInForce_given {name : String} {c : Configuration}
    (found : st.configurations.get? name = some c) (v : Value) :
    st.umaskInForce (some name) (.given v) = Configuration.umask (some c) v := by
  simp only [umaskInForce, configuration?, find_eq_ok.mpr found]
  rfl

theorem seen_of_error {s : Step} {f : Failure} (error : st.step files s = .error f)
    (target : String) : st.seen files s target = .error f := by
  rw [seen, error]
  rfl

theorem seen_of_nameMode {s : Step} {target : String} {notes : List Note} {m : Mode}
    (made : st.step files s = .ok ⟨.null, notes, st.nameMode target m⟩) :
    st.seen files s target = .ok (m, notes) := by
  rw [seen, made]
  change (do let m ← find (st.nameMode target m).modes target; pure (m, notes)) = _
  rw [find_nameMode]
  rfl

theorem seen_umask {name : String} {c : Configuration}
    (found : st.configurations.get? name = some c) (target : String) (v : Value) :
    st.seen files (.umask target (some name) (.given v)) target =
      (Configuration.umask (some c) v).map fun r => (r.1, [r.2]) := by
  have inForce := umaskInForce_given found v
  cases outcome : Configuration.umask (some c) v with
  | error f =>
      refine seen_of_error ?_ target
      simp only [step, inForce, outcome]
      rfl
  | ok r =>
      refine seen_of_nameMode ?_
      simp only [step, inForce, outcome]
      rfl

theorem seen_applyConfigured {name mode : String} {c : Configuration} {m : Mode}
    (found : st.configurations.get? name = some c) (there : st.modes.get? mode = some m)
    (target : String) (v : Value) :
    st.seen files (.applyConfigured target mode (some name) (.given v)) target =
      (Configuration.umask (some c) v).map fun r => (m.applyUmask r.1, [r.2]) := by
  have inForce := umaskInForce_given found v
  have stored := find_eq_ok.mpr there
  cases outcome : Configuration.umask (some c) v with
  | error f =>
      refine seen_of_error ?_ target
      simp only [step, stored, inForce, outcome]
      rfl
  | ok r =>
      refine seen_of_nameMode ?_
      simp only [step, stored, inForce, outcome]
      rfl

/-- A step that asks for the umask in force changes no configuration and no settings, whether it
fails or not. -/
theorem next_of_asksUmask {s : Step} (asks : s.AsksUmask) :
    (st.next files s).configurations = st.configurations ∧
      (st.next files s).records = st.records ∧ (st.next files s).settings = st.settings := by
  cases s with
  | umask target configuration default =>
      simp only [next, step]
      cases st.umaskInForce configuration default with
      | error f => exact ⟨rfl, rfl, rfl⟩
      | ok r => exact ⟨rfl, rfl, rfl⟩
  | applyConfigured target mode configuration default =>
      simp only [next, step]
      cases find st.modes mode with
      | error f => exact ⟨rfl, rfl, rfl⟩
      | ok m =>
          cases st.umaskInForce configuration default with
          | error f => exact ⟨rfl, rfl, rfl⟩
          | ok r => exact ⟨rfl, rfl, rfl⟩
  | _ => exact asks.elim

/-- What is seen of asking a configuration for the umask in force, with a default. -/
def askUmask (files : FileTree) (st : Store) (name target : String) (d : Int) :
    Except Failure (Mode × List Note) :=
  st.seen files (.umask target (some name) (.given (.int d))) target

/-- What is seen of masking a stored mode with the umask in force, with a default. -/
def askMasked (files : FileTree) (st : Store) (name mode target : String) (d : Int) :
    Except Failure (Mode × List Note) :=
  st.seen files (.applyConfigured target mode (some name) (.given (.int d))) target

/-! ### Histories of texts -/

/-- A session after which a configuration has a history of texts: the table that it was built over
held `held` under the umask key, and `changes` are the changes made to its own table since, among
any other steps. -/
structure TextHistory (files : FileTree) (st : Store) (steps : List Step) (name : String)
    (number : Nat) (held : Option String) (changes : List (Edit String)) extends
    Origin files st steps name number where
  entries : List (Value × Value)
  copied : (toOrigin.built.record number).copyEntries = .ok entries
  holds : Value.valueUnder? (.text Umask.key) entries = held.map .text
  changed : later.filterMap (Step.edit? name) = changes.map (Edit.map .text)

/-- Steps that build no configuration of a name keep the one that it has. -/
theorem keeps_of_target? {name : String} {steps : List Step}
    (apart : ∀ s ∈ steps, s.target? ≠ some name) : Keeps files name st steps := by
  induction steps generalizing st with
  | nil => trivial
  | cons s steps ih =>
      refine ⟨fun number builds => apart s List.mem_cons_self builds.target, ih fun t member => ?_⟩
      exact apart t (List.mem_cons_of_mem s member)

namespace TextHistory

variable {steps : List Step} {name : String} {number : Nat} {held : Option String}
  {changes : List (Edit String)}

/-- At the end the configuration answers for the umask key with the text in force. -/
theorem override (history : TextHistory files st steps name number held changes) :
    ∃ c, (st.after files steps).configurations.get? name = some c ∧
      c.get Umask.key = ((Umask.overrideAfter held changes).map Value.text).getD .null := by
  obtain ⟨⟨entries, built, copied⟩, -⟩ := history.builds.built
  cases history.copied.symm.trans copied
  have kept := configuration_of_keeps history.keeps
  rw [built, Option.map_some, history.changed] at kept
  refine ⟨_, ?_, Configuration.get_umask (c := ⟨number, history.entries⟩) history.holds changes⟩
  rw [history.after_eq]
  exact kept

/-- What is seen of the umask depends on the text in force and on the default alone. -/
theorem askUmask_eq (history : TextHistory files st steps name number held changes)
    (target : String) (d : Int) :
    (st.after files steps).askUmask files name target d =
      ((Umask.inForce (Umask.overrideAfter held changes) d).mapError .umask).map
        fun r => (r.1, [r.2]) := by
  obtain ⟨c, found, answer⟩ := history.override
  rw [askUmask, seen_umask found, Configuration.umask_eq answer]

/-- Masking a mode shows what asking for the umask shows, with the mode masked. -/
theorem askMasked_eq (history : TextHistory files st steps name number held changes)
    {mode : String} {m : Mode} (there : (st.after files steps).modes.get? mode = some m)
    (target : String) (d : Int) :
    (st.after files steps).askMasked files name mode target d =
      ((st.after files steps).askUmask files name target d).map
        fun r => (m.applyUmask r.1, r.2) := by
  obtain ⟨c, found, -⟩ := history.override
  rw [askMasked, askUmask, seen_applyConfigured found there, seen_umask found]
  cases Configuration.umask (some c) (.int d) with
  | ok r => rfl
  | error f => rfl

/-- Every list of sets and unsets of texts that follows the building of a configuration is a
history of it. -/
def ofChanges {build : Step} (builds : st.Builds files name number build)
    {entries : List (Value × Value)}
    (copied : ((st.next files build).record number).copyEntries = .ok entries)
    (holds : Value.valueUnder? (.text Umask.key) entries = held.map .text)
    (changes : List (Edit String)) :
    TextHistory files st (build :: changes.map fun e => (e.map Value.text).step name) name number
      held changes where
  before := []
  build := build
  later := changes.map fun e => (e.map Value.text).step name
  split := rfl
  builds := builds
  keeps := keeps_of_target? fun s member target => by
    obtain ⟨e, -, rfl⟩ := List.mem_map.mp member
    rw [Step.target?_of_edit? (Step.edit?_eq_some.mpr rfl)] at target
    cases target
  entries := entries
  copied := copied
  holds := holds
  changed := by
    have each : (Step.edit? name ∘ fun e : Edit String => (e.map Value.text).step name) =
        some ∘ Edit.map .text :=
      funext fun e => Step.edit?_eq_some.mpr rfl
    rw [List.filterMap_map, each, List.filterMap_eq_map]

end TextHistory

/-- **The umask in force.** After any history of texts, asking a configuration for the umask gives
what reading the text in force gives, mode or refusal, whatever the default is, and the default
where no text is in force; masking a mode gives the same with the mode masked. Nothing else is
seen: runs with the same changes about the umask key show the same, and so do calls with different
defaults while a text is in force. No call changes a configuration or settings, failing or not. -/
theorem umask_in_force {steps : List Step} {name : String} {number : Nat} {held : Option String}
    {changes : List (Edit String)}
    (history : TextHistory files st steps name number held changes) :
    (∀ target d, ((st.after files steps).askUmask files name target d).map Prod.fst =
      match Umask.overrideAfter held changes with
      | some t => Argument.parseUmask (.text t) (.text Umask.key)
      | none => .ok (.ofDigital d)) ∧
    (∀ t, Umask.overrideAfter held changes = some t → ¬ Umask.IsText t.toList → ∀ target d,
      (st.after files steps).askUmask files name target d =
        .error (.umask ⟨.text t, .text Umask.key⟩)) ∧
    (∀ target mode m d, (st.after files steps).modes.get? mode = some m →
      (st.after files steps).askMasked files name mode target d =
        ((st.after files steps).askUmask files name target d).map
          fun r => (m.applyUmask r.1, r.2)) ∧
    (∀ {files' : FileTree} {st' : Store} {steps' : List Step} {name' : String} {number' : Nat}
      {changes' : List (Edit String)},
      TextHistory files' st' steps' name' number' held changes' →
      (changes'.filter fun e => e.key = Umask.key) = (changes.filter fun e => e.key = Umask.key) →
      ∀ target target' d,
        (st'.after files' steps').askUmask files' name' target' d =
          (st.after files steps).askUmask files name target d ∧
        ∀ mode mode' m, (st.after files steps).modes.get? mode = some m →
          (st'.after files' steps').modes.get? mode' = some m →
          (st'.after files' steps').askMasked files' name' mode' target' d =
            (st.after files steps).askMasked files name mode target d) ∧
    (∀ t, Umask.overrideAfter held changes = some t → ∀ target d d',
      (st.after files steps).askUmask files name target d' =
        (st.after files steps).askUmask files name target d ∧
      ∀ mode m, (st.after files steps).modes.get? mode = some m →
        (st.after files steps).askMasked files name mode target d' =
          (st.after files steps).askMasked files name mode target d) ∧
    (∀ s : Step, s.AsksUmask →
      ((st.after files steps).next files s).configurations = (st.after files steps).configurations ∧
      ((st.after files steps).next files s).records = (st.after files steps).records ∧
      ((st.after files steps).next files s).settings = (st.after files steps).settings) := by
  refine ⟨fun target d => ?_, fun t override invalid target d => ?_,
    fun target mode m d there => ?_, fun {_ _ _ _ _ _} history' same target target' d => ?_,
    fun t override target d d' => ?_, fun s asks => next_of_asksUmask asks⟩
  · rw [history.askUmask_eq]
    cases Umask.overrideAfter held changes with
    | none => rfl
    | some t =>
        simp only [Umask.inForce, Umask.parseUmask_text]
        cases Umask.parse t Umask.key with
        | ok m => rfl
        | error e => rfl
  · rw [history.askUmask_eq, override, Umask.inForce, Umask.parse_of_not_isText invalid]
    rfl
  · exact history.askMasked_eq there target d
  · have asked := history'.askUmask_eq target' d
    rw [Umask.overrideAfter_congr same, ← history.askUmask_eq target d] at asked
    refine ⟨asked, fun mode mode' m there there' => ?_⟩
    rw [history'.askMasked_eq there', history.askMasked_eq there, asked]
  · have asked : (st.after files steps).askUmask files name target d' =
        (st.after files steps).askUmask files name target d := by
      rw [history.askUmask_eq, history.askUmask_eq, override]
      rfl
    refine ⟨asked, fun mode m there => ?_⟩
    rw [history.askMasked_eq there, history.askMasked_eq there, asked]

/-- A store with settings that hold the text `077` for the umask. -/
def restrictive : Store :=
  Store.empty.after .empty [.validate "s" (.map []), .put "s" Umask.key (.text "077")]

/-- A session that builds a configuration over these settings and changes its table. -/
def restrictiveSession (changes : List (Edit String)) : List Step :=
  .configure "c" (some "s") :: changes.map fun e => (e.map Value.text).step "c"

/-- An empty text is a text in force and is refused; the text that the settings hold is in force
where no change is about the key, and does not come back where it is taken away. -/
theorem umask_in_force_restrictive :
    (∀ target d,
      (restrictive.after .empty (restrictiveSession [.set Umask.key "", .set "k" "7"])).askUmask
        .empty "c" target d = .error (.umask ⟨.text "", .text Umask.key⟩)) ∧
    (∀ target d,
      ((restrictive.after .empty (restrictiveSession [.set "k" "7"])).askUmask
        .empty "c" target d).map Prod.fst = .ok (.ofDigital 0o077)) ∧
    (∀ target d,
      ((restrictive.after .empty
        (restrictiveSession [.set Umask.key "7", .unset Umask.key])).askUmask
        .empty "c" target d).map Prod.fst = .ok (.ofDigital d)) := by
  have builds : restrictive.Builds .empty "c" 0 (.configure "c" (some "s")) := ⟨rfl, rfl, _, rfl⟩
  have history : ∀ changes, TextHistory .empty restrictive (restrictiveSession changes) "c" 0
      (some "077") changes :=
    TextHistory.ofChanges builds rfl rfl
  refine ⟨fun target d => ?_, fun target d => ?_, fun target d => ?_⟩
  · exact (umask_in_force (history _)).2.1 "" rfl (by decide) target d
  · exact (umask_in_force (history _)).1 target d
  · exact (umask_in_force (history _)).1 target d

end Store

end FileMode
