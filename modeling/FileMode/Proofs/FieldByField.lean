import FileMode.Proofs.OctalFields

/-!
Validation, field by field, over plain data: the data of which documents without tags are made.

Each field is converted by itself (`converted_only`), a conversion that fails makes at least one
complaint, and the complaints of all fields are reported one behind the other (`validate_map`).
Plain values are no byte strings, so that an entry of the table is refused exactly if its value is
no text (`entryComplaints_plain`); a table that is not refused keeps all its entries
(`tableValue_of_toTable`), and so do the entries beside the fields, which nothing refuses.

`fields_apart` puts them together.
-/

namespace FileMode

/-- Plain data: no value, truth values, numbers and texts, lists of plain data, and maps of plain
data under texts of which no two are the same. -/
inductive Value.Plain : Value → Prop where
  | null : Plain .null
  | bool (b : Bool) : Plain (.bool b)
  | int (n : Int) : Plain (.int n)
  | float (x : Binary64) : Plain (.float x)
  | text (s : String) : Plain (.text s)
  | list {xs : List Value} (members : ∀ x ∈ xs, Plain x) : Plain (.list xs)
  | map {members : List (String × Value)} (distinct : (members.map Prod.fst).Nodup)
      (values : ∀ e ∈ members, Plain e.2) : Plain (.map (members.map Value.textEntry))

namespace Settings

/-- The data that gives some members and nothing else. -/
def dataOf (members : List (String × Value)) : Value := .map (members.map Value.textEntry)

def only (name : String) (members : List (String × Value)) : List (String × Value) :=
  members.filter fun e => e.1 = name

/-- What is wrong with an integer field where the data gives nothing else. -/
def OctalField.faultsAlone (f : OctalField) (members : List (String × Value)) : List Complaint :=
  complaints (validate (dataOf (only f.name members)))

/-- What is wrong with a table: that it is no map, or each value in it that is no text. -/
def tableFaults : Option Value → List Complaint
  | none => []
  | some (.map entries) =>
    (entries.filter fun e => e.2.kind ≠ .text).map fun e =>
      ⟨[.name tableField, stepOf e.1], .notText⟩
  | some _ => [⟨[.name tableField], .notMap⟩]

/-! ### All complaints -/

/-- A conversion that fails says why, if no failure of it is silent. -/
theorem complaints_eq_nil_iff {α : Type} {c : Except (List Complaint) α} (telling : c ≠ .error []) :
    complaints c = [] ↔ ∃ a, c = .ok a := by
  cases c with
  | ok a => simp [complaints]
  | error cs =>
      have some : cs ≠ [] := fun none => telling (none ▸ rfl)
      simp [complaints, some]

theorem convert_ne_error_nil {α : Type} {initial : α} {f : Value → Except (List Complaint) α}
    (telling : ∀ v, f v ≠ .error []) (v : Option Value) : convert initial f v ≠ .error [] := by
  cases v with
  | none => exact nofun
  | some v => exact telling v

theorem integerField_ne_error_nil (name : String) (limit : Int) (v : Value) :
    integerField name limit v ≠ .error [] := by
  unfold integerField
  cases toBounded limit v with
  | ok n => exact nofun
  | error r => simp [Except.mapError]

theorem toTable_ne_error_nil (v : Value) : toTable v ≠ .error [] := by
  unfold toTable
  split
  · split
    · exact nofun
    · rename_i telling
      exact fun same => telling (Except.error.inj same)
  · simp

theorem converted_ne_error_nil (f : OctalField) (entries : List (Value × Value)) :
    f.converted entries ≠ .error [] :=
  convert_ne_error_nil (integerField_ne_error_nil f.name f.limit) _

/-- Data gives settings if nothing is wrong with it, and otherwise all that is wrong is reported. -/
theorem validate_map (entries : List (Value × Value)) :
    (faults entries = [] ∧ ∃ s, validate (.map entries) = .ok s) ∨
      (faults entries ≠ [] ∧ validate (.map entries) = .error (faults entries)) := by
  by_cases sound : faults entries = []
  · refine .inl ⟨sound, ?_⟩
    simp only [faults, List.append_eq_nil_iff] at sound
    obtain ⟨⟨⟨noMode, noUmask⟩, noTable⟩, keys⟩ := sound
    obtain ⟨mode, modeRead⟩ := (complaints_eq_nil_iff (converted_ne_error_nil _ _)).mp noMode
    obtain ⟨umask, umaskRead⟩ := (complaints_eq_nil_iff (converted_ne_error_nil _ _)).mp noUmask
    obtain ⟨table, tableRead⟩ :=
      (complaints_eq_nil_iff (convert_ne_error_nil toTable_ne_error_nil _)).mp noTable
    have reads : Reads entries
        ⟨mode, umask, table, Table.ofList (entries.filterMap extraMember?)⟩ :=
      ⟨modeRead, umaskRead, tableRead, rfl, keys⟩
    exact ⟨_, validate_eq_ok.mpr ⟨entries, rfl, reads⟩⟩
  · refine .inr ⟨sound, ?_⟩
    cases valid : validate (.map entries) with
    | ok s =>
        obtain ⟨_, same, reads⟩ := validate_eq_ok.mp valid
        cases same
        refine absurd ?_ sound
        have mode : OctalField.mode.converted entries = .ok s.defaultMode := reads.mode
        have umask : OctalField.umask.converted entries = .ok s.defaultUmask := reads.umask
        rw [faults, mode, umask, reads.table, reads.keys]
        rfl
    | error cs =>
        simp only [validate] at valid
        split at valid
        · cases valid
        · exact valid.symm

theorem complaints_validate (entries : List (Value × Value)) :
    complaints (validate (.map entries)) = faults entries := by
  rcases validate_map entries with ⟨sound, s, valid⟩ | ⟨-, refused⟩
  · rw [valid, sound]
    rfl
  · rw [refused]
    rfl

/-! ### Fields alone -/

variable {members : List (String × Value)}

theorem field?_texts (name : String) (members : List (String × Value)) :
    field? name (members.map Value.textEntry) = members.lookup name :=
  Value.valueUnder?_texts name members

theorem lookup_only (name other : String) (members : List (String × Value)) :
    (only name members).lookup other = if other = name then members.lookup name else none := by
  induction members with
  | nil => simp [only]
  | cons e members ih =>
      obtain ⟨key, v⟩ := e
      unfold only at ih ⊢
      by_cases here : key = name
      · rw [List.filter_cons_of_pos (by simp [here]), Table.lookup_cons, Table.lookup_cons, ih]
        by_cases found : other = name <;> simp [found, here]
      · have apart : ¬ name = key := fun same => here same.symm
        rw [List.filter_cons_of_neg (by simp [here]), ih, Table.lookup_cons, if_neg apart]

/-- The conversion of a field sees nothing of other members. -/
theorem converted_only (f : OctalField) (members : List (String × Value)) :
    f.converted ((only f.name members).map Value.textEntry) =
      f.converted (members.map Value.textEntry) := by
  simp only [OctalField.converted, field?_texts, lookup_only, if_true]

/-- A field of which nothing is given is not at fault. -/
theorem converted_of_lookup_none {f : OctalField} (absent : members.lookup f.name = none) :
    f.converted (members.map Value.textEntry) = .ok f.initial := by
  rw [OctalField.converted, field?_texts, absent]
  rfl

/-- What is wrong with data under texts, field by field. -/
theorem faults_texts (members : List (String × Value)) :
    faults (members.map Value.textEntry) =
      complaints (OctalField.mode.converted (members.map Value.textEntry)) ++
        complaints (OctalField.umask.converted (members.map Value.textEntry)) ++
        complaints (convert .empty toTable (members.lookup tableField)) := by
  rw [faults, filterMap_keyComplaint?_texts, field?_texts, List.append_nil]

theorem faultsAlone_eq (f : OctalField) (members : List (String × Value)) :
    f.faultsAlone members = complaints (f.converted (members.map Value.textEntry)) := by
  have table : (only f.name members).lookup tableField = none := by
    rw [lookup_only, if_neg]
    cases f <;> decide
  rw [OctalField.faultsAlone, dataOf, complaints_validate, faults_texts, table, ← converted_only f]
  cases f with
  | mode =>
      have umask : (only OctalField.mode.name members).lookup OctalField.umask.name = none := by
        rw [lookup_only, if_neg (by decide)]
      rw [converted_of_lookup_none umask]
      simp [complaints, convert]
  | umask =>
      have mode : (only OctalField.umask.name members).lookup OctalField.mode.name = none := by
        rw [lookup_only, if_neg (by decide)]
      rw [converted_of_lookup_none mode]
      simp [complaints, convert]

/-- There is at most one complaint about a field. -/
theorem length_faultsAlone (f : OctalField) (members : List (String × Value)) :
    (f.faultsAlone members).length ≤ 1 ∧ ∀ c ∈ f.faultsAlone members, c.place = [.name f.name] := by
  rw [faultsAlone_eq, OctalField.converted]
  cases field? f.name (members.map Value.textEntry) with
  | none => simp [convert, complaints]
  | some v =>
      rw [convert, integerField]
      cases toBounded f.limit v with
      | ok n => simp [Except.mapError, complaints]
      | error r => simp [Except.mapError, complaints]

/-- What a field holds is what it holds where the data gives nothing else. -/
theorem of_validate_only {f : OctalField} {s : Settings}
    (valid : validate (dataOf members) = .ok s) :
    ∃ s', validate (dataOf (only f.name members)) = .ok s' ∧ f.of s' = f.of s := by
  have taken := OctalField.converted_of_validate (f := f) valid
  have sound : f.faultsAlone members = [] := by
    rw [faultsAlone_eq, taken]
    rfl
  rw [OctalField.faultsAlone, dataOf, complaints_validate] at sound
  rcases validate_map ((only f.name members).map Value.textEntry) with
    ⟨-, s', alone⟩ | ⟨unsound, -⟩
  · refine ⟨s', alone, ?_⟩
    have takenAlone := OctalField.converted_of_validate (f := f) alone
    rw [converted_only, taken] at takenAlone
    exact (Except.ok.inj takenAlone).symm
  · exact absurd sound unsound

/-! ### The table -/

/-- What is plain in an entry of the table is refused exactly if it is no text. -/
theorem entryComplaints_plain (key : String) {v : Value} (plain : v.Plain) :
    entryComplaints (.text key) v =
      if v.kind = .text then [] else [⟨[.name tableField, .name key], .notText⟩] := by
  cases plain <;> rfl

theorem flatMap_entryComplaints_plain {inner : List (String × Value)}
    (plain : ∀ e ∈ inner, e.2.Plain) :
    ((inner.map Value.textEntry).flatMap fun e => entryComplaints e.1 e.2) =
      tableFaults (some (dataOf inner)) := by
  simp only [tableFaults, dataOf]
  induction inner with
  | nil => rfl
  | cons e inner ih =>
      obtain ⟨first, others⟩ := List.forall_mem_cons.mp plain
      have refused : entryComplaints (Value.textEntry e).1 (Value.textEntry e).2 =
          if e.2.kind = .text then [] else [⟨[.name tableField, .name e.1], .notText⟩] :=
        entryComplaints_plain e.1 first
      have kept : (Value.textEntry e).2.kind = e.2.kind := rfl
      rw [List.map_cons, List.flatMap_cons, refused, ih others]
      by_cases text : e.2.kind = .text
      · rw [if_pos text, List.filter_cons_of_neg (by simp [kept, text]), List.nil_append]
      · rw [if_neg text, List.filter_cons_of_pos (by simp [kept, text])]
        rfl

/-- What is wrong with a plain table is what its conversion reports. -/
theorem complaints_convert_toTable {v : Option Value} (plain : ∀ w, v = some w → w.Plain) :
    complaints (convert .empty toTable v) = tableFaults v := by
  cases v with
  | none => rfl
  | some w =>
      cases plain w rfl with
      | map distinct values =>
          rename_i inner
          have refused := flatMap_entryComplaints_plain values
          simp only [convert, toTable, refused]
          simp only [dataOf]
          split
          · rename_i none
            rw [none]
            rfl
          · rfl
      | _ => rfl

/-- Texts under texts are all that a table without faults gives. -/
theorem exists_texts_of_tableFaults {inner : List (String × Value)}
    (sound : tableFaults (some (dataOf inner)) = []) :
    ∃ texts : List (String × String), inner = texts.map fun e => (e.1, Value.text e.2) := by
  simp only [tableFaults, dataOf, List.map_eq_nil_iff, List.filter_eq_nil_iff,
    List.forall_mem_map, decide_eq_true_eq, not_not] at sound
  induction inner with
  | nil => exact ⟨[], rfl⟩
  | cons e inner ih =>
      obtain ⟨first, others⟩ := List.forall_mem_cons.mp sound
      obtain ⟨texts, rfl⟩ := ih others
      obtain ⟨key, v⟩ := e
      cases v with
      | text s => exact ⟨(key, s) :: texts, rfl⟩
      | _ => cases first

/-- A plain table that is taken keeps all its entries in their order. -/
theorem tableValue_of_toTable {v : Value} (plain : v.Plain) {t : Table String}
    (taken : toTable v = .ok t) : tableValue t = v := by
  cases plain with
  | map distinct values =>
      rename_i inner
      have sound : tableFaults (some (dataOf inner)) = [] := by
        have all := complaints_convert_toTable (v := some (dataOf inner)) fun w same =>
          Option.some.inj same ▸ .map distinct values
        rw [← all]
        simp only [convert, dataOf, taken, complaints]
      obtain ⟨texts, rfl⟩ := exists_texts_of_tableFaults sound
      have written : (texts.map fun e => (e.1, Value.text e.2)).map Value.textEntry =
          tableEntries ⟨texts⟩ := by
        rw [List.map_map]
        rfl
      have keys : (Table.keys ⟨texts⟩).Nodup := by
        rw [List.map_map] at distinct
        exact distinct
      rw [written] at taken ⊢
      have again : toTable (tableValue ⟨texts⟩) = .ok ⟨texts⟩ := toTable_tableValue keys
      cases taken.symm.trans again
      rfl
  | _ => cases taken

/-- The table is that of data that gives nothing else. -/
theorem table_of_validate_only {s : Settings} (valid : validate (dataOf members) = .ok s) :
    ∃ s', validate (dataOf (only tableField members)) = .ok s' ∧ s'.table = s.table := by
  obtain ⟨_, same, reads⟩ := validate_eq_ok.mp valid
  cases same
  have taken := reads.table
  rw [field?_texts] at taken
  have alone : (only tableField members).lookup tableField = members.lookup tableField := by
    rw [lookup_only, if_pos rfl]
  have absent (f : OctalField) : (only tableField members).lookup f.name = none := by
    rw [lookup_only, if_neg]
    cases f <;> decide
  have sound : faults ((only tableField members).map Value.textEntry) = [] := by
    rw [faults_texts, alone, taken, converted_of_lookup_none (absent .mode),
      converted_of_lookup_none (absent .umask)]
    rfl
  rcases validate_map ((only tableField members).map Value.textEntry) with
    ⟨-, s', valid'⟩ | ⟨unsound, -⟩
  · refine ⟨s', valid', ?_⟩
    obtain ⟨_, same, reads'⟩ := validate_eq_ok.mp valid'
    cases same
    have takenAlone := reads'.table
    rw [field?_texts, alone, taken] at takenAlone
    exact (Except.ok.inj takenAlone).symm
  · exact absurd sound unsound

/-! ### Plain data as a whole -/

/-- What is wrong with data: the complaints about each integer field where nothing else is given,
and then those about the table. -/
def faultsByField (members : List (String × Value)) : List Complaint :=
  OctalField.mode.faultsAlone members ++ OctalField.umask.faultsAlone members ++
    tableFaults (members.lookup tableField)

/-- The names and the values of a plain map. -/
theorem plain_dataOf (plain : (dataOf members).Plain) :
    (members.map Prod.fst).Nodup ∧ ∀ e ∈ members, e.2.Plain := by
  generalize same : dataOf members = data at plain
  cases plain with
  | map distinct values =>
      have injective : Function.Injective Value.textEntry := by
        rintro ⟨key, v⟩ ⟨key', v'⟩ equal
        cases equal
        rfl
      have equal := List.map_injective_iff.mpr injective (Value.map.inj same)
      exact equal ▸ ⟨distinct, values⟩
  | _ => cases same

theorem faults_plain (plain : (dataOf members).Plain) :
    faults (members.map Value.textEntry) = faultsByField members := by
  have table : ∀ w, members.lookup tableField = some w → w.Plain := by
    intro w found
    obtain ⟨before, after, rfl, -⟩ := List.lookup_eq_some_iff.mp found
    exact (plain_dataOf plain).2 (tableField, w) (by simp)
  rw [faults_texts, faultsByField, faultsAlone_eq, faultsAlone_eq, complaints_convert_toTable table]

/-- **Every fault once, in order, and no field in the way of another.** Of plain data, the
complaints are those about the mode where nothing else is given and those about the umask where
nothing else is given, one at most of each, and then those about the table: one if it is no map, and
otherwise one for each entry whose value is no text, in the order of the entries. Data without a
complaint gives settings, and no other data does. Each field then holds what it holds where nothing
else is given, the table keeps all its entries in their order, and what has another name is kept as
it is. -/
theorem fields_apart (plain : (dataOf members).Plain) :
    (∀ f : OctalField, (f.faultsAlone members).length ≤ 1 ∧
      ∀ c ∈ f.faultsAlone members, c.place = [.name f.name]) ∧
    (∀ v, members.lookup tableField = some v →
      (v.kind ≠ .map → (tableFaults (some v)).map (fun c => (c.place, c.refusal.code)) =
        [([.name tableField], "dict_type")]) ∧
      ∀ inner, v = dataOf inner →
        (tableFaults (some v)).map (fun c => (c.place, c.refusal.code)) =
          (inner.filter fun e => e.2.kind ≠ .text).map fun e =>
            ([.name tableField, .name e.1], "string_type")) ∧
    (faultsByField members ≠ [] → validate (dataOf members) = .error (faultsByField members)) ∧
    (faultsByField members = [] → ∃ s, validate (dataOf members) = .ok s) ∧
    ∀ s, validate (dataOf members) = .ok s →
      (∀ f : OctalField, ∃ s', validate (dataOf (only f.name members)) = .ok s' ∧
        f.of s' = f.of s) ∧
      (∃ s', validate (dataOf (only tableField members)) = .ok s' ∧ s'.table = s.table) ∧
      tableValue s.table = (members.lookup tableField).getD (.map []) ∧
      s.extra.entries = members.filter fun e => e.1 ∉ fields := by
  have all := faults_plain plain
  refine ⟨fun f => length_faultsAlone f members, fun v _ => ⟨fun noMap => ?_, ?_⟩,
    fun unsound => ?_, fun sound => ?_,
    fun s valid => ⟨fun f => of_validate_only valid, table_of_validate_only valid, ?_, ?_⟩⟩
  · cases v with
    | map entries => exact absurd rfl noMap
    | _ => rfl
  · rintro inner rfl
    simp only [tableFaults, dataOf, List.filter_map, List.map_map]
    rfl
  · rcases validate_map (members.map Value.textEntry) with ⟨sound, -⟩ | ⟨-, refused⟩
    · exact absurd (all ▸ sound) unsound
    · rw [dataOf, refused, all]
  · rcases validate_map (members.map Value.textEntry) with ⟨-, taken⟩ | ⟨unsound, -⟩
    · exact taken
    · exact absurd (all.trans sound) unsound
  · obtain ⟨_, same, reads⟩ := validate_eq_ok.mp valid
    cases same
    have taken := reads.table
    rw [field?_texts] at taken
    cases found : members.lookup tableField with
    | none =>
        rw [found] at taken
        rw [← Except.ok.inj taken]
        rfl
    | some v =>
        rw [found] at taken
        obtain ⟨before, after, rfl, -⟩ := List.lookup_eq_some_iff.mp found
        exact tableValue_of_toTable ((plain_dataOf plain).2 (tableField, v) (by simp)) taken
  · obtain ⟨_, same, reads⟩ := validate_eq_ok.mp valid
    cases same
    have distinct := (plain_dataOf plain).1.sublist
      ((List.filter_sublist (p := fun e => !fields.contains e.1)).map Prod.fst)
    rw [reads.extra, filterMap_extraMember?_texts, Table.ofList_of_nodup distinct]
    simp

/-- Members out of the order of the fields: a table of which only the second value is a text, a name
that the schema does not know, too great a umask and a text that is not octal. -/
def faultyMembers : List (String × Value) :=
  [(tableField, dataOf [("a", .int 5), ("b", .text "0027"), ("c", .null)]),
    ("later", .list [.null]),
    (umaskField, .int 512), (modeField, .text "0899")]

/-- Four faults, in the order of the fields and not in that of the data; without them, the same
members give settings. -/
theorem fields_apart_faulty :
    (dataOf faultyMembers).Plain ∧
    validate (dataOf faultyMembers) =
      .error [⟨[.name modeField], .notOctal "0899"⟩, ⟨[.name umaskField], .above 0o777⟩,
        ⟨[.name tableField, .name "a"], .notText⟩, ⟨[.name tableField, .name "c"], .notText⟩] ∧
    ∃ s, validate (dataOf (only "later" faultyMembers)) = .ok s ∧
      s.extra.entries = [("later", .list [.null])] := by
  have table : (dataOf [("a", .int 5), ("b", .text "0027"), ("c", .null)]).Plain :=
    .map (by decide) (by simp [Value.Plain.int, Value.Plain.text, Value.Plain.null])
  have list : (Value.list [.null]).Plain := .list (by simp [Value.Plain.null])
  have plain : (dataOf faultyMembers).Plain :=
    .map (by decide) (by simp [faultyMembers, table, list, Value.Plain.int, Value.Plain.text])
  have other : (dataOf (only "later" faultyMembers)).Plain :=
    .map (by decide) fun e member => (plain_dataOf plain).2 e (List.mem_filter.mp member).1
  obtain ⟨-, -, refused, -⟩ := fields_apart plain
  obtain ⟨-, -, -, taken, kept⟩ := fields_apart other
  obtain ⟨s, valid⟩ := taken rfl
  obtain ⟨-, -, -, beside⟩ := kept s valid
  exact ⟨plain, refused (by decide), s, valid, beside⟩

end Settings

end FileMode
