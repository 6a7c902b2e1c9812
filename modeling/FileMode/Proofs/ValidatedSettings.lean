import FileMode.Proofs.Digital
import FileMode.Settings

/-!
What validated settings satisfy, and what their validation gives once more.

* `validate_eq_ok` says what it takes for data to give settings, field by field (`Reads`).
* `Reads.conforms`: whatever the data is, the settings conform to the schema.
* `Conforms.validate_toValue`: settings that conform are read again as they are. Each field is
  converted to itself, since an integer is taken as it is, and the other entries are kept, none of
  which has the name of a field.

`validated_settings` puts them together.
-/

namespace FileMode.Settings

/-! ### What validation takes -/

/-- Data gives settings: each field is converted, or has its initial value where the data does not
give it; the other entries are kept, and no key is refused. -/
structure Reads (entries : List (Value × Value)) (s : Settings) : Prop where
  mode : convert initialMode (integerField modeField maxMode) (field? modeField entries) =
    .ok s.defaultMode
  umask : convert initialUmask (integerField umaskField maxUmask) (field? umaskField entries) =
    .ok s.defaultUmask
  table : convert .empty toTable (field? tableField entries) = .ok s.table
  extra : s.extra = Table.ofList (entries.filterMap extraMember?)
  keys : (entries.filterMap fun e => keyComplaint? e.1) = []

theorem validate_eq_ok {data : Value} {s : Settings} :
    validate data = .ok s ↔ ∃ entries, data = .map entries ∧ Reads entries s := by
  constructor
  · intro valid
    cases data with
    | map entries =>
        simp only [validate] at valid
        split at valid
        · rename_i mode umask table keys
          cases valid
          exact ⟨entries, rfl, mode, umask, table, rfl, keys⟩
        · cases valid
    | _ => cases valid
  · rintro ⟨entries, rfl, mode, umask, table, extra, keys⟩
    simp only [validate, mode, umask, table, keys, ← extra]

theorem convert_eq_ok {α : Type} {initial a : α} {f : Value → Except (List Complaint) α}
    {v : Option Value} :
    convert initial f v = .ok a ↔ (v = none ∧ initial = a) ∨ ∃ w, v = some w ∧ f w = .ok a := by
  cases v with
  | none => simp [convert]
  | some w => simp [convert]

/-- The checks of a converted integer, in their order. -/
theorem toBounded_of_toInteger {limit n : Int} {v : Value} (converted : toInteger v = .ok n) :
    toBounded limit v =
      if limit < n then .error (.above limit) else if n < 0 then .error .negative else .ok n := by
  rw [toBounded, converted]
  by_cases above : limit < n
  · rw [if_pos above]
    exact if_pos above
  · by_cases negative : n < 0
    · simp only [bind, Except.bind, if_neg above, if_pos negative]
      rfl
    · simp only [bind, Except.bind, if_neg above, if_neg negative]
      rfl

theorem toBounded_eq_ok {limit n : Int} {v : Value} :
    toBounded limit v = .ok n ↔ toInteger v = .ok n ∧ 0 ≤ n ∧ n ≤ limit := by
  cases converted : toInteger v with
  | error r =>
      rw [toBounded, converted]
      exact ⟨fun bounded => (by cases bounded), fun ⟨same, _⟩ => (by cases same)⟩
  | ok m =>
      rw [toBounded_of_toInteger converted, Except.ok.injEq]
      constructor
      · intro bounded
        split at bounded
        · cases bounded
        · split at bounded
          · cases bounded
          · cases bounded
            exact ⟨rfl, by omega, by omega⟩
      · rintro ⟨rfl, nonneg, below⟩
        rw [if_neg (Int.not_lt.mpr below), if_neg (Int.not_lt.mpr nonneg)]

theorem integerField_eq_ok {name : String} {limit n : Int} {v : Value} :
    integerField name limit v = .ok n ↔ toInteger v = .ok n ∧ 0 ≤ n ∧ n ≤ limit := by
  rw [← toBounded_eq_ok, integerField]
  cases toBounded limit v with
  | error r => simp [Except.mapError]
  | ok m => simp [Except.mapError]

/-! ### What validated settings satisfy -/

/-- What the schema asks of settings: bounded integers, a table that is one of texts under texts,
and no two entries of one name, be they fields or others. -/
structure Conforms (s : Settings) : Prop where
  mode_nonneg : 0 ≤ s.defaultMode
  mode_le : s.defaultMode ≤ 0o7777
  umask_nonneg : 0 ≤ s.defaultUmask
  umask_le : s.defaultUmask ≤ 0o777
  table_keys : s.table.keys.Nodup
  table_texts : toTable (tableValue s.table) = .ok s.table
  extra_keys : s.extra.keys.Nodup
  extra_apart : ∀ name ∈ fields, name ∉ s.extra.keys

/-- Texts under texts are no fault of a table. -/
theorem entryComplaints_texts (e : String × String) :
    entryComplaints (.text e.1) (.text e.2) = [] := rfl

/-- A table that is written out is read as the same table. -/
theorem toTable_tableValue {t : Table String} (distinct : t.keys.Nodup) :
    toTable (tableValue t) = .ok t := by
  have sound : ((tableEntries t).flatMap fun e => entryComplaints e.1 e.2) = [] := by
    rw [List.flatMap_eq_nil_iff]
    intro e member
    obtain ⟨pair, -, rfl⟩ := List.mem_map.mp member
    exact entryComplaints_texts pair
  have texts : (tableEntries t).filterMap entryTexts? = t.entries := by
    have each :
        (entryTexts? ∘ fun e : String × String => (Value.text e.1, Value.text e.2)) = some := rfl
    rw [tableEntries, List.filterMap_map, each, List.filterMap_some]
  simp only [toTable, tableValue, sound, texts, Table.ofList_of_nodup distinct]

/-- The table that a value gives has no two entries of one name. -/
theorem nodup_of_toTable {v : Value} {t : Table String} (read : toTable v = .ok t) :
    t.keys.Nodup := by
  unfold toTable at read
  split at read
  · split at read
    · cases read
      exact Table.nodup_keys_ofList _
    · cases read
  · cases read

/-- A field in data is within its bounds, and so is its initial value. -/
theorem bounds_of_convert {name : String} {initial limit n : Int} {v : Option Value}
    (nonneg : 0 ≤ initial) (below : initial ≤ limit)
    (converted : convert initial (integerField name limit) v = .ok n) : 0 ≤ n ∧ n ≤ limit := by
  rcases convert_eq_ok.mp converted with ⟨-, rfl⟩ | ⟨w, -, field⟩
  · exact ⟨nonneg, below⟩
  · exact (integerField_eq_ok.mp field).2

variable {entries : List (Value × Value)} {s : Settings}

theorem extraMember?_eq_some {e : Value × Value} {name : String} {v : Value} :
    extraMember? e = some (name, v) ↔ e = (.text name, v) ∧ name ∉ fields := by
  obtain ⟨key, value⟩ := e
  cases key with
  | text t =>
      by_cases known : t ∈ fields
      · constructor
        · intro kept
          simp [extraMember?, known] at kept
        · rintro ⟨same, unknown⟩
          cases same
          exact absurd known unknown
      · constructor
        · intro kept
          simp only [extraMember?, List.contains_iff_mem.not.mpr known, Bool.false_eq_true,
            if_false, Option.some.injEq, Prod.mk.injEq] at kept
          obtain ⟨rfl, rfl⟩ := kept
          exact ⟨rfl, known⟩
        · rintro ⟨same, -⟩
          cases same
          simp [extraMember?, known]
  | _ => simp [extraMember?]

theorem Reads.extra_apart (reads : Reads entries s) : ∀ name ∈ fields, name ∉ s.extra.keys := by
  intro name known beside
  rw [reads.extra, Table.mem_keys_ofList] at beside
  obtain ⟨⟨key, v⟩, member, rfl⟩ := List.mem_map.mp beside
  obtain ⟨e, -, kept⟩ := List.mem_filterMap.mp member
  exact (extraMember?_eq_some.mp kept).2 known

theorem Reads.conforms (reads : Reads entries s) : Conforms s := by
  obtain ⟨modeNonneg, modeBelow⟩ := bounds_of_convert (by decide) (by decide) reads.mode
  obtain ⟨umaskNonneg, umaskBelow⟩ := bounds_of_convert (by decide) (by decide) reads.umask
  have distinct : s.table.keys.Nodup := by
    rcases convert_eq_ok.mp reads.table with ⟨-, initial⟩ | ⟨v, -, read⟩
    · exact initial ▸ List.nodup_nil
    · exact nodup_of_toTable read
  exact
    { mode_nonneg := modeNonneg
      mode_le := modeBelow
      umask_nonneg := umaskNonneg
      umask_le := umaskBelow
      table_keys := distinct
      table_texts := toTable_tableValue distinct
      extra_keys := reads.extra ▸ Table.nodup_keys_ofList _
      extra_apart := reads.extra_apart }

/-- Decoding the nine bits of a umask that conforms loses nothing of it. -/
theorem Conforms.digital_umask (conforms : Conforms s) :
    ((Mode.ofDigital s.defaultUmask).digital : Int) = s.defaultUmask := by
  have nonneg := conforms.umask_nonneg
  have below := conforms.umask_le
  rw [Mode.digital_ofDigital]
  omega

/-! ### Validation once more -/

/-- The entries of settings: the fields, and then those beside them. -/
def members (s : Settings) : List (String × Value) :=
  (modeField, .int s.defaultMode) :: (umaskField, .int s.defaultUmask) ::
    (tableField, tableValue s.table) :: s.extra.entries

/-- The data that arises when the entries of settings are written one after the other. -/
def rebuilt (s : Settings) : Value :=
  .map (Value.ofPairs Value.same (s.members.map Value.textEntry))

/-- Entries under texts are kept beside the fields unless they have the name of one. -/
theorem filterMap_extraMember?_texts (texts : List (String × Value)) :
    (texts.map Value.textEntry).filterMap extraMember? =
      texts.filter fun e => !fields.contains e.1 := by
  have each : extraMember? ∘ Value.textEntry = Option.guard fun e => !fields.contains e.1 := by
    funext e
    by_cases known : e.1 ∈ fields
    · simp [Value.textEntry, extraMember?, Option.guard, known]
    · simp [Value.textEntry, extraMember?, Option.guard, known]
  rw [List.filterMap_map, each, List.filterMap_eq_filter]

/-- No text is refused as a key. -/
theorem filterMap_keyComplaint?_texts (texts : List (String × Value)) :
    ((texts.map Value.textEntry).filterMap fun e => keyComplaint? e.1) = [] := by
  rw [List.filterMap_map]
  exact List.filterMap_eq_nil_iff.mpr fun e _ => rfl

/-- Entries that all stand under texts give settings if their fields are converted. -/
theorem reads_texts {texts : List (String × Value)}
    (mode : convert initialMode (integerField modeField maxMode) (texts.lookup modeField) =
      .ok s.defaultMode)
    (umask : convert initialUmask (integerField umaskField maxUmask) (texts.lookup umaskField) =
      .ok s.defaultUmask)
    (table : convert .empty toTable (texts.lookup tableField) = .ok s.table)
    (others : s.extra = Table.ofList (texts.filter fun e => !fields.contains e.1)) :
    Reads (texts.map Value.textEntry) s := by
  have field (name : String) : field? name (texts.map Value.textEntry) = texts.lookup name :=
    Value.valueUnder?_texts name texts
  exact
    { mode := by rw [field, mode]
      umask := by rw [field, umask]
      table := by rw [field, table]
      extra := by rw [filterMap_extraMember?_texts, others]
      keys := filterMap_keyComplaint?_texts texts }

/-- No write to the rebuilt data meets another, since no two entries have one name. -/
theorem Conforms.rebuilt_eq (conforms : Conforms s) : s.rebuilt = s.toValue := by
  have names : s.members.map Prod.fst = fields ++ s.extra.keys := rfl
  have distinct : (s.members.map Prod.fst).Nodup := by
    rw [names]
    exact List.nodup_append.mpr ⟨by decide, conforms.extra_keys,
      fun name known other beside same => conforms.extra_apart name known (same ▸ beside)⟩
  rw [rebuilt, Value.ofPairs_texts, Table.ofList_of_nodup distinct]
  rfl

/-- Settings that conform are read again as they are: each field stands under its name alone, and is
converted to itself. -/
theorem Conforms.validate_toValue (conforms : Conforms s) : validate s.toValue = .ok s := by
  have beside : (s.members.filter fun e => !fields.contains e.1) = s.extra.entries := by
    have fieldsGone : (s.members.filter fun e => !fields.contains e.1) =
        s.extra.entries.filter fun e => !fields.contains e.1 := rfl
    rw [fieldsGone, List.filter_eq_self]
    intro e member
    have unknown : e.1 ∉ fields := fun known =>
      conforms.extra_apart e.1 known (List.mem_map_of_mem member)
    simp [unknown]
  have reads : Reads (s.members.map Value.textEntry) s := by
    refine reads_texts ?_ ?_ conforms.table_texts ?_
    · exact integerField_eq_ok.mpr ⟨rfl, conforms.mode_nonneg, conforms.mode_le⟩
    · exact integerField_eq_ok.mpr ⟨rfl, conforms.umask_nonneg, conforms.umask_le⟩
    · rw [beside, Table.ofList_of_nodup conforms.extra_keys]
  exact validate_eq_ok.mpr ⟨_, rfl, reads⟩

/-- **What validation gives satisfies the schema, and is given again.** For any data, the settings
that it gives conform to the schema: the bounds hold, and no entry beside the fields has the name of
one. Nothing of their umask is lost when its nine bits are decoded, and the data that is rebuilt
from the settings gives the same settings, its entries in the same order. -/
theorem validated_settings {data : Value} (valid : validate data = .ok s) :
    Conforms s ∧
    ((Mode.ofDigital s.defaultUmask).digital : Int) = s.defaultUmask ∧
    validate s.rebuilt = .ok s := by
  obtain ⟨entries, rfl, reads⟩ := validate_eq_ok.mp valid
  have conforms : Conforms s := reads.conforms
  refine ⟨conforms, conforms.digital_umask, ?_⟩
  rw [conforms.rebuilt_eq]
  exact conforms.validate_toValue

/-- Data that gives a mode as a text with sign, prefix, underscore and blanks, a umask as a floating
point number and a table with a byte string for a key, and has an entry beside the fields. -/
def mixedData : Value :=
  .map [(.text "notes", .list [.null, .map [(.int 1, .bool true)]]),
    (.text umaskField, .float (.finite false 0x12000000000000 (-48))),
    (.text tableField, .map [(.bytes [0x6b], .text "v"), (.text "umask", .bytes [0x37])]),
    (.text modeField, .text " +0o7_755\n")]

/-- What `mixedData` gives: a mode of more than nine bits, and texts in the table. -/
def mixedSettings : Settings :=
  ⟨0o7755, 0o022, ⟨[("k", "v"), ("umask", "7")]⟩,
    ⟨[("notes", .list [.null, .map [(.int 1, .bool true)]])]⟩⟩

/-- A text is read in base eight once: the integer that it gives is taken as it is from then on. -/
theorem validated_settings_mixed :
    validate mixedData = .ok mixedSettings ∧
    validate mixedSettings.rebuilt = .ok mixedSettings := by
  have valid : validate mixedData = .ok mixedSettings := rfl
  obtain ⟨-, -, again⟩ := validated_settings valid
  exact ⟨valid, again⟩

end FileMode.Settings
