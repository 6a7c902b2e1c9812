/-!
Tables from texts to values that keep the order in which keys first arrived. A key that is written
again keeps its place and takes the new value.
-/

namespace FileMode

/-- A table, as its entries in order. No operation of this module makes two entries of one key. -/
structure Table (α : Type) where
  entries : List (String × α)

namespace Table

variable {α : Type}

def empty : Table α := ⟨[]⟩

def get? (t : Table α) (key : String) : Option α :=
  t.entries.lookup key

/-- Writes a value among entries: in the place of the first entry of the key, or at the end. -/
def write (key : String) (value : α) : List (String × α) → List (String × α)
  | [] => [(key, value)]
  | e :: entries => if e.1 = key then (key, value) :: entries else e :: write key value entries

def insert (t : Table α) (key : String) (value : α) : Table α :=
  ⟨write key value t.entries⟩

/-- The table that a list of writes makes. -/
def ofList (writes : List (String × α)) : Table α :=
  writes.foldl (fun t e => t.insert e.1 e.2) empty

def keys (t : Table α) : List String := t.entries.map Prod.fst

def size (t : Table α) : Nat := t.entries.length

/-! ### What a look-up sees of a write -/

theorem lookup_cons (key other : String) (value : α) (entries : List (String × α)) :
    ((key, value) :: entries).lookup other =
      if other = key then some value else entries.lookup other := by
  by_cases same : other = key
  · simp [same]
  · have apart : (other == key) = false := by simpa using same
    simp [List.lookup_cons, same, apart]

theorem lookup_write (key other : String) (value : α) (entries : List (String × α)) :
    (write key value entries).lookup other =
      if other = key then some value else entries.lookup other := by
  induction entries with
  | nil => simp [write, lookup_cons]
  | cons e entries hyp =>
    obtain ⟨k, v⟩ := e
    by_cases here : k = key
    · by_cases same : other = key <;> simp [write, here, lookup_cons, same]
    · by_cases found : other = k
      · simp [write, here, found]
      · simp [write, here, lookup_cons, found, hyp]

/-- A look-up after a write sees the new value under the written key and nothing else changed. -/
theorem get?_insert (t : Table α) (key other : String) (value : α) :
    (t.insert key value).get? other = if other = key then some value else t.get? other :=
  lookup_write key other value t.entries

/-! ### Keys -/

theorem keys_write (key : String) (value : α) (entries : List (String × α)) :
    (write key value entries).map Prod.fst =
      if key ∈ entries.map Prod.fst then entries.map Prod.fst
      else entries.map Prod.fst ++ [key] := by
  induction entries with
  | nil => simp [write]
  | cons e entries hyp =>
    by_cases here : e.1 = key
    · simp [write, here]
    · have apart : ¬ key = e.1 := fun same => here same.symm
      simp only [write, if_neg here, List.map_cons, hyp, List.mem_cons, apart, false_or]
      split <;> simp

/-- A key that is not there yet is written at the end. -/
theorem write_of_fresh {key : String} {entries : List (String × α)}
    (fresh : key ∉ entries.map Prod.fst) (value : α) :
    write key value entries = entries ++ [(key, value)] := by
  induction entries with
  | nil => rfl
  | cons e entries hyp =>
    rw [List.map_cons, List.mem_cons, not_or] at fresh
    rw [write, if_neg fun same => fresh.1 same.symm, hyp fresh.2, List.cons_append]

/-- No operation makes two entries of one key. -/
theorem nodup_keys_insert {t : Table α} (distinct : t.keys.Nodup) (key : String) (value : α) :
    (t.insert key value).keys.Nodup := by
  unfold keys at distinct ⊢
  rw [insert, keys_write]
  split
  · exact distinct
  · rename_i fresh
    refine List.nodup_append.mpr ⟨distinct, by simp, fun k member l single => ?_⟩
    rw [List.mem_singleton.mp single]
    exact fun same => fresh (same ▸ member)

theorem mem_keys_insert {t : Table α} {key written : String} {value : α} :
    key ∈ (t.insert written value).keys ↔ key ∈ t.keys ∨ key = written := by
  unfold keys
  rw [insert, keys_write]
  split
  · rename_i there
    exact ⟨Or.inl, fun either => either.elim id fun same => same ▸ there⟩
  · rw [List.mem_append, List.mem_singleton]

def insertAll (t : Table α) (writes : List (String × α)) : Table α :=
  writes.foldl (fun t e => t.insert e.1 e.2) t

theorem nodup_keys_insertAll {t : Table α} (distinct : t.keys.Nodup)
    (writes : List (String × α)) : (t.insertAll writes).keys.Nodup := by
  induction writes generalizing t with
  | nil => exact distinct
  | cons e writes hyp => exact hyp (nodup_keys_insert distinct e.1 e.2)

theorem mem_keys_insertAll {t : Table α} {writes : List (String × α)} {key : String} :
    key ∈ (t.insertAll writes).keys ↔ key ∈ t.keys ∨ key ∈ writes.map Prod.fst := by
  induction writes generalizing t with
  | nil => simp [insertAll]
  | cons e writes hyp =>
    unfold insertAll at hyp ⊢
    rw [List.foldl_cons, hyp, mem_keys_insert, List.map_cons, List.mem_cons, or_assoc]

/-- Keys that are not there yet, and no two of them the same, are written at the end. -/
theorem insertAll_of_nodup (entries : List (String × α)) {writes : List (String × α)}
    (distinct : ((entries ++ writes).map Prod.fst).Nodup) :
    insertAll ⟨entries⟩ writes = ⟨entries ++ writes⟩ := by
  induction writes generalizing entries with
  | nil => exact congrArg Table.mk (List.append_nil entries).symm
  | cons e writes hyp =>
    have fresh : e.1 ∉ entries.map Prod.fst := by
      intro member
      rw [List.map_append, List.map_cons] at distinct
      exact (List.nodup_append.mp distinct).2.2 e.1 member e.1 List.mem_cons_self rfl
    unfold insertAll at hyp ⊢
    rw [List.append_cons] at distinct ⊢
    rw [List.foldl_cons, insert, write_of_fresh fresh]
    exact hyp _ distinct

theorem nodup_keys_ofList (writes : List (String × α)) : (ofList writes).keys.Nodup :=
  have none : (empty : Table α).keys.Nodup := List.nodup_nil
  nodup_keys_insertAll none writes

theorem mem_keys_ofList {writes : List (String × α)} {key : String} :
    key ∈ (ofList writes).keys ↔ key ∈ writes.map Prod.fst :=
  mem_keys_insertAll.trans (or_iff_right List.not_mem_nil)

/-- Writes of distinct keys stay as they are. -/
theorem ofList_of_nodup {writes : List (String × α)} (distinct : (writes.map Prod.fst).Nodup) :
    ofList writes = ⟨writes⟩ :=
  insertAll_of_nodup [] distinct

end Table

end FileMode
