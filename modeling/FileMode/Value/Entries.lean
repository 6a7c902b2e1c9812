import FileMode.Table
import FileMode.Value

/-!
Entries of maps, in the order in which their keys first arrived. A key that is written again keeps
its place and takes the new value. Keys may be of any kind but that of a collection; which of them
count as one is for the operation to say, and equal ones do unless it says otherwise.

The lemmas tell what a look-up of a text sees of a write and of a removal.
-/

namespace FileMode.Value

/-- The entries after `value` is written under `key`. The keys that `agree` relates are one. -/
def insertEntry (agree : Value → Value → Bool) (key value : Value) :
    List (Value × Value) → List (Value × Value)
  | [] => [(key, value)]
  | e :: entries =>
    if agree e.1 key then (e.1, value) :: entries
    else e :: insertEntry agree key value entries

/-- The entries that remain of a list of pairs when later ones replace earlier ones of the same
key. -/
def ofPairs (agree : Value → Value → Bool) (pairs : List (Value × Value)) : List (Value × Value) :=
  pairs.foldl (fun entries e => insertEntry agree e.1 e.2 entries) []

/-- The members that remain of a list when repeated ones are left out. -/
def distinct (agree : Value → Value → Bool) (xs : List Value) : List Value :=
  (ofPairs agree (xs.map (·, .null))).map Prod.fst

def valueUnder? (key : Value) (entries : List (Value × Value)) : Option Value :=
  (entries.find? fun e => same e.1 key).map Prod.snd

def eraseEntry (key : Value) (entries : List (Value × Value)) : List (Value × Value) :=
  entries.filter fun e => !same e.1 key

/-! ### What a look-up of a text sees -/

/-- Only the text itself is equal to a text. -/
theorem same_text (v : Value) (s : String) : same v (.text s) = true ↔ v = .text s := by
  cases v <;> simp [same, sameNumber, toInt?]

/-- A text is equal to itself only. -/
theorem text_same (s : String) (v : Value) : same (.text s) v = true ↔ v = .text s := by
  cases v with
  | text t =>
    simp only [same, beq_iff_eq, text.injEq]
    exact eq_comm
  | _ => simp [same, sameNumber, toInt?]

/-- Two equal keys are equal to the same texts. -/
theorem same_text_congr {k key : Value} (agree : same k key = true) (s : String) :
    same k (.text s) = same key (.text s) := by
  rw [Bool.eq_iff_iff, same_text, same_text]
  constructor
  · rintro rfl
    exact (text_same s key).mp agree
  · rintro rfl
    exact (same_text k s).mp agree

theorem valueUnder?_cons (e : Value × Value) (entries : List (Value × Value)) (key : Value) :
    valueUnder? key (e :: entries) =
      if same e.1 key then some e.2 else valueUnder? key entries := by
  by_cases here : same e.1 key = true <;> simp [valueUnder?, here]

/-- A look-up after a write sees the new value under the written key and nothing else changed. -/
theorem valueUnder?_insertEntry (key value : Value) (s : String)
    (entries : List (Value × Value)) :
    valueUnder? (.text s) (insertEntry same key value entries) =
      if same key (.text s) then some value else valueUnder? (.text s) entries := by
  induction entries with
  | nil => simp [insertEntry, valueUnder?_cons]
  | cons e entries hyp =>
    by_cases here : same e.1 key = true
    · by_cases found : same key (.text s) = true <;>
        simp [insertEntry, here, valueUnder?_cons, same_text_congr here s, found]
    · by_cases found : same e.1 (.text s) = true
      · have apart : ¬ same key (.text s) = true := by
          intro written
          rw [(same_text e.1 s).mp found, (same_text key s).mp written] at here
          exact here ((same_text (.text s) s).mpr rfl)
        simp [insertEntry, here, valueUnder?_cons, found, apart]
      · simp [insertEntry, here, valueUnder?_cons, found, hyp]

/-- A look-up after a removal sees nothing under the removed text and nothing else changed. -/
theorem valueUnder?_eraseEntry (removed s : String) (entries : List (Value × Value)) :
    valueUnder? (.text s) (eraseEntry (.text removed) entries) =
      if s = removed then none else valueUnder? (.text s) entries := by
  induction entries with
  | nil => simp [eraseEntry, valueUnder?]
  | cons e entries hyp =>
    unfold eraseEntry at hyp ⊢
    by_cases here : same e.1 (.text removed) = true
    · rw [List.filter_cons_of_neg (by simp [here]), hyp, valueUnder?_cons]
      by_cases equal : s = removed
      · simp [equal]
      · have apart : ¬ same e.1 (.text s) = true := by
          intro found
          rw [(same_text e.1 s).mp found, same_text] at here
          exact equal (Value.text.inj here)
        simp [equal, apart]
    · rw [List.filter_cons_of_pos (by simp [here]), valueUnder?_cons, valueUnder?_cons, hyp]
      by_cases found : same e.1 (.text s) = true
      · have apart : ¬ s = removed := by
          rintro rfl
          exact here found
        simp [found, apart]
      · simp [found]

/-! ### Entries under texts -/

def textEntry (e : String × Value) : Value × Value := (.text e.1, e.2)

theorem insertEntry_texts (key : String) (value : Value) (entries : List (String × Value)) :
    insertEntry same (.text key) value (entries.map textEntry) =
      (Table.write key value entries).map textEntry := by
  induction entries with
  | nil => rfl
  | cons e entries hyp =>
    have agree : same (textEntry e).1 (.text key) = true ↔ e.1 = key := by
      rw [same_text, textEntry, text.injEq]
    rw [List.map_cons, insertEntry, Table.write]
    by_cases here : e.1 = key
    · rw [if_pos (agree.mpr here), if_pos here, ← here]
      rfl
    · rw [if_neg (mt agree.mp here), if_neg here, hyp]
      rfl

/-- Writes under texts make the entries of a table. -/
theorem ofPairs_texts (writes : List (String × Value)) :
    ofPairs same (writes.map textEntry) = (Table.ofList writes).entries.map textEntry := by
  suffices every : ∀ entries : List (String × Value),
      (writes.map textEntry).foldl (fun entries e => insertEntry same e.1 e.2 entries)
          (entries.map textEntry) =
        (Table.insertAll ⟨entries⟩ writes).entries.map textEntry from every []
  induction writes with
  | nil => exact fun entries => rfl
  | cons e writes hyp =>
    intro entries
    have step : insertEntry same (textEntry e).1 (textEntry e).2 (entries.map textEntry) =
        (Table.write e.1 e.2 entries).map textEntry := insertEntry_texts e.1 e.2 entries
    rw [List.map_cons, List.foldl_cons, step]
    exact hyp _

/-- A look-up of a text among entries under texts. -/
theorem valueUnder?_texts (key : String) (entries : List (String × Value)) :
    valueUnder? (.text key) (entries.map textEntry) = entries.lookup key := by
  induction entries with
  | nil => rfl
  | cons e entries hyp =>
    rw [List.map_cons, valueUnder?_cons, hyp, Table.lookup_cons]
    simp only [textEntry, same_text, text.injEq, eq_comm (a := key)]

end FileMode.Value
