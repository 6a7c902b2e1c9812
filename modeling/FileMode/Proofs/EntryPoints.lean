import FileMode.Loading
import FileMode.Proofs.Encoding
import FileMode.Proofs.ValidatedSettings

/-!
Three ways to settings, compared: from the text of a document, from a file that holds the text, and
from the data that the document stands for.

A file gives back the text that was encoded into it, so that the first two ways are one
(`load_encode`). Neither goes on with the value of the document as it is: a value that counts as
nothing is taken for data without entries (`ofDocument_eq`). Among the values that count as nothing
are some that are neither missing nor a map, and that validation refuses
(`ofData_of_not_map`); on these, and on no others, the ways part.
-/

namespace FileMode.Settings

/-- The data that a document stands for, where a missing value stands for a map without entries. -/
def dataOfDocument : Value → Value
  | .null => .map []
  | v => v

/-- Data without entries gives the initial settings. -/
theorem ofData_empty : ofData (.map []) = .ok initial := rfl

/-- Data that is no map is refused as a whole. -/
theorem ofData_of_not_map {v : Value} (noMap : v.kind ≠ .map) :
    ofData v = .error (.settings [⟨[], .notSettings⟩]) := by
  cases v with
  | map entries => exact absurd rfl noMap
  | _ => rfl

theorem ofData_eq_ok_or_error (v : Value) :
    (∃ s, ofData v = .ok s) ∨ ∃ cs, ofData v = .error (.settings cs) := by
  unfold ofData
  cases validate v with
  | ok s => exact .inl ⟨s, rfl⟩
  | error cs => exact .inr ⟨cs, rfl⟩

/-- The settings of a document whose value is known. -/
theorem ofText_of_read {text : String} {v : Value} (read : Document.read text = .ok v)
    (path : Option String) : ofText text path = ofDocument v := by
  rw [ofText, read]
  rfl

/-- A value that counts as nothing gives the initial settings, and any other is validated. -/
theorem ofDocument_eq (v : Value) :
    ofDocument v = if v.isVacant then .ok initial else ofData v := by
  unfold ofDocument
  split
  · exact ofData_empty
  · rfl

/-- A document that does not count as nothing is validated as it stands. -/
theorem ofText_of_present {text : String} {v : Value} (read : Document.read text = .ok v)
    (present : v.isVacant = false) (path : Option String) : ofText text path = ofData v := by
  rw [ofText_of_read read, ofDocument_eq, present, if_neg Bool.false_ne_true]

/-- The fault of a document that is not read is told with its path. -/
theorem ofText_of_unread {text : String} {fault : Document.Fault}
    (unread : Document.read text = .error fault) (path : Option String) :
    ofText text path = .error (.document fault path) := by
  rw [ofText, unread]
  rfl

/-- The settings in a file that holds a text without carriage returns are those of the text. -/
theorem load_encode {tree : FileTree} {path text : String} (plain : '\r' ∉ text.toList)
    (held : tree.find? (Path.parse path) = some (.file (Text.Utf8.encode text))) :
    (load tree path).map Prod.fst = ofText text (some (Path.parse path).text) := by
  simp only [load, held, ofEntry, ofBytes, Files.textOf_encode plain, Except.mapError, bind,
    Except.bind]
  cases ofText text (some (Path.parse path).text) with
  | ok s => rfl
  | error f => rfl

/-- Both ways through a document agree with the way of its data exactly if the document is not one
of those that count as nothing without being missing or a map. -/
theorem ofDocument_eq_ofData_iff (v : Value) :
    ofDocument v = ofData (dataOfDocument v) ↔ (v.isVacant = true → v = .null ∨ v = .map []) := by
  rw [ofDocument_eq]
  cases vacant : v.isVacant with
  | false =>
      have present : dataOfDocument v = v := by
        cases v with
        | null => cases vacant
        | _ => rfl
      simp [present]
  | true =>
      rw [if_pos rfl]
      cases v with
      | null => exact iff_of_true ofData_empty.symm fun _ => .inl rfl
      | map entries =>
          have none : entries = [] := List.isEmpty_iff.mp vacant
          subst none
          exact iff_of_true ofData_empty.symm fun _ => .inr rfl
      | _ =>
          refine iff_of_false (fun same => ?_) (by simp)
          cases same

/-- **Three ways to settings.** Let a text without carriage returns be read as a document of some
value, and let a file hold the bytes of the text. The text and the file give the same: settings, or
the same complaints. It is what the value gives as data, unless the value counts as nothing and is
neither missing nor a map, in which case the two give the initial settings and the data is refused.
A value that is no map and does not count as nothing is refused each way. -/
theorem entry_points {tree : FileTree} {path text : String} {v : Value}
    (plain : '\r' ∉ text.toList)
    (held : tree.find? (Path.parse path) = some (.file (Text.Utf8.encode text)))
    (read : Document.read text = .ok v) :
    (load tree path).map Prod.fst = ofText text none ∧
    ((∃ s, ofText text none = .ok s) ∨ ∃ cs, ofText text none = .error (.settings cs)) ∧
    (ofText text none = ofData (dataOfDocument v) ↔
      (v.isVacant = true → v = .null ∨ v = .map [])) ∧
    (v.isVacant = true → ofText text none = .ok initial) ∧
    (v.isVacant = false → v.kind ≠ .map →
      ofText text none = .error (.settings [⟨[], .notSettings⟩])) := by
  rw [load_encode plain held, ofText_of_read read, ofText_of_read read]
  refine ⟨rfl, ofData_eq_ok_or_error _, ofDocument_eq_ofData_iff v, fun vacant => ?_,
    fun present noMap => ?_⟩
  · rw [ofDocument_eq, if_pos vacant]
  · rw [ofDocument_eq, if_neg (by simp [present]), ofData_of_not_map noMap]

/-- A text of which a file holds the bytes. -/
def modeText : String := "default_mode: '0750'\n"

def modeValue : Value := .map [(.text modeField, .text "0750")]

theorem read_modeText : Document.read modeText = .ok modeValue := by
  have scanned : Document.tokens modeText.toList =
      [.blockMapping, .key, .scalar "default_mode" true, .value, .scalar "0750" false, .blockEnd,
        .textEnd] := rfl
  have made : Document.Node.ofTokens
      [.blockMapping, .key, .scalar "default_mode" true, .value, .scalar "0750" false, .blockEnd,
        .textEnd] =
      .ok (some (.mapping .mapping
        [(.scalar .text "default_mode".toList, .scalar .text "0750".toList)])) := rfl
  rw [Document.read_of_stages scanned made]
  rfl

/-- The three ways agree on a document with a map in it. -/
theorem entry_points_map :
    let tree : FileTree := .ofLists [("conf.yaml", Text.Utf8.encode modeText)] []
    '\r' ∉ modeText.toList ∧
    Document.read modeText = .ok modeValue ∧
    (load tree "conf.yaml").map Prod.fst = .ok { initial with defaultMode := 0o750 } ∧
    ofText modeText none = .ok { initial with defaultMode := 0o750 } ∧
    ofData modeValue = .ok { initial with defaultMode := 0o750 } := by
  intro tree
  have plain : '\r' ∉ modeText.toList := by decide
  have held : tree.find? (Path.parse "conf.yaml") = some (.file (Text.Utf8.encode modeText)) := rfl
  obtain ⟨same, -, agree, -⟩ := entry_points plain held read_modeText
  have data : ofData modeValue = .ok { initial with defaultMode := 0o750 } := rfl
  have text : ofText modeText none = .ok { initial with defaultMode := 0o750 } :=
    (agree.mpr fun vacant => (by cases vacant)).trans data
  exact ⟨plain, read_modeText, same.trans text, text, data⟩

/-- A list without members: the document gives settings, and its data is refused. -/
theorem vacant_list :
    Document.read "[]" = .ok (.list []) ∧ ofText "[]" none = .ok initial ∧
      ofData (.list []) = .error (.settings [⟨[], .notSettings⟩]) ∧
      ofText "[]" none ≠ ofData (.list []) := by
  have text : ofText "[]" none = .ok initial := rfl
  refine ⟨rfl, text, rfl, fun same => ?_⟩
  cases text.symm.trans same

end FileMode.Settings
