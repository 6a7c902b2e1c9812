import FileMode.Number.Literal
import FileMode.Number.Numeral
import FileMode.Table
import FileMode.Text.Utf8
import FileMode.Value.Entries
import FileMode.Value.Written

/-!
Settings, and their validation. Data of any shape is read as settings: two modes given as octal
texts or as numbers, a table of texts, and entries of any other name, which are kept as they are.
All faults of the data are reported together, those of the fields in the order of the fields.

Mirrors `ModeSettings`: `validate` is `model_validate`, and a text is read as an integer by
`parse_octal_string`.
-/

namespace FileMode

/-- Settings whose fields satisfy the schema. -/
structure Settings where
  defaultMode : Int
  defaultUmask : Int
  /-- The settings of the table, by name. -/
  table : Table String
  /-- The entries that the schema does not know. -/
  extra : Table Value

inductive PathStep where
  | name (s : String)
  | index (i : Int)
deriving DecidableEq, Repr

/-- Why a part of the data is refused. -/
inductive Refusal where
  /-- The data as a whole is no map. -/
  | notSettings
  /-- A text is no octal number. -/
  | notOctal (text : String)
  | notInteger
  /-- A byte string is no integer. -/
  | notIntegerText
  | fractional
  | notFinite
  /-- A number is beyond those that are converted. -/
  | tooLarge
  | above (limit : Int)
  | negative
  | notMap
  | notText
  /-- A byte string is no text. -/
  | notEncoded
  /-- A key at the top is no text. -/
  | keyNotText
deriving DecidableEq, Repr

namespace Refusal

def message : Refusal → String
  | notSettings => "Input should be a valid dictionary or instance of ModeSettings"
  | notOctal text =>
    "Value error, Expected an octal string such as '0755'; got " ++ Text.Quoted.quote text ++ "."
  | notInteger => "Input should be a valid integer"
  | notIntegerText => "Input should be a valid integer, unable to parse string as an integer"
  | fractional => "Input should be a valid integer, got a number with a fractional part"
  | notFinite => "Input should be a finite number"
  | tooLarge => "Unable to parse input string as an integer, exceeded maximum size"
  | above limit => "Input should be less than or equal to " ++ Radix.decimal limit
  | negative => "Input should be greater than or equal to 0"
  | notMap => "Input should be a valid dictionary"
  | notText => "Input should be a valid string"
  | notEncoded => "Input should be a valid string, unable to parse raw data as a unicode string"
  | keyNotText => "Keys should be strings"

def code : Refusal → String
  | notSettings => "model_type"
  | notOctal _ => "value_error"
  | notInteger => "int_type"
  | notIntegerText => "int_parsing"
  | fractional => "int_from_float"
  | notFinite => "finite_number"
  | tooLarge => "int_parsing_size"
  | above _ => "less_than_equal"
  | negative => "greater_than_equal"
  | notMap => "dict_type"
  | notText => "string_type"
  | notEncoded => "string_unicode"
  | keyNotText => "invalid_key"

end Refusal

/-- A refusal and the part of the data that it concerns. -/
structure Complaint where
  place : List PathStep
  refusal : Refusal
deriving DecidableEq, Repr

namespace Settings

def modeField : String := "default_mode"

def umaskField : String := "default_umask"

def tableField : String := "settings"

def fields : List String := [modeField, umaskField, tableField]

def initialMode : Int := 0o777

def initialUmask : Int := 0o022

/-- The greatest mode that may be set. It has room for three bits more than a mode has. -/
def maxMode : Int := 0o7777

def maxUmask : Int := 0o777

def initial : Settings := ⟨initialMode, initialUmask, .empty, .empty⟩

/-! ### Conversion to integers -/

/-- The integers of a machine word lie below this. -/
def wordLimit : Int := 0x8000000000000000

def ofNumeral (cs : List Char) : Except Refusal Int :=
  (Numeral.read cs).mapError fun f =>
    match f with
    | .malformed => .notIntegerText
    | .tooLong => .tooLarge

def ofFloat (x : Binary64) : Except Refusal Int :=
  match x with
  | .finite .. =>
    match x.toInt? with
    | none => .error .fractional
    | some n => if -wordLimit < n && n < wordLimit then .ok n else .error .tooLarge
  | _ => .error .notFinite

/-- The integer that a value stands for. A text is read in base eight, a byte string in base ten. -/
def toInteger (v : Value) : Except Refusal Int :=
  match v with
  | .text s =>
    match Literal.integer 8 s.toList with
    | .ok n => .ok n
    | .error _ => .error (.notOctal s)
  | .bool b => .ok (if b then 1 else 0)
  | .int n => .ok n
  | .float x => ofFloat x
  | .triad t => .ok t.value
  | .bytes bs =>
    match Text.Utf8.decode bs with
    | .ok cs => ofNumeral cs
    | .error _ => .error .notIntegerText
  | _ => .error .notInteger

/-- The integer that a value stands for, if it is not negative and not above `limit`. -/
def toBounded (limit : Int) (v : Value) : Except Refusal Int := do
  let n ← toInteger v
  if limit < n then throw (.above limit)
  if n < 0 then throw .negative
  return n

/-! ### Conversion to texts -/

def decodeText (bs : List UInt8) : Except Refusal String :=
  match Text.Utf8.decode bs with
  | .ok cs => .ok (String.ofList cs)
  | .error _ => .error .notEncoded

def toText (v : Value) : Except Refusal String :=
  match v with
  | .text s => .ok s
  | .bytes bs => decodeText bs
  | .triad t => .ok (Radix.decimal t.value)
  | _ => .error .notText

/-- The step to the entry of a key. -/
def stepOf (key : Value) : PathStep :=
  match key with
  | .text s => .name s
  | _ =>
    match key.toInt? with
    | some n => if -wordLimit ≤ n && n < wordLimit then .index n else .name key.quoted
    | none => .name key.quoted

def entryComplaints (key value : Value) : List Complaint :=
  let step := stepOf key
  let about (place : List PathStep) (e : Except Refusal String) : List Complaint :=
    match e with
    | .ok _ => []
    | .error r => [⟨place, r⟩]
  about [.name tableField, step, .name "[key]"] (toText key) ++
    about [.name tableField, step] (toText value)

def entryTexts? (e : Value × Value) : Option (String × String) := do
  let key ← (toText e.1).toOption
  let value ← (toText e.2).toOption
  return (key, value)

def toTable (v : Value) : Except (List Complaint) (Table String) :=
  match v with
  | .map entries =>
    match entries.flatMap fun e => entryComplaints e.1 e.2 with
    | [] => .ok (Table.ofList (entries.filterMap entryTexts?))
    | complaints => .error complaints
  | _ => .error [⟨[.name tableField], .notMap⟩]

/-! ### Validation -/

def field? (name : String) (entries : List (Value × Value)) : Option Value :=
  Value.valueUnder? (.text name) entries

/-- The result of a conversion of a field, or what it is where the data does not give it. -/
def convert {α : Type} (initial : α) (f : Value → Except (List Complaint) α) (v : Option Value) :
    Except (List Complaint) α :=
  match v with
  | none => .ok initial
  | some v => f v

def integerField (name : String) (limit : Int) (v : Value) : Except (List Complaint) Int :=
  (toBounded limit v).mapError fun r => [⟨[.name name], r⟩]

def complaints {α : Type} : Except (List Complaint) α → List Complaint
  | .ok _ => []
  | .error cs => cs

/-- The entry that data adds to those that the schema does not know. -/
def extraMember? (e : Value × Value) : Option (String × Value) :=
  match e.1 with
  | .text s => if fields.contains s then none else some (s, e.2)
  | _ => none

/-- The complaint about a key at the top, where a byte string is no text either. -/
def keyComplaint? (key : Value) : Option Complaint :=
  match key with
  | .text _ => none
  | _ => some ⟨[stepOf key], .keyNotText⟩

def validate (data : Value) : Except (List Complaint) Settings :=
  match data with
  | .map entries =>
    let mode := convert initialMode (integerField modeField maxMode) (field? modeField entries)
    let umask := convert initialUmask (integerField umaskField maxUmask) (field? umaskField entries)
    let table := convert .empty toTable (field? tableField entries)
    let extra := Table.ofList (entries.filterMap extraMember?)
    match mode, umask, table, entries.filterMap fun e => keyComplaint? e.1 with
    | .ok mode, .ok umask, .ok table, [] => .ok ⟨mode, umask, table, extra⟩
    | mode, umask, table, keys =>
      .error (complaints mode ++ complaints umask ++ complaints table ++ keys)
  | _ => .error [⟨[], .notSettings⟩]

def tableEntries (t : Table String) : List (Value × Value) :=
  t.entries.map fun e => (.text e.1, .text e.2)

def tableValue (t : Table String) : Value := .map (tableEntries t)

/-- The data from which settings are read again: the fields and then the other entries. -/
def toValue (s : Settings) : Value :=
  .map ((.text modeField, .int s.defaultMode) :: (.text umaskField, .int s.defaultUmask) ::
    (.text tableField, tableValue s.table) :: s.extra.entries.map fun e => (.text e.1, e.2))

end Settings

end FileMode
