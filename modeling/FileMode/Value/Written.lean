import FileMode.Number.Shortest
import FileMode.Value

/-!
How values are written in messages. In its quoted form a value shows its kind: texts stand between
quotes and triads and modes under their names. The plain form differs for a text, which stands as it
is, and for triads, modes, dates and moments, which stand in their own written forms.

Mirrors `repr` (`quoted`) and `str` (`plain`).
-/

namespace FileMode

def Triad.quoted (t : Triad) : String :=
  "<PermissionBits." ++ t.name ++ ": " ++ Radix.decimal t.value ++ ">"

def Mode.quoted (m : Mode) : String :=
  "Mode(owner=" ++ m.owner.quoted ++ ", group=" ++ m.group.quoted ++ ", other=" ++
    m.other.quoted ++ ")"

def Calendar.zoneText (minutes : Int) : String :=
  if minutes = 0 then "datetime.timezone.utc"
  else "datetime.timezone(" ++ Calendar.spanText (minutes * 60) ++ ")"

namespace Value

/-- Numbers after a name, in parentheses. -/
def call (name : String) (numbers : List Nat) (more : List String) : String :=
  name ++ "(" ++ ", ".intercalate (numbers.map (fun n : Nat => Radix.decimal n) ++ more) ++ ")"

mutual

def quoted : Value → String
  | null => "None"
  | bool b => if b then "True" else "False"
  | int n => Radix.decimal n
  | float x => x.text
  | text s => Text.Quoted.quote s
  | bytes bs => Text.Quoted.quoteBytes bs
  | date d => call "datetime.date" d.numbers []
  | moment t =>
    call "datetime.datetime" t.numbers
      (t.offset.toList.map fun minutes => "tzinfo=" ++ Calendar.zoneText minutes)
  | list xs => "[" ++ ", ".intercalate (quotedList xs) ++ "]"
  | set xs => if xs.isEmpty then "set()" else "\x7b" ++ ", ".intercalate (quotedList xs) ++ "\x7d"
  | map entries => "\x7b" ++ ", ".intercalate (quotedEntries entries) ++ "\x7d"
  | triad t => t.quoted
  | mode m => m.quoted

def quotedList : List Value → List String
  | [] => []
  | x :: xs => quoted x :: quotedList xs

/-- The entries of a map, each as key and value with a colon between. -/
def quotedEntries : List (Value × Value) → List String
  | [] => []
  | e :: entries => quotedEntry e :: quotedEntries entries

def quotedEntry : Value × Value → String
  | (k, v) => quoted k ++ ": " ++ quoted v

end

def plain : Value → String
  | text s => s
  | date d => d.iso
  | moment t => t.iso.map fun c => if c = 'T' then ' ' else c
  | triad t => t.display
  | mode m => m.display
  | v => v.quoted

end Value

end FileMode
