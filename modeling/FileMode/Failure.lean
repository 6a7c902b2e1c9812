import FileMode.Document.Fault
import FileMode.Message
import FileMode.Settings
import FileMode.Umask

/-!
Why an operation on values, settings or files has no result, with the wording of each cause.
-/

namespace FileMode

/-- A cause for which an operation has no result. -/
inductive Failure where
  /-- A value is shown where the display form of `expected` marks is wanted. -/
  | display (text : Value) (expected : Nat)
  | triad (v : Value)
  | umask (e : UmaskError)
  /-- A message lacks the argument of a number. -/
  | missingArgument (index : Nat)
  /-- A value of a kind that has no length is asked for it. -/
  | noLength (k : Kind)
  /-- A part of a map is asked for by places. -/
  | noParts
  /-- A value of a kind is asked for a member that the kind does not have. -/
  | noMember (k : Kind) (member : String)
  /-- A value of a kind is given to an operation on numbers. -/
  | noNumber (operation : String) (k : Kind)
  | noText (k : Kind)
  | noTriad (k : Kind)
  /-- A value of a kind is given for the triad of a class. -/
  | noTriadFor (c : UserClass) (k : Kind)
  | noEntries (k : Kind)
  /-- Where entries are wanted, the member numbered `index` has no members itself. -/
  | noEntry (index : Nat)
  /-- Where entries are wanted, the member numbered `index` has not two members but `members`. -/
  | noPair (index members : Nat)
  | noKey (k : Kind)
  /-- An entry is written under a text into a value of a kind that has no place for it. -/
  | noWriting (k : Kind)
  /-- The classes for which no triad is given. -/
  | missingTriads (classes : List UserClass)
  /-- More arguments than a call takes: its name, the numbers of arguments that it takes, and the
  number given. -/
  | excessArguments (call : String) (least most given : Nat)
  /-- A field of a mode is to be changed, or taken away. -/
  | frozen (field : String) (removal : Bool)
  /-- A document has no value. It may have been read from a file. -/
  | document (f : Document.Fault) (path : Option String)
  | settings (complaints : List Complaint)
  | missingFile (path : String)
  | directory (path : String)
  | longPath (path : String)
  | nullInPath
  | encoding (f : Text.Utf8.Fault)
  | unknownName (name : String)

inductive Failure.Category where
  | value | type | attribute | index | key | overflow | frozen | missingFile | directory | system
  | encoding | umask | settings | document
deriving DecidableEq, Repr

namespace Document.Fault

/-- The first characters of a text, as many as a message about an integer shows. -/
def excerpt (s : String) : String := String.ofList (s.toList.take 200)

def calendarMessage : CalendarError → String
  | .year y => "year " ++ Radix.decimal y ++ " is out of range"
  | .month => "month must be in 1..12"
  | .day => "day is out of range for month"
  | .hour => "hour must be in 0..23"
  | .minute => "minute must be in 0..59"
  | .second => "second must be in 0..59"
  | .offset minutes =>
    "offset must be a timedelta strictly between -timedelta(hours=24) and timedelta(hours=24), not "
      ++ Calendar.spanText (minutes * 60) ++ "."

/-- The greatest number that is looked up as a code point at all. -/
def maxCodePoint : Nat := 0x7fffffff

def message : Fault → String
  | malformed => "Failed to parse YAML"
  | codePoint n =>
    if n ≤ maxCodePoint then "chr() arg not in range(0x110000)"
    else "Python int too large to convert to C int"
  | surrogate _ => "surrogates not allowed"
  | integer base text =>
    "invalid literal for int() with base " ++ Radix.decimal base ++ ": " ++
      excerpt (Text.Quoted.quote text)
  | integerSize digits =>
    "Exceeds the limit (4300 digits) for integer string conversion: value has " ++
      Radix.decimal digits ++ " digits; use sys.set_int_max_str_digits() to increase the limit"
  | emptyNumber => "string index out of range"
  | float text => "could not convert string to float: " ++ Text.Quoted.quote text
  | floatSize => "int too large to convert to float"
  | truth text => Text.Quoted.quote text
  | timestamp => "'NoneType' object has no attribute 'groupdict'"
  | calendar e => calendarMessage e
  | timestampNode => "expected string or bytes-like object, got 'list'"

def category : Fault → Failure.Category
  | malformed => .document
  | codePoint n => if n ≤ maxCodePoint then .value else .overflow
  | surrogate _ => .encoding
  | integer .. => .value
  | integerSize _ => .value
  | emptyNumber => .index
  | float _ => .value
  | floatSize => .overflow
  | truth _ => .key
  | timestamp => .attribute
  | calendar _ => .value
  | timestampNode => .type

end Document.Fault

namespace Failure

def kindText (k : Kind) : String := "'" ++ k.name ++ "'"

/-- Names in a row, the last after `and`. -/
def series : List String → String
  | [] => ""
  | [a] => a
  | [a, b] => a ++ " and " ++ b
  | [a, b, c] => a ++ ", " ++ b ++ ", and " ++ c
  | a :: rest => a ++ ", " ++ series rest

def encodingMessage (f : Text.Utf8.Fault) : String :=
  let place :=
    if f.extent ≤ 1 then
      "byte 0x" ++ String.ofList (Radix.fixed 16 2 f.byte.toNat) ++ " in position " ++
        Radix.decimal f.place
    else
      "bytes in position " ++ Radix.decimal f.place ++ "-" ++
        Radix.decimal (f.place + f.extent - 1 : Nat)
  "'utf-8' codec can't decode " ++ place ++ ": " ++ f.cause.text

/-- The wording of a failure, as far as it is known (`isAbridged`). -/
def message : Failure → String
  | display text expected => Template.invalidDisplay.fill [text, .int expected]
  | triad v => Template.invalidTriad.fill [v]
  | umask e => Template.invalidSetting.fill [e.text, e.setting]
  | missingArgument i =>
    "Replacement index " ++ Radix.decimal i ++ " out of range for positional args tuple"
  | noLength k => "object of type " ++ kindText k ++ " has no len()"
  | noParts => "unhashable type: 'slice'"
  | noMember k member => kindText k ++ " object has no attribute '" ++ member ++ "'"
  | noNumber operation k =>
    "unsupported operand type(s) for " ++ operation ++ ": " ++ kindText k ++ " and 'int'"
  | noText k => "expected string or bytes-like object, got " ++ kindText k
  | noTriad k => "Expected PermissionBits; got " ++ k.name ++ "."
  | noTriadFor c k => "Mode." ++ c.name ++ " must be PermissionBits; got " ++ k.name ++ "."
  | noEntries k => kindText k ++ " object is not iterable"
  | noEntry i =>
    "cannot convert dictionary update sequence element #" ++ Radix.decimal i ++ " to a sequence"
  | noPair i members =>
    "dictionary update sequence element #" ++ Radix.decimal i ++ " has length " ++
      Radix.decimal members ++ "; 2 is required"
  | noKey k => "unhashable type: " ++ kindText k
  | noWriting .list => "list indices must be integers or slices, not str"
  | noWriting k => kindText k ++ " object does not support item assignment"
  | missingTriads classes =>
    let count := classes.length
    "Mode.__init__() missing " ++ Radix.decimal count ++ " required positional argument" ++
      (if count = 1 then "" else "s") ++ ": " ++
      series (classes.map fun c => "'" ++ c.name ++ "'")
  | excessArguments call least most given =>
    let count :=
      if least = most then
        Radix.decimal most ++ " positional argument" ++ (if most = 1 then "" else "s")
      else
        "from " ++ Radix.decimal least ++ " to " ++ Radix.decimal most ++ " positional arguments"
    call ++ "() takes " ++ count ++ " but " ++ Radix.decimal given ++ " were given"
  | frozen field removal =>
    "cannot " ++ (if removal then "delete" else "assign to") ++ " field " ++
      Text.Quoted.quote field
  | document .malformed none => "Failed to parse YAML string"
  | document .malformed (some path) => "[" ++ path ++ "] " ++ Document.Fault.malformed.message
  | document f _ => f.message
  | settings _ => ""
  | missingFile path => "Mode config not found: " ++ path
  | directory path => "[Errno 21] Is a directory: " ++ Text.Quoted.quote path
  | longPath path => "[Errno 36] File name too long: " ++ Text.Quoted.quote path
  | nullInPath => "embedded null byte"
  | encoding f => encodingMessage f
  | unknownName name => Text.Quoted.quote name

def category : Failure → Category
  | display .. => .value
  | triad _ => .value
  | umask _ => .umask
  | missingArgument _ => .index
  | noLength _ => .type
  | noParts => .type
  | noMember .. => .attribute
  | noNumber .. => .type
  | noText _ => .type
  | noTriad _ => .type
  | noTriadFor .. => .type
  | noEntries _ => .type
  | noEntry _ => .type
  | noPair .. => .value
  | noKey _ => .type
  | noWriting _ => .type
  | missingTriads _ => .type
  | excessArguments .. => .type
  | frozen .. => .frozen
  | document f _ => f.category
  | settings _ => .settings
  | missingFile _ => .missingFile
  | directory _ => .directory
  | longPath _ => .system
  | nullInPath => .value
  | encoding _ => .encoding
  | unknownName _ => .key

/-- Whether the wording of a failure goes on behind its `message`: what is wrong with the grammar of
a document is told behind a colon, and complaints are told one by one. -/
def isAbridged : Failure → Bool
  | document .malformed _ => true
  | settings _ => true
  | _ => false

/-- Whether a failure tells of content that is refused as such, and not of an operation that breaks
down on it. -/
def isRefusal (f : Failure) : Bool :=
  match f.category with
  | .value | .encoding | .umask | .settings | .document => true
  | _ => false

end Failure

end FileMode
