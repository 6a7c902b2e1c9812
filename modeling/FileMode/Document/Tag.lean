import FileMode.Document.Timestamp
import FileMode.Text.Splitting

/-!
The kinds of nodes. A node is of the kind that its tag names; without a tag, a plain scalar is of
the kind that its text has the form of.

`ofPlain` mirrors `resolve`.
-/

namespace FileMode.Document

inductive Tag where
  | null | bool | int | float | binary | timestamp | text
  | sequence | mapping | set | orderedMap | pairs
  /-- The key under which a mapping takes in others. -/
  | merge
  /-- The key whose value stands for a whole mapping. -/
  | value
  /-- A kind that has no values. -/
  | unknown
deriving DecidableEq, Repr

namespace Tag

def standard : String := "tag:yaml.org,2002:"

/-- The kinds with names after the standard beginning. -/
def names : List (String × Tag) :=
  [("null", null), ("bool", bool), ("int", int), ("float", float), ("binary", binary),
    ("timestamp", timestamp), ("str", text), ("seq", sequence), ("map", mapping), ("set", set),
    ("omap", orderedMap), ("pairs", pairs), ("merge", merge), ("value", value)]

/-- The kind that a tag in full names. -/
def ofUri (uri : String) : Tag :=
  ((names.find? fun e => standard ++ e.1 = uri).map Prod.snd).getD unknown

/-- Whether a value of the kind is a collection, which cannot be a key. -/
def isCollection : Tag → Bool
  | sequence | mapping | set | orderedMap | pairs => true
  | _ => false

/-! ### The forms of plain scalars -/

def isDigitMark (c : Char) : Bool := c.isDigit || c = '_'

def unsigned : List Char → List Char
  | '+' :: cs => cs
  | '-' :: cs => cs
  | cs => cs

/-- Whether a part after a colon is a number below sixty. -/
def isSixtieth : List Char → Bool
  | [c] => c.isDigit
  | [c, d] => '0' ≤ c && c ≤ '5' && d.isDigit
  | _ => false

/-- Whether a text is one or more colons with a number below sixty after each. -/
def isSixtieths : List Char → Bool
  | ':' :: cs => (Text.splitAt ':' cs).all isSixtieth
  | _ => false

/-- Whether a text has the form of an integer: binary, octal, decimal, hexadecimal or in base
sixty. -/
def isInt (cs : List Char) : Bool :=
  match unsigned cs with
  | [] => false
  | ['0'] => true
  | '0' :: 'b' :: ds => !ds.isEmpty && ds.all fun c => c = '0' || c = '1' || c = '_'
  | '0' :: 'x' :: ds => !ds.isEmpty && ds.all fun c => (Radix.digitValue? 16 c).isSome || c = '_'
  | '0' :: ds => ds.all fun c => ('0' ≤ c && c ≤ '7') || c = '_'
  | c :: ds =>
    c.isDigit &&
      let rest := ds.dropWhile isDigitMark
      rest.isEmpty || isSixtieths rest

/-- Whether a text is an exponent, which has a sign and digits, or empty. -/
def isExponent : List Char → Bool
  | [] => true
  | e :: sign :: d :: ds =>
    (e = 'e' || e = 'E') && (sign = '+' || sign = '-') && (d :: ds).all Char.isDigit
  | _ => false

/-- Whether a text has the form of a floating point number: decimal with a point, in base sixty with
a point, infinite or undefined. -/
def isFloat (cs : List Char) : Bool :=
  let body := unsigned cs
  match body with
  | [] => false
  | '.' :: rest =>
    let word := String.ofList rest
    word = "inf" || word = "Inf" || word = "INF" ||
      (cs = body &&
        (word = "nan" || word = "NaN" || word = "NAN" ||
          (begins Char.isDigit rest && isExponent (rest.dropWhile isDigitMark))))
  | c :: rest =>
    c.isDigit &&
      match rest.dropWhile isDigitMark with
      | '.' :: fraction => isExponent (fraction.dropWhile isDigitMark)
      | tail =>
        let places := tail.takeWhile (· ≠ '.')
        isSixtieths places &&
          match tail.drop places.length with
          | '.' :: fraction => fraction.all isDigitMark
          | _ => false

def truthWords : List String :=
  ["yes", "Yes", "YES", "no", "No", "NO", "true", "True", "TRUE", "false", "False", "FALSE",
    "on", "On", "ON", "off", "Off", "OFF"]

def nullWords : List String := ["~", "null", "Null", "NULL"]

/-- The text without a line feed at its end, of which the forms take no notice. -/
def dropFinalBreak (cs : List Char) : List Char :=
  if cs.getLast? = some '\n' then cs.dropLast else cs

/-- The kind that the text of a plain scalar has the form of. -/
def ofPlain (cs : List Char) : Tag :=
  let body := dropFinalBreak cs
  let word := String.ofList body
  if cs.isEmpty then null
  else if truthWords.contains word then bool
  else if isFloat body then float
  else if isInt body then int
  else if word = "<<" then merge
  else if nullWords.contains word then null
  else if Timestamp.isPlain body then timestamp
  else if word = "=" then value
  else if word = "!" || word = "&" || word = "*" then unknown
  else text

/-- No plain scalar is a collection. -/
theorem isCollection_ofPlain (cs : List Char) : (ofPlain cs).isCollection = false := by
  simp only [ofPlain, apply_ite isCollection]
  simp only [isCollection, ite_self]

end Tag

end FileMode.Document
