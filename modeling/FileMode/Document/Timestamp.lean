import FileMode.Calendar
import FileMode.Document.Character
import FileMode.Document.Fault
import FileMode.Number.Radix

/-!
Points in time as documents write them: a date, or a date and a time of day, with a fraction of a
second and an offset from universal time if they are wanted.
-/

namespace FileMode.Document

structure TimeText where
  hour : Nat
  minute : Nat
  second : Nat
  fraction : List Char
  /-- The offset in minutes. -/
  offset : Option Int
deriving DecidableEq, Repr

structure Timestamp where
  year : Nat
  month : Nat
  day : Nat
  time : Option TimeText
deriving DecidableEq, Repr

namespace Timestamp

/-- Reads between `least` and `most` decimal digits: their number and the rest of the text. -/
def digits? (least most : Nat) (cs : List Char) : Option (Nat × List Char) :=
  let ds := (cs.takeWhile Char.isDigit).take most
  if ds.length < least then none
  else return (Radix.ofDigits 10 (← ds.mapM (Radix.digitValue? 10)), cs.drop ds.length)

def char? (c : Char) : List Char → Option (List Char)
  | d :: cs => if d = c then some cs else none
  | [] => none

/-- Reads the gap between a date and a time: the letter `t`, or spaces and tabs. -/
def gap? : List Char → Option (List Char)
  | [] => none
  | c :: cs =>
    if c = 'T' || c = 't' then some cs
    else if isSpaceOrTab c then some (cs.dropWhile isSpaceOrTab)
    else none

def fraction (cs : List Char) : List Char × List Char :=
  match cs with
  | '.' :: rest => rest.span Char.isDigit
  | _ => ([], cs)

/-- Reads an offset to the end of the text: `Z`, or a sign, hours and perhaps minutes. -/
def offset? (cs : List Char) : Option (Option Int) :=
  match cs with
  | [] => some none
  | _ =>
    match cs.dropWhile isSpaceOrTab with
    | ['Z'] => some (some 0)
    | sign :: rest => do
      if sign ≠ '+' && sign ≠ '-' then none
      let (hours, rest) ← digits? 1 2 rest
      let (minutes, rest) ← match rest with
        | [] => some (0, [])
        | _ => (char? ':' rest).bind (digits? 2 2)
      if !rest.isEmpty then none
      let total : Int := hours * 60 + minutes
      return some (if sign = '-' then -total else total)
    | [] => none

def time? (cs : List Char) : Option TimeText := do
  let (hour, cs) ← digits? 1 2 cs
  let (minute, cs) ← (char? ':' cs).bind (digits? 2 2)
  let (second, cs) ← (char? ':' cs).bind (digits? 2 2)
  let (digits, cs) := fraction cs
  let offset ← offset? cs
  return ⟨hour, minute, second, digits, offset⟩

def read? (cs : List Char) : Option Timestamp := do
  let (year, cs) ← digits? 4 4 cs
  let (month, cs) ← (char? '-' cs).bind (digits? 1 2)
  let (day, cs) ← (char? '-' cs).bind (digits? 1 2)
  match cs with
  | [] => return ⟨year, month, day, none⟩
  | _ => return ⟨year, month, day, some (← (gap? cs).bind time?)⟩

/-- Whether a plain scalar is a point in time without being told so: a date alone has to have two
digits for month and day. -/
def isPlain (cs : List Char) : Bool :=
  match read? cs with
  | some t => t.time.isSome || cs.length = 10
  | none => false

/-- The microseconds that the digits after the point denote; digits beyond the sixth do not
count. -/
def micro (digits : List Char) : Nat :=
  let six := digits.take 6 ++ List.replicate (6 - digits.length) '0'
  Radix.ofDigits 10 (six.filterMap (Radix.digitValue? 10))

def resolve (t : Timestamp) : Except CalendarError (Date ⊕ Moment) :=
  match t.time with
  | none => (Date.make t.year t.month t.day).map .inl
  | some c =>
    (Moment.make t.year t.month t.day c.hour c.minute c.second (micro c.fraction) c.offset).map
      .inr

end Timestamp

end FileMode.Document
