import FileMode.Number.Radix

/-!
Dates of the Gregorian calendar and moments on them, with their standard written forms.
-/

namespace FileMode

structure Date where
  year : Nat
  month : Nat
  day : Nat
deriving DecidableEq, Repr

/-- A time of a day, to the microsecond, with the offset from universal time in minutes if that is
known. -/
structure Moment where
  date : Date
  hour : Nat
  minute : Nat
  second : Nat
  micro : Nat
  offset : Option Int
deriving DecidableEq, Repr

/-- Why numbers are no date or no time. -/
inductive CalendarError where
  | year (y : Nat)
  | month
  | day
  | hour
  | minute
  | second
  /-- The offset, in minutes, is a day or more. -/
  | offset (minutes : Int)
deriving DecidableEq, Repr

namespace Calendar

def isLeap (y : Nat) : Bool := y % 4 = 0 && (y % 100 ≠ 0 || y % 400 = 0)

def daysIn (y m : Nat) : Nat :=
  if m = 2 then (if isLeap y then 29 else 28)
  else if m = 4 || m = 6 || m = 9 || m = 11 then 30
  else 31

/-- The number of days before a year, counted from the first day of year 1. -/
def daysBeforeYear (y : Nat) : Nat :=
  let p := y - 1
  365 * p + p / 4 - p / 100 + p / 400

/-- A number in decimal digits, filled with zeros to `width`. -/
def padded (width n : Nat) : String := String.ofList (Radix.fixed 10 width n)

/-- A span of whole seconds in days and the seconds that remain, as calls spell it. -/
def spanText (seconds : Int) : String :=
  let days := seconds.fdiv 86400
  let rest := seconds.fmod 86400
  let parts :=
    (if days = 0 then [] else ["days=" ++ Radix.decimal days]) ++
      (if rest = 0 then [] else ["seconds=" ++ Radix.decimal rest])
  let body := if parts.isEmpty then "0" else ", ".intercalate parts
  "datetime.timedelta(" ++ body ++ ")"

end Calendar

namespace Date

/-- The date of three numbers, if there is one. The first fault found is reported, from the year
on. -/
def make (year month day : Nat) : Except CalendarError Date :=
  if year = 0 then .error (.year 0)
  else if month = 0 || 12 < month then .error .month
  else if day = 0 || Calendar.daysIn year month < day then .error .day
  else .ok ⟨year, month, day⟩

/-- The number of the day, counted from the first day of year 1. -/
def ordinal (d : Date) : Nat :=
  let before := (List.range (d.month - 1)).map fun i => Calendar.daysIn d.year (i + 1)
  Calendar.daysBeforeYear d.year + before.foldl (· + ·) 0 + d.day

/-- The standard form, such as `2001-12-14`. -/
def iso (d : Date) : String :=
  Calendar.padded 4 d.year ++ "-" ++ Calendar.padded 2 d.month ++ "-" ++ Calendar.padded 2 d.day

/-- The numbers of a date, from the year on. -/
def numbers (d : Date) : List Nat := [d.year, d.month, d.day]

end Date

namespace Moment

/-- The moment of a date and a time on it, if there is one. The offset, the date and the time are
checked in this order. -/
def make (year month day hour minute second micro : Nat) (offset : Option Int) :
    Except CalendarError Moment := do
  match offset with
  | some minutes => if minutes.natAbs < 1440 then pure () else throw (.offset minutes)
  | none => pure ()
  let date ← Date.make year month day
  if 24 ≤ hour then throw .hour
  if 60 ≤ minute then throw .minute
  if 60 ≤ second then throw .second
  return ⟨date, hour, minute, second, micro, offset⟩

def offsetText (minutes : Int) : String :=
  let n := minutes.natAbs
  (if minutes < 0 then "-" else "+") ++ Calendar.padded 2 (n / 60) ++ ":" ++
    Calendar.padded 2 (n % 60)

/-- The standard form, such as `2001-12-14T21:59:43.100000-05:00`. Microseconds appear if there are
any, the offset if it is known. -/
def iso (t : Moment) : String :=
  t.date.iso ++ "T" ++ Calendar.padded 2 t.hour ++ ":" ++ Calendar.padded 2 t.minute ++ ":" ++
    Calendar.padded 2 t.second ++
    (if t.micro = 0 then "" else "." ++ Calendar.padded 6 t.micro) ++
    (match t.offset with
      | some minutes => offsetText minutes
      | none => "")

/-- The numbers of a moment; seconds and microseconds are left out from the end while zero. -/
def numbers (t : Moment) : List Nat :=
  t.date.numbers ++ [t.hour, t.minute] ++
    (if t.micro = 0 then (if t.second = 0 then [] else [t.second]) else [t.second, t.micro])

/-- Microseconds from the first day of year 1 in universal time, or in local time if the offset is
not known. -/
def instant (t : Moment) : Int :=
  let minutes : Int := (t.date.ordinal * 24 + t.hour) * 60 + t.minute
  ((minutes - t.offset.getD 0) * 60 + t.second) * 1000000 + t.micro

/-- Whether two moments are the same: a moment whose offset is known is never one whose offset is
not. -/
def same (t u : Moment) : Bool :=
  t.offset.isSome == u.offset.isSome && t.instant == u.instant

end Moment

end FileMode
