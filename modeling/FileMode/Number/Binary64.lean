/-!
Binary floating point numbers of 64 bits, held exactly. A finite number is a sign, a mantissa below
2^53 and a power of two; `ofRatio` rounds any ratio of natural numbers to the nearest of them, the
one with the even mantissa if two are equally near.
-/

namespace FileMode

/-- A number of the binary64 format. A finite one is `mantissa * 2 ^ exponent` with its sign; those
that `Binary64.ofRatio` makes have a mantissa of at least 2^52 or the exponent -1074. -/
inductive Binary64 where
  | nan
  | infinite (negative : Bool)
  | finite (negative : Bool) (mantissa : Nat) (exponent : Int)
deriving DecidableEq, Repr

namespace Binary64

def minExponent : Int := -1074

def maxExponent : Int := 971

def zero (negative : Bool) : Binary64 := .finite negative 0 minExponent

/-- The quotient of two natural numbers, rounded to the nearest and at a tie to the even one. -/
def divNearest (num den : Nat) : Nat :=
  let q := num / den
  let r := num % den
  if 2 * r < den then q
  else if den < 2 * r then q + 1
  else if q % 2 = 0 then q else q + 1

/-- `num / den` counted in units of `2 ^ exponent`, rounded. -/
def inUnits (num den : Nat) (exponent : Int) : Nat :=
  if 0 ≤ exponent then divNearest num (den * Nat.pow 2 exponent.toNat)
  else divNearest (num * Nat.pow 2 (-exponent).toNat) den

/-- A number of `units` of `2 ^ exponent`, where `units` is at most 2^53. -/
def ofUnits (negative : Bool) (units : Nat) (exponent : Int) : Binary64 :=
  let (units, exponent) :=
    if units = Nat.pow 2 53 then (Nat.pow 2 52, exponent + 1) else (units, exponent)
  if units = 0 then zero negative
  else if maxExponent < exponent then .infinite negative
  else .finite negative units exponent

/-- The number nearest to `num / den`, for a positive `den`. The unit is the smallest in which the
quotient stays below 2^53, but never below the least unit of the format. -/
def ofRatio (negative : Bool) (num den : Nat) : Binary64 :=
  if num = 0 then zero negative
  else
    let size : Int := (Nat.log2 num : Int) - Nat.log2 den
    let exponent := max (size - 53) minExponent
    let units := inUnits num den exponent
    if units < Nat.pow 2 53 then ofUnits negative units exponent
    else ofUnits negative (inUnits num den (exponent + 1)) (exponent + 1)

/-- The numerator and the denominator of a magnitude. -/
def ratio (mantissa : Nat) (exponent : Int) : Nat × Nat :=
  if 0 ≤ exponent then (mantissa * Nat.pow 2 exponent.toNat, 1)
  else (mantissa, Nat.pow 2 (-exponent).toNat)

/-- The number nearest to a natural number, or nothing if that is beyond the greatest one. -/
def ofNat? (n : Nat) : Option Binary64 :=
  match ofRatio false n 1 with
  | .infinite _ => none
  | x => some x

/-- The number nearest to `digits * 10 ^ exponent`. Exponents far outside the format are decided by
the size of the number alone. -/
def ofDecimal (negative : Bool) (digits : Nat) (exponent : Int) : Binary64 :=
  let size : Int := exponent + (Nat.toDigits 10 digits).length
  if digits = 0 then zero negative
  else if 310 < size then .infinite negative
  else if size < -330 then zero negative
  else if 0 ≤ exponent then ofRatio negative (digits * Nat.pow 10 exponent.toNat) 1
  else ofRatio negative digits (Nat.pow 10 (-exponent).toNat)

def neg : Binary64 → Binary64
  | nan => nan
  | infinite s => .infinite !s
  | finite s m e => .finite (!s) m e

def add : Binary64 → Binary64 → Binary64
  | nan, _ => nan
  | _, nan => nan
  | infinite s, infinite t => if s = t then .infinite s else nan
  | infinite s, finite .. => .infinite s
  | finite .., infinite t => .infinite t
  | finite s m e, finite t n f =>
    let (a, b) := ratio m e
    let (c, d) := ratio n f
    let x : Int := if s then -(a * d : Nat) else (a * d : Nat)
    let y : Int := if t then -(c * b : Nat) else (c * b : Nat)
    if x + y = 0 then zero (s && t) else ofRatio (x + y < 0) (x + y).natAbs (b * d)

def mul : Binary64 → Binary64 → Binary64
  | nan, _ => nan
  | _, nan => nan
  | infinite s, infinite t => .infinite (s != t)
  | infinite s, finite t m _ => if m = 0 then nan else .infinite (s != t)
  | finite s m _, infinite t => if m = 0 then nan else .infinite (s != t)
  | finite s m e, finite t n f =>
    let (a, b) := ratio m e
    let (c, d) := ratio n f
    ofRatio (s != t) (a * c) (b * d)

/-- The integer that a number is, if it is one. -/
def toInt? : Binary64 → Option Int
  | finite s m e =>
    let (num, den) := ratio m e
    if num % den = 0 then some (if s then -(num / den : Nat) else (num / den : Nat)) else none
  | _ => none

/-- Whether two numbers are equal: a number that is undefined equals none, and the two zeros are
equal. -/
def same : Binary64 → Binary64 → Bool
  | nan, _ => false
  | _, nan => false
  | infinite s, infinite t => s == t
  | finite s m e, finite t n f =>
    let (a, b) := ratio m e
    let (c, d) := ratio n f
    a * d == c * b && (a == 0 || s == t)
  | _, _ => false

end Binary64

end FileMode
