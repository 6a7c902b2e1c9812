import FileMode.Number.Binary64

/-!
The shortest decimal text of a binary floating point number: the fewest digits that read back as
the number, and of those the nearest to it. Digits stand positionally while the exponent is from -4
to 15, and otherwise before an exponent of at least two digits with its sign.
-/

namespace FileMode.Binary64

/-- An interval of magnitudes around a number, and the number, as numerators over one
denominator. -/
structure Rounding where
  low : Nat
  value : Nat
  high : Nat
  den : Nat
  /-- Whether the ends of the interval round to the number as well. -/
  closed : Bool

/-- The magnitudes that round to `mantissa * 2 ^ exponent`: half a unit to each side, or a quarter
below a power of two, since the numbers there lie twice as dense. -/
def rounding (mantissa : Nat) (exponent : Int) : Rounding :=
  let (unit, den) := ratio 1 (exponent - 2)
  let below := if mantissa = Nat.pow 2 52 && minExponent < exponent then 1 else 2
  { low := (4 * mantissa - below) * unit
    value := 4 * mantissa * unit
    high := (4 * mantissa + 2) * unit
    den := den
    closed := mantissa % 2 = 0 }

/-- Whether `q * 10 ^ scale` lies in the interval. -/
def Rounding.admits (r : Rounding) (q : Nat) (scale : Int) : Bool :=
  let x := if 0 ≤ scale then q * Nat.pow 10 scale.toNat * r.den else q * r.den
  let grow := if 0 ≤ scale then 1 else Nat.pow 10 (-scale).toNat
  if r.closed then r.low * grow ≤ x && x ≤ r.high * grow
  else r.low * grow < x && x < r.high * grow

/-- The multiple of `10 ^ scale` below the number, and twice the rest against the unit. -/
def Rounding.floor (r : Rounding) (scale : Int) : Nat × Ordering :=
  let num := if 0 ≤ scale then r.value else r.value * Nat.pow 10 (-scale).toNat
  let den := if 0 ≤ scale then r.den * Nat.pow 10 scale.toNat else r.den
  (num / den, compare (2 * (num % den)) den)

/-- The multiple of `10 ^ scale` in the interval that is nearest to the number, if there is one. -/
def Rounding.pick? (r : Rounding) (scale : Int) : Option Nat :=
  let (q, side) := r.floor scale
  let low := r.admits q scale
  let high := r.admits (q + 1) scale
  let nearer := match side with
    | .lt => q
    | .gt => q + 1
    | .eq => if q % 2 = 0 then q else q + 1
  if low && high then some nearer
  else if low then some q
  else if high then some (q + 1)
  else none

/-- The decimal exponent of a number: the `p` with `10 ^ (p - 1) ≤ value < 10 ^ p`. -/
def Rounding.exponent (r : Rounding) : Int :=
  if r.den ≤ r.value then (Nat.toDigits 10 (r.value / r.den)).length
  else
    let p : Int := 1 - (Nat.toDigits 10 (r.den / r.value)).length
    if r.den ≤ r.value * Nat.pow 10 (-p).toNat then p + 1 else p

/-- The first grid, of `count` digits and more, on which a point lies in the interval; the point and
the scale of its last digit. Seventeen digits always suffice. -/
def Rounding.search (r : Rounding) (p : Int) : (more count : Nat) → Nat × Int
  | 0, count => ((r.floor (p - count)).1, p - count)
  | more + 1, count =>
    match r.pick? (p - count) with
    | some q => (q, p - count)
    | none => r.search p more (count + 1)

def dropZeros (digits : List Char) : List Char :=
  (digits.reverse.dropWhile (· = '0')).reverse

/-- The digits of a nonzero magnitude, and the place of the point: the value is the digits after
`0.` times ten to that place. -/
def shortestDigits (mantissa : Nat) (exponent : Int) : List Char × Int :=
  let r := rounding mantissa exponent
  let (q, scale) := r.search r.exponent 17 1
  let digits := Nat.toDigits 10 q
  (dropZeros digits, scale + digits.length)

def positional (digits : List Char) (place : Int) : List Char :=
  if place ≤ 0 then '0' :: '.' :: List.replicate (-place).toNat '0' ++ digits
  else
    let n := place.toNat
    let whole := digits.take n ++ List.replicate (n - digits.length) '0'
    let rest := digits.drop n
    whole ++ '.' :: (if rest.isEmpty then ['0'] else rest)

def scientific (digits : List Char) (power : Int) : List Char :=
  let fraction := match digits.drop 1 with
    | [] => []
    | rest => '.' :: rest
  let size := Nat.toDigits 10 power.natAbs
  digits.take 1 ++ fraction ++ 'e' :: (if power < 0 then '-' else '+') ::
    (List.replicate (2 - size.length) '0' ++ size)

def text : Binary64 → String
  | nan => "nan"
  | infinite negative => if negative then "-inf" else "inf"
  | finite negative mantissa exponent =>
    let body :=
      if mantissa = 0 then ['0', '.', '0']
      else
        let (digits, place) := shortestDigits mantissa exponent
        if -4 < place && place ≤ 16 then positional digits place
        else scientific digits (place - 1)
    String.ofList (if negative then '-' :: body else body)

end FileMode.Binary64
