/-!
Numerals in a base between two and sixteen, most significant digit first.
-/

namespace FileMode.Radix

/-- The character of digit `d`, for `d` below sixteen. -/
def digitChar (d : Nat) : Char :=
  if d < 10 then Char.ofNat (48 + d) else Char.ofNat (87 + d)

/-- The last `width` digits of `n`, so that a shorter number is filled with zeros. -/
def fixed (base : Nat) : (width : Nat) → Nat → List Char
  | 0, _ => []
  | width + 1, n => fixed base width (n / base) ++ [digitChar (n % base)]

theorem length_fixed (base width n : Nat) : (fixed base width n).length = width := by
  induction width generalizing n with
  | zero => rfl
  | succ width hyp => rw [fixed, List.length_append, hyp, List.length_singleton]

/-- The value of an ASCII digit, in either letter case, if it is below `base`. -/
def digitValue? (base : Nat) (c : Char) : Option Nat :=
  let n := c.toNat
  let value? :=
    if 48 ≤ n && n ≤ 57 then some (n - 48)
    else if 97 ≤ n && n ≤ 122 then some (n - 87)
    else if 65 ≤ n && n ≤ 90 then some (n - 55)
    else none
  value?.filter (· < base)

def ofDigits (base : Nat) (digits : List Nat) : Nat :=
  digits.foldl (fun n d => base * n + d) 0

def decimal (n : Int) : String :=
  let digits := Nat.toDigits 10 n.natAbs
  String.ofList (if n < 0 then '-' :: digits else digits)

/-- A number in base eight, filled with zeros to at least `width` characters, of which a minus sign
is the first. -/
def octal (width : Nat) (n : Int) : String :=
  let digits := Nat.toDigits 8 n.natAbs
  let sign := if n < 0 then ['-'] else []
  String.ofList (sign ++ List.replicate (width - sign.length - digits.length) '0' ++ digits)

end FileMode.Radix
