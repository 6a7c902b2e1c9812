/-!
Decimal digits and blanks of all scripts, and the folding of a text to ASCII that number literals
are read after.
-/

namespace FileMode.Text

/-- The zeros of the sets of decimal digits, in ascending order: each set is the ten characters
from its zero on. The table is that of version 14 of the character database. -/
def digitZeros : List Nat := [
  0x30, 0x660, 0x6f0, 0x7c0, 0x966, 0x9e6, 0xa66, 0xae6, 0xb66, 0xbe6, 0xc66, 0xce6, 0xd66, 0xde6,
  0xe50, 0xed0, 0xf20, 0x1040, 0x1090, 0x17e0, 0x1810, 0x1946, 0x19d0, 0x1a80, 0x1a90, 0x1b50,
  0x1bb0, 0x1c40, 0x1c50, 0xa620, 0xa8d0, 0xa900, 0xa9d0, 0xa9f0, 0xaa50, 0xabf0, 0xff10, 0x104a0,
  0x10d30, 0x11066, 0x110f0, 0x11136, 0x111d0, 0x112f0, 0x11450, 0x114d0, 0x11650, 0x116c0,
  0x11730, 0x118e0, 0x11950, 0x11c50, 0x11d50, 0x11da0, 0x16a60, 0x16ac0, 0x16b50, 0x1d7ce,
  0x1d7d8, 0x1d7e2, 0x1d7ec, 0x1d7f6, 0x1e140, 0x1e2f0, 0x1e950, 0x1fbf0]

def digitValue? (c : Char) : Option Nat :=
  (digitZeros.find? fun first => first ≤ c.toNat && c.toNat < first + 10).map (c.toNat - ·)

/-- Whether `c` is a blank outside ASCII. -/
def isWideBlank (c : Char) : Bool :=
  let n := c.toNat
  n = 0x85 || n = 0xa0 || n = 0x1680 || (0x2000 ≤ n && n ≤ 0x200a) || n = 0x2028 || n = 0x2029 ||
    n = 0x202f || n = 0x205f || n = 0x3000

/-- Whether `c` is a blank around a number literal: the space and the five ASCII controls that move
the carriage. -/
def isBlank (c : Char) : Bool :=
  c = ' ' || (9 ≤ c.toNat && c.toNat ≤ 13)

/-- Whether `c` is a blank of any script. The ASCII separators are none. -/
def isSpacing (c : Char) : Bool := isBlank c || isWideBlank c

/-- Whether `c` is a blank of any script or an ASCII separator. -/
def isAnyBlank (c : Char) : Bool :=
  isSpacing c || (0x1c ≤ c.toNat && c.toNat ≤ 0x1f)

/-- The ASCII character that a number literal holds for `c`: a blank becomes a space, a decimal
digit its ASCII digit, and any other character outside ASCII a mark that no literal holds. -/
def foldAscii (c : Char) : Char :=
  if c.toNat < 0x7f then c
  else if isWideBlank c then ' '
  else match digitValue? c with
    | some v => Char.ofNat (48 + v)
    | none => '?'

def trimBlanks (cs : List Char) : List Char :=
  ((cs.dropWhile isBlank).reverse.dropWhile isBlank).reverse

end FileMode.Text
