import FileMode.Text.Printable
import FileMode.Number.Radix

/-!
Quoted texts, as messages show them. A text stands between two quotes: apostrophes, unless it holds
an apostrophe and no double quote. The quote and the backslash are written after a backslash, tab,
line feed and carriage return by a letter, and any other character that is not printable by its
code point, in two, four or eight hexadecimal digits.

Mirrors `repr` of a text.
-/

namespace FileMode.Text.Quoted

def apostrophe : Char := '\x27'

def doubleQuote : Char := '\x22'

def backslash : Char := '\x5c'

def quoteFor (s : List Char) : Char :=
  if s.contains apostrophe && !s.contains doubleQuote then doubleQuote else apostrophe

/-- An escape that gives code point `n` by `width` digits after the letter `mark`. -/
def byCodePoint (mark : Char) (width n : Nat) : List Char :=
  backslash :: mark :: Radix.fixed 16 width n

/-- The written form of one character between two quotes `quote`. -/
def escape (quote c : Char) : List Char :=
  if c = quote || c = backslash then [backslash, c]
  else if c = '\t' then [backslash, 't']
  else if c = '\n' then [backslash, 'n']
  else if c = '\r' then [backslash, 'r']
  else if isPrintable c then [c]
  else if c.toNat < 0x100 then byCodePoint 'x' 2 c.toNat
  else if c.toNat < 0x10000 then byCodePoint 'u' 4 c.toNat
  else byCodePoint 'U' 8 c.toNat

def encode (s : List Char) : List Char :=
  quoteFor s :: s.flatMap (escape (quoteFor s)) ++ [quoteFor s]

def quote (s : String) : String :=
  String.ofList (encode s.toList)

/-- The written form of one byte of a byte string. Bytes outside ASCII count as not printable. -/
def escapeByte (quote : Char) (b : UInt8) : List Char :=
  let c := Char.ofNat b.toNat
  if b.toNat < 0x7f then escape quote c else byCodePoint 'x' 2 b.toNat

/-- The quoted form of a byte string: its ASCII characters as in a text, after the letter `b`. -/
def quoteBytes (bytes : List UInt8) : String :=
  let q := quoteFor (bytes.map fun b => Char.ofNat b.toNat)
  String.ofList ('b' :: q :: bytes.flatMap (escapeByte q) ++ [q])

end FileMode.Text.Quoted
