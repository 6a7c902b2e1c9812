/-!
Decoding of base 64, the way mail is decoded: characters outside the alphabet are skipped, and what
stands behind a complete padding does not count.
-/

namespace FileMode.Text.Base64

def value? (c : Char) : Option Nat :=
  let n := c.toNat
  if 65 ≤ n && n ≤ 90 then some (n - 65)
  else if 97 ≤ n && n ≤ 122 then some (n - 71)
  else if 48 ≤ n && n ≤ 57 then some (n + 4)
  else if c = '+' then some 62
  else if c = '/' then some 63
  else none

/-- The bits of a group of four characters that have been read. -/
structure Group where
  count : Nat
  /-- The bits that no byte has taken yet. -/
  bits : Nat
  /-- The number of padding marks since the last character. -/
  pads : Nat

/-- Decodes a text from inside a group; nothing results if the text ends there. A group of at least
two characters is complete with the padding that makes four of it. -/
def decodeFrom (g : Group) : List Char → Option (List UInt8)
  | [] => if g.count = 0 then some [] else none
  | c :: cs =>
    if c = '=' then
      if g.count < 2 then decodeFrom g cs
      else if 4 ≤ g.count + g.pads + 1 then some []
      else decodeFrom { g with pads := g.pads + 1 } cs
    else
      match value? c with
      | none => decodeFrom g cs
      | some v =>
        if g.count = 0 then decodeFrom ⟨1, v, 0⟩ cs
        else
          let spare := 6 - 2 * g.count
          let byte := UInt8.ofNat (g.bits * 2 ^ (6 - spare) + v / 2 ^ spare)
          (decodeFrom ⟨(g.count + 1) % 4, v % 2 ^ spare, 0⟩ cs).map (byte :: ·)

def decode (cs : List Char) : Option (List UInt8) := decodeFrom ⟨0, 0, 0⟩ cs

end FileMode.Text.Base64
