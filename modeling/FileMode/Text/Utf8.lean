/-!
UTF-8 decoding. A fault is reported with its place, its extent in bytes and its cause; the extent is
that of the longest beginning of a character that the bytes at that place form.
-/

namespace FileMode.Text.Utf8

/-- Why bytes are not the encoding of a text. -/
inductive Cause where
  /-- No character begins with the byte. -/
  | start
  /-- A byte that should continue a character does not. -/
  | continuation
  /-- The bytes end inside a character. -/
  | ending
deriving DecidableEq, Repr

def Cause.text : Cause → String
  | start => "invalid start byte"
  | continuation => "invalid continuation byte"
  | ending => "unexpected end of data"

/-- A place at which decoding stops. -/
structure Fault where
  place : Nat
  extent : Nat
  byte : UInt8
  cause : Cause
deriving DecidableEq, Repr

/-- What a first byte announces: the number of bytes after it, the bits that it holds itself, and
the range in which the byte after it lies. -/
structure Lead where
  more : Nat
  bits : Nat
  low : Nat
  high : Nat

/-- The announcement of a first byte that is not ASCII. The narrower ranges keep out overlong forms,
surrogates and code points that are too large. -/
def lead? (b : Nat) : Option Lead :=
  if 0xc2 ≤ b && b ≤ 0xdf then some ⟨1, b - 0xc0, 0x80, 0xbf⟩
  else if b = 0xe0 then some ⟨2, 0, 0xa0, 0xbf⟩
  else if b = 0xed then some ⟨2, 0xd, 0x80, 0x9f⟩
  else if 0xe1 ≤ b && b ≤ 0xef then some ⟨2, b - 0xe0, 0x80, 0xbf⟩
  else if b = 0xf0 then some ⟨3, 0, 0x90, 0xbf⟩
  else if b = 0xf4 then some ⟨3, 4, 0x80, 0x8f⟩
  else if 0xf1 ≤ b && b ≤ 0xf3 then some ⟨3, b - 0xf0, 0x80, 0xbf⟩
  else none

/-- A character of which the first bytes have been read. -/
structure Partial where
  /-- The first byte and its place. -/
  first : UInt8
  place : Nat
  taken : Nat
  bits : Nat
  /-- The number of bytes still missing. -/
  missing : Nat
  /-- The range in which the next byte lies. -/
  low : Nat
  high : Nat

/-- Decodes bytes from a place on, inside a character or between two. -/
def decodeFrom : Option Partial → Nat → List UInt8 → Except Fault (List Char)
  | none, _, [] => .ok []
  | some p, _, [] => .error ⟨p.place, p.taken, p.first, .ending⟩
  | none, place, b :: bytes =>
    if b.toNat < 0x80 then return Char.ofNat b.toNat :: (← decodeFrom none (place + 1) bytes)
    else match lead? b.toNat with
      | none => .error ⟨place, 1, b, .start⟩
      | some l => decodeFrom (some ⟨b, place, 1, l.bits, l.more, l.low, l.high⟩) (place + 1) bytes
  | some p, place, b :: bytes =>
    if b.toNat < p.low || p.high < b.toNat then
      .error ⟨p.place, p.taken, p.first, .continuation⟩
    else
      let bits := p.bits * 64 + b.toNat % 64
      if p.missing = 1 then return Char.ofNat bits :: (← decodeFrom none (place + 1) bytes)
      else
        decodeFrom (some { p with
          taken := p.taken + 1, bits := bits, missing := p.missing - 1, low := 0x80, high := 0xbf })
          (place + 1) bytes

def decode (bytes : List UInt8) : Except Fault (List Char) :=
  decodeFrom none 0 bytes

def encode (s : String) : List UInt8 := s.toUTF8.toList

end FileMode.Text.Utf8
