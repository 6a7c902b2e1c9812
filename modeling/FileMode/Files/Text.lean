import FileMode.Text.Utf8

/-!
The text of a file. Its bytes are decoded block by block, so that the place of a fault counts from
the start of its block, or from the start of the character that the block before it left unfinished.
-/

namespace FileMode.Files

open FileMode.Text (Utf8.Fault)

def blockSize : Nat := 8192

/-- Whether a byte stands inside a character. -/
def isInner (b : UInt8) : Bool := 0x80 ≤ b.toNat && b.toNat ≤ 0xbf

/-- The number of bytes before place `n` that belong to the character that reaches across it. -/
def overhang (bytes : List UInt8) (n : Nat) : Nat :=
  if (bytes.drop n).head?.any isInner then
    ((bytes.take n).reverse.takeWhile isInner).length + 1
  else 0

/-- The place from which the place of a fault counts. -/
def origin (bytes : List UInt8) (f : Utf8.Fault) : Nat :=
  let seen := match f.cause with
    | .continuation => f.place + f.extent
    | _ => f.place
  let block := seen / blockSize * blockSize
  if f.cause = .ending || f.place < block then f.place
  else if f.place = block then block
  else block - overhang bytes block

/-- Makes every line end in a line feed alone. -/
def unifyLines : List Char → List Char
  | [] => []
  | '\r' :: '\n' :: cs => '\n' :: unifyLines cs
  | '\r' :: cs => '\n' :: unifyLines cs
  | c :: cs => c :: unifyLines cs

/-- The text that the bytes of a file hold. -/
def textOf (bytes : List UInt8) : Except Utf8.Fault String :=
  match Text.Utf8.decode bytes with
  | .ok cs => .ok (String.ofList (unifyLines cs))
  | .error f => .error { f with place := f.place - origin bytes f }

end FileMode.Files
