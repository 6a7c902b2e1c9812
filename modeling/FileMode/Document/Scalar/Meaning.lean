import FileMode.Document.Tag
import FileMode.Number.Literal
import FileMode.Text.Base64
import FileMode.Text.Small
import FileMode.Value

/-!
The values of scalars. The tag of a scalar says what its text is read as; numbers may hold
underscores anywhere and have the forms that tags know, base sixty among them.

Mirrors `construct_yaml_int`, `construct_yaml_float`, `construct_yaml_bool`, `construct_yaml_binary`
and `construct_yaml_timestamp`.
-/

namespace FileMode.Document.Scalar

open FileMode.Text (splitAt without toSmall)

def literal (base : Nat) (cs : List Char) : Except Fault Int :=
  match Literal.integer base cs with
  | .ok n => .ok n
  | .error .malformed => .error (.integer base (String.ofList cs))
  | .error (.tooLong digits) => .error (.integerSize digits)

/-- Splits the sign off a text: the function that it stands for, and the rest. -/
def signed {α : Type} (negate : α → α) : List Char → (α → α) × List Char
  | '-' :: cs => (negate, cs)
  | '+' :: cs => (id, cs)
  | cs => (id, cs)

/-- Reads an integer. The beginning of its text tells the base: `0b` binary, `0x` hexadecimal, any
other zero octal; a colon means base sixty. -/
def integer (text : List Char) : Except Fault Int := do
  let (sign, body) := signed (fun n : Int => -n) (without '_' text)
  match body with
  | [] => throw .emptyNumber
  | ['0'] => return 0
  | '0' :: 'b' :: digits => return sign (← literal 2 digits)
  | '0' :: 'x' :: digits => return sign (← literal 16 digits)
  | '0' :: _ => return sign (← literal 8 body)
  | _ =>
    let places ← (splitAt ':' body).mapM (literal 10)
    return sign (places.foldl (fun n place => n * 60 + place) 0)

def decimal (cs : List Char) : Except Fault Binary64 :=
  match Literal.float? cs with
  | some x => .ok x
  | none => .error (.float (String.ofList cs))

/-- The sum of the places of a number in base sixty, the last of which comes first; `base` is the
power of sixty that the next place counts. -/
def sumSixtieths (sum : Binary64) (base : Nat) : List Binary64 → Except Fault Binary64
  | [] => .ok sum
  | place :: places =>
    match Binary64.ofNat? base with
    | none => .error .floatSize
    | some unit => sumSixtieths (sum.add (place.mul unit)) (base * 60) places

def float (text : List Char) : Except Fault Binary64 := do
  let small := toSmall (without '_' text)
  if small.isEmpty then throw .emptyNumber
  let (sign, body) := signed Binary64.neg small
  if body = ".inf".toList then return sign (.infinite false)
  if body = ".nan".toList then return .nan
  if body.contains ':' then
    let places ← (splitAt ':' body).mapM decimal
    return sign (← sumSixtieths (.zero false) 1 places.reverse)
  return sign (← decimal body)

def truth (text : List Char) : Except Fault Bool :=
  let word := String.ofList (toSmall text)
  if word = "yes" || word = "true" || word = "on" then .ok true
  else if word = "no" || word = "false" || word = "off" then .ok false
  else .error (.truth word)

def bytes (text : List Char) : Except Fault (List UInt8) :=
  if text.any fun c => 0x80 ≤ c.toNat then .error .malformed
  else match Text.Base64.decode text with
    | some bs => .ok bs
    | none => .error .malformed

def timestamp (text : List Char) : Except Fault Value :=
  match Timestamp.read? (Tag.dropFinalBreak text) with
  | none => .error .timestamp
  | some t =>
    match t.resolve with
    | .ok (.inl d) => .ok (.date d)
    | .ok (.inr m) => .ok (.moment m)
    | .error e => .error (.calendar e)

/-- The value of a text under a tag. -/
def meaning (tag : Tag) (text : List Char) : Except Fault Value :=
  match tag with
  | .null => .ok .null
  | .bool => (truth text).map .bool
  | .int => (integer text).map .int
  | .float => (float text).map .float
  | .binary => (bytes text).map .bytes
  | .timestamp => timestamp text
  | .text => .ok (.text (String.ofList text))
  | _ => .error .malformed

end FileMode.Document.Scalar
