import FileMode.Number.Radix
import FileMode.Text.Column
import FileMode.Text.Digit
import FileMode.Text.Emoji.Table
import FileMode.Text.Small
import FileMode.Text.Splitting

/-!
Pictures called by their names. A name between colons stands for its picture, whatever the case of
its letters; behind the name, `-text` or `-emoji` asks for the form in which the picture is drawn.
Colons that hold no name of a picture stand for themselves.
-/

namespace FileMode.Text.Emoji

/-- The text that code points make, which are given in base sixteen with dashes between. -/
def ofCodes (codes : List Char) : List Char :=
  (splitAt '-' codes).map fun code =>
    Char.ofNat (Radix.ofDigits 16 (code.filterMap (Radix.digitValue? 16)))

/-- The picture of a name, if it is one of those in a line of the table. -/
def inLine? (name : List Char) (line : String) : Option (List Char) :=
  (splitAt ',' line.toList).findSome? fun entry =>
    match splitAt ' ' entry with
    | [] => none
    | codes :: names => if names.contains name then some (ofCodes codes) else none

def plain? (name : List Char) : Option (List Char) := pictures.findSome? (inLine? name)

/-- The skin tones, and the characters that give them to a picture. -/
def tones : List (String × Char) := [
  ("light", Char.ofNat 0x1f3fb), ("medium-light", Char.ofNat 0x1f3fc),
  ("medium", Char.ofNat 0x1f3fd), ("medium-dark", Char.ofNat 0x1f3fe),
  ("dark", Char.ofNat 0x1f3ff)]

/-- The character that asks for a picture drawn like text. -/
def textual : Char := '\ufe0e'

/-- A picture with a skin tone, which stands behind its first character. -/
def withTone (tone : Char) : List Char → List Char
  | [] => []
  | c :: cs => c :: tone :: if cs.head? = some colourful then cs.drop 1 else cs

def before? (ending : String) (cs : List Char) : Option (List Char) :=
  let ending := ending.toList
  if ending.isSuffixOf cs then some (cs.take (cs.length - ending.length)) else none

/-- The picture of a name that ends in that of a skin tone. -/
def toned? (name : List Char) : Option (List Char) :=
  tones.findSome? fun (tone, c) => do
    let base ← before? ("_" ++ tone ++ "_skin_tone") name
    if toneable.any fun line => (splitAt ' ' line.toList).contains base then
      (plain? base).map (withTone c)
    else none

def find? (name : List Char) : Option (List Char) := plain? name <|> toned? name

def splitForm (code : List Char) : List Char × List Char :=
  match before? "-emoji" code, before? "-text" code with
  | some name, _ => (name, [colourful])
  | none, some name => (name, [textual])
  | none, none => (code, [])

/-- What is shown for the characters between two colons. -/
def showCode (code : List Char) : List Char :=
  let (name, form) := splitForm code
  match find? (toSmall name) with
  | some picture => picture ++ form
  | none => ':' :: code ++ [':']

/-- A text as it is shown; `code` holds, last one first, the characters since a colon that may begin
a name. A blank ends no name. -/
def showFrom (code : Option (List Char)) : List Char → List Char
  | [] =>
    match code with
    | none => []
    | some seen => ':' :: seen.reverse
  | c :: cs =>
    match code with
    | none => if c = ':' then showFrom (some []) cs else c :: showFrom none cs
    | some seen =>
      if c = ':' then showCode seen.reverse ++ showFrom none cs
      else if isAnyBlank c then ':' :: seen.reverse ++ c :: showFrom none cs
      else showFrom (some (c :: seen)) cs

end FileMode.Text.Emoji

namespace FileMode.Text

/-- A text with the pictures that are called by their names. -/
def showPictures (cs : List Char) : List Char := Emoji.showFrom none cs

end FileMode.Text
