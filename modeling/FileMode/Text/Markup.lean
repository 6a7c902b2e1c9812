import FileMode.Text.Emoji

/-!
What becomes of a text that may look like markup. A tag is a bracket with a small letter, `#`, `/`
or `@` after it, up to the next closing bracket; it is shown as it is, backslashes before it
included. Any other opening bracket loses the backslash before it. Pictures may be called by their
names, in a tag or outside of tags, but not across the border of one.
-/

namespace FileMode.Text

def beginsTag (c : Char) : Bool :=
  ('a' ≤ c && c ≤ 'z') || c = '#' || c = '/' || c = '@'

/-- Whether a closing bracket comes before any opening one. -/
def closesTag : List Char → Bool
  | [] => false
  | ']' :: _ => true
  | '[' :: _ => false
  | _ :: cs => closesTag cs

/-- Whether the text after an opening bracket makes a tag of it. -/
def isTag : List Char → Bool
  | [] => false
  | c :: cs => beginsTag c && closesTag cs

/-- The tags of a text and the parts between them, in order; `part` is the part so far, last
character first, and `inTag` tells whether it is a tag. -/
def markupParts (inTag : Bool) (part : List Char) : List Char → List (List Char)
  | [] => [part.reverse]
  | c :: cs =>
    if inTag && c = ']' then (c :: part).reverse :: markupParts false [] cs
    else if !inTag && c = '[' && isTag cs then part.reverse :: markupParts true [c] cs
    else markupParts inTag (c :: part) cs

/-- A part without the backslashes before opening brackets. -/
def dropEscapes : List Char → List Char
  | '\x5c' :: '[' :: cs => '[' :: dropEscapes cs
  | c :: cs => c :: dropEscapes cs
  | [] => []

def showMarkup (cs : List Char) : List Char :=
  (markupParts false [] cs).flatMap fun part => showPictures (dropEscapes part)

end FileMode.Text
