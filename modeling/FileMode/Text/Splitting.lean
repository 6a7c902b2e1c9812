/-!
Splitting a text at a character.
-/

namespace FileMode.Text

/-- The parts of a text between the occurrences of `c`, of which there is one more than there are
occurrences. -/
def splitAt (c : Char) : List Char → List (List Char)
  | [] => [[]]
  | d :: cs =>
    match splitAt c cs with
    | [] => [[d]]
    | part :: parts => if d = c then [] :: part :: parts else (d :: part) :: parts

def without (c : Char) (cs : List Char) : List Char := cs.filter (· ≠ c)

end FileMode.Text
