/-!
Tables of texts with a title and a rule under the heading. Each cell has a space on both sides, and
so has each column and the table as a whole.
-/

namespace FileMode.Command

structure Grid where
  title : String
  heading : List String
  rows : List (List String)

namespace Grid

def spaces (n : Nat) : String := String.ofList (List.replicate n ' ')

def padRight (width : Nat) (s : String) : String := s ++ spaces (width - s.length)

/-- A text in the middle of `width` columns; an odd space goes to the right. -/
def center (width : Nat) (s : String) : String :=
  let free := width - s.length
  spaces (free / 2) ++ s ++ spaces (free - free / 2)

def widths (g : Grid) : List Nat :=
  g.rows.foldl (fun ws row => (ws.zip row).map fun (w, cell) => max w cell.length)
    (g.heading.map String.length)

def width (g : Grid) : Nat := g.widths.foldl (fun n w => n + w + 3) 1

def line (widths : List Nat) (cells : List String) : String :=
  let cell (c : Nat × String) : String := "  " ++ padRight c.1 c.2 ++ " "
  String.join ((widths.zip cells).map cell) ++ " "

def lines (g : Grid) : List String :=
  let blank := spaces g.width
  let rule := " " ++ String.ofList (List.replicate (g.width - 2) '─') ++ " "
  [center g.width g.title, blank, line g.widths g.heading, rule] ++
    g.rows.map (line g.widths) ++ [blank]

end Grid

end FileMode.Command
