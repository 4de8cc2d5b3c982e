/-!
# `Chip8.Picture`: pixels as text

A picture is a list of rows of pixels. `Picture.render` sets it as text,
one line a row, with one text for a lit pixel and one for a dark one;
`Picture.read?` reads such text back where both are single characters.
-/

set_option autoImplicit false

namespace Chip8

/-- Rows of pixels, from top to bottom and from left to right. -/
abbrev Picture := List (List Bool)

namespace Picture

/-- The usual text for a lit pixel. -/
def litMark : String := "#"

/-- The usual text for a dark pixel. -/
def darkMark : String := "."

/-- The text of one row. -/
def renderRow (on off : String) (row : List Bool) : String :=
  String.join (row.map fun lit => if lit then on else off)

/-- The rows as lines of text, without a line feed after the last. -/
def render (on off : String) (p : Picture) : String :=
  "\n".intercalate (p.map (renderRow on off))

/-- The pixel that a character stands for. -/
def pixel? (on off c : Char) : Option Bool :=
  if c = on then some true else if c = off then some false else none

/-- The lines of a text, which line feeds separate. -/
def lines : List Char → List (List Char)
  | [] => [[]]
  | c :: cs =>
    if c = '\n' then [] :: lines cs
    else match lines cs with
      | [] => [[c]]
      | l :: ls => (c :: l) :: ls

/-- The picture that a text shows, if it has no other characters than
those for lit and dark pixels. -/
def read? (on off : Char) (s : String) : Option Picture :=
  (lines s.toList).mapM fun line => line.mapM (pixel? on off)

end Picture

end Chip8
