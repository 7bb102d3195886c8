/-!
# Lines

A line ends at a line feed, and one carriage return right before the line feed belongs to the
ending. A last line without a line feed is a line as well, unless it is empty, and keeps its
carriage return.
-/

set_option autoImplicit false

namespace RunMeter.Text

/-- The text of a line given backwards, without the carriage return of its ending. -/
def closeLine : List Char → List Char
  | '\r' :: reversed => reversed.reverse
  | reversed => reversed.reverse

/-- The lines of a text whose current line has already been read into `reversed`. -/
def linesFrom (reversed : List Char) : List Char → List (List Char)
  | [] => if reversed.isEmpty then [] else [reversed.reverse]
  | c :: rest =>
    if c = '\n' then closeLine reversed :: linesFrom [] rest else linesFrom (c :: reversed) rest

/-- The lines of a text. -/
def lines (text : List Char) : List (List Char) := linesFrom [] text

@[simp]
theorem lines_nil : lines [] = [] := rfl

end RunMeter.Text
