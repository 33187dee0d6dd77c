/-!
# Lines of a text

A line ends at a newline, together with one carriage return right before it; the last line needs
no end. A story's lines are joined by single spaces.
-/

namespace TextAdventure.Text

/-- The lines, without what ends them. -/
def splitLines : List Char → List (List Char)
  | [] => []
  | '\r' :: '\n' :: rest => [] :: splitLines rest
  | c :: rest =>
    if c = '\n' then [] :: splitLines rest
    else
      match splitLines rest with
      | [] => [[c]]
      | line :: lines => (c :: line) :: lines

/-- The lines of a text. -/
def lines (text : String) : List String :=
  (splitLines text.toList).map String.ofList

/-- Lines with single spaces between them. -/
def joinLines (lines : List String) : String :=
  " ".intercalate lines

end TextAdventure.Text
