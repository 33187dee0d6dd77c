/-!
# Overflow

Two counts have a fixed width: the lines of a laid-out text, and the row and column of a cursor
move. Going past the largest count ends the work at hand.
-/

namespace TextAdventure

/-- A count went past the largest one of its width. -/
structure Overflow where
deriving DecidableEq, Repr

/-- The wording of an overflow. -/
def Overflow.message : String := "attempt to add with overflow"

end TextAdventure
