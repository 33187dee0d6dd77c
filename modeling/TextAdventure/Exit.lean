/-!
# How a program ends
-/

namespace TextAdventure

/-- What a program leaves behind: its exit code and what it wrote. A program that crashed has no
error output worth keeping. -/
structure Exit where
  code : Nat := 0
  output : String := ""
  errors : Option String := some ""
deriving DecidableEq, Repr

/-- The exit code of a crash. -/
def Exit.crashCode : Nat := 101

end TextAdventure
