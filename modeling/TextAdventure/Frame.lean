import TextAdventure.Layout

/-!
# Frames

Everything that is drawn at one time.
-/

namespace TextAdventure

/-- A frame: the placed text, the command line, and where the command line goes. -/
structure Frame where
  text : List PlacedGlyph
  commandLine : String
  commandOrigin : Single × Single
deriving DecidableEq, Repr

end TextAdventure
