import TextAdventure.Color

/-!
# Glyphs

A glyph is a character together with the weight and the colour it is drawn in.
-/

namespace TextAdventure

/-- How heavily a character is drawn. -/
inductive Weight where
  | regular
  | bold
  | italic
deriving DecidableEq, Repr

/-- A character and its style. -/
structure Glyph where
  char : Char
  weight : Weight := .regular
  color : Color := .white
deriving DecidableEq, Repr

namespace Glyph

/-- Whether the glyph ends its line. -/
def isNewline (glyph : Glyph) : Bool :=
  glyph.char == '\n'

/-- Whether a line may end at the glyph. -/
def isSpace (glyph : Glyph) : Bool :=
  glyph.char == ' '

/-- The characters of a row of glyphs. -/
def plainText (glyphs : List Glyph) : String :=
  String.ofList (glyphs.map Glyph.char)

end Glyph

end TextAdventure
