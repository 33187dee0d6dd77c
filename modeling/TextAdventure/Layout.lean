import TextAdventure.Glyph
import TextAdventure.Overflow
import TextAdventure.Single.Basic

/-!
# Layout

Glyphs are placed in a box from left to right. A line ends at a newline, and at a space that has
reached the soft margin; the glyph that ends a line is still placed on it. All sums are
single-precision sums, one addition per glyph.
-/

namespace TextAdventure

/-- Where text is placed: its first position, the width of a line and how much of it is kept free
for the word that crosses the margin, the step between lines and the step between glyphs. -/
structure TextBox where
  originX : Single := 0
  originY : Single := 0
  width : Single := 72
  slack : Single := 12
  lineHeight : Single := 1
  advance : Single := 1
deriving DecidableEq, Repr

/-- The distance from the origin at which a space ends its line. -/
def TextBox.softMargin (box : TextBox) : Single :=
  box.width - box.slack

/-- Whether two boxes have the same values. -/
def TextBox.sameValue (a b : TextBox) : Bool :=
  a.originX.sameValue b.originX && a.originY.sameValue b.originY && a.width.sameValue b.width &&
    a.slack.sameValue b.slack && a.lineHeight.sameValue b.lineHeight &&
    a.advance.sameValue b.advance

/-- A glyph and its position. -/
structure PlacedGlyph where
  glyph : Glyph
  x : Single
  y : Single
deriving DecidableEq, Repr

namespace Layout

/-- Whether a glyph at this `x` ends its line. -/
def endsLine (box : TextBox) (glyph : Glyph) (x : Single) : Bool :=
  glyph.isNewline || (glyph.isSpace && box.softMargin.atMost (x - box.originX))

/-- The glyphs placed from a position on. -/
def placeFrom (box : TextBox) (x y : Single) : List Glyph → List PlacedGlyph
  | [] => []
  | glyph :: rest =>
    ⟨glyph, x, y⟩ ::
      if endsLine box glyph x then placeFrom box box.originX (y + box.lineHeight) rest
      else placeFrom box (x + box.advance) y rest

/-- The glyphs placed in a box. -/
def place (box : TextBox) (glyphs : List Glyph) : List PlacedGlyph :=
  placeFrom box box.originX box.originY glyphs

/-- Placing changes no glyph and no order. -/
theorem map_glyph_placeFrom (box : TextBox) (x y : Single) (glyphs : List Glyph) :
    (placeFrom box x y glyphs).map PlacedGlyph.glyph = glyphs := by
  induction glyphs generalizing x y with
  | nil => rfl
  | cons glyph rest ih =>
    by_cases h : endsLine box glyph x = true
    · simp [placeFrom, h, ih]
    · simp [placeFrom, h, ih]

/-- Every glyph is placed once. -/
theorem length_placeFrom (box : TextBox) (x y : Single) (glyphs : List Glyph) :
    (placeFrom box x y glyphs).length = glyphs.length := by
  have h := congrArg List.length (map_glyph_placeFrom box x y glyphs)
  simpa using h

/-- The largest number of lines that can be counted. -/
def countLimit : Nat := 0xffffffffffffffff

/-- How many lines placed glyphs take, read off the height of the last one. -/
def lineCount (box : TextBox) (placed : List PlacedGlyph) : Except Overflow Nat :=
  match placed.getLast? with
  | none => .ok 0
  | some last =>
    let steps := ((last.y - box.originY) / box.lineHeight).nearestNat countLimit
    if steps < countLimit then .ok (steps + 1) else .error {}

end Layout

end TextAdventure
