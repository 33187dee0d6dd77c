import TextAdventure.Frame
import TextAdventure.Text.Blank
import TextAdventure.Text.Bytes

/-!
# Painting

A frame is painted as text for a terminal: the characters themselves and escape sequences that
clear the screen, move the cursor and set the style. Positions are rounded to cells. Every glyph
sets its style and takes it back, so that nothing leaks into the next.

The text goes into a sink, which may have room for only so many bytes and may fail to flush. The
first failure ends the painting, and the sink keeps what it had accepted, to the byte: a character
that there is room for only in part is torn.
-/

namespace TextAdventure.Screen

/-! ## Sinks -/

/-- Why painting ended early. -/
inductive PaintError where
  | overflow
  | sinkFull
  | flushFailed
deriving DecidableEq, Repr

/-- The wording of a failure. -/
def PaintError.message : PaintError → String
  | .overflow => Overflow.message
  | .sinkFull => "sink full"
  | .flushFailed => "flush failed"

/-- Where painted text goes. -/
structure Sink where
  /-- What has been accepted, as far as it is whole characters. -/
  written : String := ""
  /-- How many bytes there is still room for; without a number, any. -/
  room : Option Nat := none
  /-- Whether flushing succeeds. -/
  flushes : Bool := true
  /-- The bytes accepted of a character that there was not room for. -/
  torn : List UInt8 := []
deriving DecidableEq, Repr

/-- A step of painting: it changes the sink, and keeps the change also when it fails. -/
abbrev Painter (α : Type) := EStateM PaintError Sink α

/-- The longest part at the start of a text that fits into so many bytes. -/
def fitting : Nat → List Char → List Char
  | _, [] => []
  | room, c :: rest => if c.utf8Size ≤ room then c :: fitting (room - c.utf8Size) rest else []

/-- The bytes behind that part that there is room for. -/
def tornPart (room : Nat) (text : String) : List UInt8 :=
  ((Text.bytes text).take room).drop (String.ofList (fitting room text.toList)).utf8ByteSize

/-- Writes a text, as far as there is room. -/
def put (text : String) : Painter Unit := fun sink =>
  match sink.room with
  | none => .ok () { sink with written := sink.written ++ text }
  | some room =>
    if text.utf8ByteSize ≤ room then
      .ok () { sink with written := sink.written ++ text, room := some (room - text.utf8ByteSize) }
    else
      let part := String.ofList (fitting room text.toList)
      .error .sinkFull
        { sink with
          written := sink.written ++ part
          room := some 0
          torn := sink.torn ++ tornPart room text }

/-- Flushes the sink. -/
def flush : Painter Unit := fun sink =>
  if sink.flushes then .ok () sink else .error .flushFailed sink

/-! ## Escape sequences -/

/-- What an escape sequence starts with. -/
def escape : String := "\x1b["

/-- Clears the screen. -/
def clearText : String := escape ++ "2J"

/-- The largest cell number. -/
def cellLimit : Nat := 65535

/-- Moves the cursor; rows and columns are counted from one, in sixteen bits. -/
def moveText? (column row : Nat) : Option String :=
  if row < cellLimit ∧ column < cellLimit then
    some (escape ++ toString (row + 1) ++ ";" ++ toString (column + 1) ++ "H")
  else none

/-- Moves the cursor. -/
def moveTo (column row : Nat) : Painter Unit :=
  match moveText? column row with
  | some text => put text
  | none => throw .overflow

/-! ## Styles -/

/-- How a character is drawn by the terminal; without a foreground, in its default colour. -/
structure Style where
  foreground : Option Rgb := none
  bold : Bool := false
  italic : Bool := false
deriving DecidableEq, Repr

/-- The style of a glyph. -/
def styleOf (glyph : Glyph) : Style where
  foreground := glyph.color.rgb?
  bold := glyph.weight == .bold
  italic := glyph.weight == .italic

/-- Sets the foreground. -/
def foregroundText (color : Rgb) : String :=
  escape ++ "38;2;" ++ toString color.red.toNat ++ ";" ++ toString color.green.toNat ++ ";" ++
    toString color.blue.toNat ++ "m"

/-- A character between what sets its style and what takes it back. -/
def styledText (style : Style) (c : Char) : String :=
  let color := (style.foreground.map foregroundText).getD ""
  let weight := (if style.bold then escape ++ "1m" else "") ++
    (if style.italic then escape ++ "3m" else "")
  let reset :=
    if style.bold || style.italic then escape ++ "0m"
    else if style.foreground.isSome then escape ++ "39m"
    else ""
  color ++ weight ++ String.singleton c ++ reset

/-! ## Frames -/

/-- The cell of a coordinate: the nearest one, and the first or the last for what lies outside. -/
def cell (x : Single) : Nat :=
  x.nearestNat cellLimit

/-- Paints a glyph in its cell. Blank characters are not drawn. -/
def paintGlyph (placed : PlacedGlyph) : Painter Unit := do
  if Text.isBlank placed.glyph.char then
    pure ()
  else
    moveTo (cell placed.x) (cell placed.y)
    put (styledText (styleOf placed.glyph) placed.glyph.char)

/-- Paints glyphs one after another. -/
def paintGlyphs : List PlacedGlyph → Painter Unit
  | [] => pure ()
  | placed :: rest => do
    paintGlyph placed
    paintGlyphs rest

/-- The column after a text that starts at a column. The text's length is counted in sixteen
bits. -/
def columnAfter (column : Nat) (text : String) : Nat :=
  min cellLimit (column + text.length % 65536)

/-- Clears the screen and paints a frame, leaving the cursor after the command line. -/
def paintFrame (frame : Frame) : Painter Unit := do
  put clearText
  paintGlyphs frame.text
  let column := cell frame.commandOrigin.1
  let row := cell frame.commandOrigin.2
  moveTo column row
  put frame.commandLine
  moveTo (columnAfter column frame.commandLine) row
  flush

/-- Runs a painter on a sink: what the sink has accepted, and how the painting ended. -/
def run {α : Type} (painter : Painter α) (sink : Sink) : Sink × Except PaintError α :=
  match painter sink with
  | .ok a sink => (sink, .ok a)
  | .error e sink => (sink, .error e)

/-- What becomes of a painter, as something to go on with even if the painting failed. -/
def outcome {α : Type} (painter : Painter α) : Painter (Except PaintError α) := fun sink =>
  match run painter sink with
  | (sink, result) => .ok result sink

end TextAdventure.Screen
