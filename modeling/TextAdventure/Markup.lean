import TextAdventure.Glyph
import TextAdventure.Log

/-!
# Inline markup

Three characters are marks and are never drawn. `#` switches bold on and off, `~` switches italic
on and off, and `@` switches colour: when it switches colour on, the six characters after it are
the colour code, whatever they are. Bold and italic share one weight, so the last of the two
marks decides; switching colour off returns to white.

The text is scanned one character at a time. A scanner holds the pen and, while a colour code is
being read, the part of the code seen so far; a text that ends there leaves its code truncated.
-/

namespace TextAdventure.Markup

/-- What the marks read so far have switched on, and the style that follows from them. -/
structure Pen where
  bold : Bool := false
  italic : Bool := false
  colored : Bool := false
  weight : Weight := .regular
  color : Color := .white
deriving DecidableEq, Repr

namespace Pen

/-- The pen after a bold mark. -/
def toggleBold (pen : Pen) : Pen :=
  { pen with bold := !pen.bold, weight := if pen.bold then .regular else .bold }

/-- The pen after an italic mark. -/
def toggleItalic (pen : Pen) : Pen :=
  { pen with italic := !pen.italic, weight := if pen.italic then .regular else .italic }

/-- A character in the pen's style. -/
def glyph (pen : Pen) (c : Char) : Glyph :=
  { char := c, weight := pen.weight, color := pen.color }

end Pen

/-- A place in a text: the pen, and the colour code being read there. -/
structure Scanner where
  pen : Pen := {}
  code : Option (List Char) := none
deriving DecidableEq, Repr

namespace Scanner

/-- The scanner after one more character of a colour code. -/
def readCode (s : Scanner) (digits : List Char) : Scanner :=
  match Color.ofDigits? digits with
  | some color => { pen := { s.pen with color := color }, code := none }
  | none => { s with code := some digits }

/-- The scanner after a character. -/
def next (s : Scanner) (c : Char) : Scanner :=
  match s.code with
  | some digits => s.readCode (digits ++ [c])
  | none =>
    if c = '#' then { s with pen := s.pen.toggleBold }
    else if c = '~' then { s with pen := s.pen.toggleItalic }
    else if c = '@' then
      if s.pen.colored then { s with pen := { s.pen with colored := false, color := .white } }
      else { pen := { s.pen with colored := true }, code := some [] }
    else s

/-- The glyph drawn for a character: none for a mark or a part of a colour code. -/
def draw? (s : Scanner) (c : Char) : Option Glyph :=
  if s.code.isSome ∨ c = '#' ∨ c = '~' ∨ c = '@' then none else some (s.pen.glyph c)

/-- The scanner after a text. -/
def run (s : Scanner) (text : List Char) : Scanner :=
  text.foldl next s

/-- The glyphs drawn for a text. -/
def drawAll (s : Scanner) : List Char → List Glyph
  | [] => []
  | c :: rest => (s.draw? c).toList ++ drawAll (s.next c) rest

/-- Scanning goes on where it stopped. -/
theorem run_append (s : Scanner) (a b : List Char) : s.run (a ++ b) = (s.run a).run b := by
  simp [run]

/-- The glyphs of a text are those of its first part, and those of the rest scanned from where the
first part left off. -/
theorem drawAll_append (s : Scanner) (a b : List Char) :
    s.drawAll (a ++ b) = s.drawAll a ++ (s.run a).drawAll b := by
  induction a generalizing s with
  | nil => rfl
  | cons c rest ih =>
    have hrun : s.run (c :: rest) = (s.next c).run rest := rfl
    simp only [List.cons_append, drawAll, ih, hrun, List.append_assoc]

end Scanner

/-- The glyphs of an annotated text. -/
def lex (source : String) : List Glyph :=
  Scanner.drawAll {} source.toList

/-- The part of a colour code with which a text ends, if it ends inside one. -/
def truncatedCode? (source : String) : Option String :=
  (Scanner.run {} source.toList).code.map String.ofList

/-- What reading the markup of a text leaves in the log. -/
def lexLog (source : String) : List Log.Entry :=
  match truncatedCode? source with
  | some digits => [⟨.debug, "truncated colour code '" ++ digits ++ "' at end of markup"⟩]
  | none => []

example : lex "a#b#" = [{ char := 'a' }, { char := 'b', weight := .bold }] := by decide

end TextAdventure.Markup
