import TextAdventure.Proofs.Screen.Terminal
import TextAdventure.Proofs.Screen.Written

/-!
# Painted frames are read back

A terminal that reads a painted frame sees the cleared screen, every glyph that is not blank in
its cell and its own style, and the command line in the default style: these events, in this
order, and no other. Between any two glyphs it is idle, that is outside escape sequences and in the
default style, so no style leaks.

`Shows` says this of a piece of text on its own, for every idle terminal. It is closed under
appending texts, so the frame's statement is put together like its text.
-/

namespace TextAdventure.Screen

/-! ## Idle terminals -/

/-- A terminal that is outside escape sequences and in the default style. -/
structure Terminal.Idle (t : Terminal) : Prop where
  reading : t.reading = .ground
  style : t.style = {}

/-- Whatever idle terminal reads the text, it sees these events and is idle again. -/
def Shows (text : String) (events : List Event) : Prop :=
  ∀ t : Terminal, t.Idle → (t.read text).seen = t.seen ++ events ∧ (t.read text).Idle

theorem Shows.empty : Shows "" [] :=
  fun t ht => ⟨(List.append_nil t.seen).symm, ht⟩

theorem Shows.append {a b : String} {as bs : List Event} (ha : Shows a as) (hb : Shows b bs) :
    Shows (a ++ b) (as ++ bs) := by
  intro t ht
  obtain ⟨haseen, haidle⟩ := ha t ht
  obtain ⟨hbseen, hbidle⟩ := hb (t.read a) haidle
  rw [Terminal.read_append, hbseen, haseen, List.append_assoc]
  exact ⟨rfl, hbidle⟩

theorem shows_clearText : Shows clearText [.clear] := by
  intro t ht
  rw [Terminal.read_clearText ht.reading]
  exact ⟨rfl, ht.reading, ht.style⟩

/-! ## Glyphs -/

/-- What a terminal sees of a glyph: its character in its cell and style, unless it is blank. A
colour that is no colour is the default foreground. -/
def drawing? (placed : PlacedGlyph) : Option Event :=
  if Text.isBlank placed.glyph.char then none
  else
    let style : Style :=
      { foreground := placed.glyph.color.rgb?
        bold := decide (placed.glyph.weight = .bold)
        italic := decide (placed.glyph.weight = .italic) }
    some (.draw (cell placed.y) (cell placed.x) style placed.glyph.char)

/-- A glyph that a terminal can draw: blank, or no control character. -/
def Drawable (placed : PlacedGlyph) : Prop :=
  Text.isBlank placed.glyph.char = false → isControl placed.glyph.char = false

instance (placed : PlacedGlyph) : Decidable (Drawable placed) :=
  inferInstanceAs (Decidable (_ → _))

/-- **One glyph**: it is drawn after the move to its cell, and its style is taken back. -/
theorem shows_glyphText? {placed : PlacedGlyph} (hplaced : Drawable placed) {text : String}
    (htext : glyphText? placed = some text) : Shows text (drawing? placed).toList := by
  unfold glyphText? at htext
  unfold drawing?
  cases hblank : Text.isBlank placed.glyph.char with
  | true =>
      rw [hblank, if_pos rfl] at htext
      cases htext
      exact .empty
  | false =>
      rw [hblank, if_neg (by decide)] at htext
      obtain ⟨move, styled, hmove, hstyled, rfl⟩ := joined_eq_some_iff.mp htext
      cases hstyled
      -- the move leaves the style alone, so the character starts from the default one
      intro t ht
      rw [Terminal.read_append, Terminal.read_moveText? ht.reading hmove,
        Terminal.read_styledText (by exact ht.reading) (by exact ht.style) _ (hplaced hblank)]
      exact ⟨rfl, ht.reading, ht.style⟩

/-- **All glyphs**, one after another. -/
theorem shows_glyphsText? {glyphs : List PlacedGlyph} (hglyphs : ∀ placed ∈ glyphs, Drawable placed)
    {text : String} (htext : glyphsText? glyphs = some text) :
    Shows text (glyphs.filterMap drawing?) := by
  induction glyphs generalizing text with
  | nil =>
      cases htext
      exact .empty
  | cons placed rest ih =>
      obtain ⟨first, others, hfirst, hothers, rfl⟩ := joined_eq_some_iff.mp htext
      have hplaced := shows_glyphText? (hglyphs placed (by simp)) hfirst
      have hrest := ih (fun p hp => hglyphs p (by simp [hp])) hothers
      have hevents : (placed :: rest).filterMap drawing?
          = (drawing? placed).toList ++ rest.filterMap drawing? := by
        cases h : drawing? placed <;> simp [h]
      rw [hevents]
      exact hplaced.append hrest

/-! ## Frames -/

/-- **The command line**: drawn from its first cell on. The move behind it is not seen. -/
theorem shows_commandText? {frame : Frame}
    (hline : ∀ c ∈ frame.commandLine.toList, isControl c = false) {text : String}
    (htext : commandText? frame = some text) :
    Shows text (Terminal.line (cell frame.commandOrigin.2) (cell frame.commandOrigin.1) {}
      frame.commandLine.toList) := by
  obtain ⟨start, rest, hstart, hrest, rfl⟩ := joined_eq_some_iff.mp htext
  obtain ⟨line, finish, hline', hfinish, rfl⟩ := joined_eq_some_iff.mp hrest
  cases hline'
  intro t ht
  rw [Terminal.read_append, Terminal.read_moveText? ht.reading hstart, Terminal.read_append,
    Terminal.read_line (by exact ht.reading) hline,
    Terminal.read_moveText? (by exact ht.reading) hfinish]
  refine ⟨?_, ht.reading, ht.style⟩
  rw [ht.style]

/-- What a terminal is to make of the output for a frame. -/
structure Decodes (frame : Frame) (output : String) (t : Terminal) : Prop where
  /-- The cleared screen, the glyphs, the command line, and nothing else. -/
  seen : (t.read output).seen
    = t.seen ++ [.clear] ++ frame.text.filterMap drawing?
        ++ Terminal.line (cell frame.commandOrigin.2) (cell frame.commandOrigin.1) {}
            frame.commandLine.toList
  idle : (t.read output).Idle
  /-- Wherever the glyphs are cut in two, the output starts with what the first of them are painted
  as, and the terminal is idle behind it. -/
  idle_between : ∀ before after, frame.text = before ++ after → ∃ part rest,
    run (do put clearText; paintGlyphs before) {} = ({ written := part }, .ok ()) ∧
      output = part ++ rest ∧
      (t.read part).seen = t.seen ++ [.clear] ++ before.filterMap drawing? ∧
      (t.read part).Idle

/-- **Painted frames decode**: where painting does not overflow it succeeds, and every idle terminal
reads the frame off the output. -/
theorem decodes_paintFrame (frame : Frame) (t : Terminal) (ht : t.Idle)
    (htext : ∀ placed ∈ frame.text, Drawable placed)
    (hline : ∀ c ∈ frame.commandLine.toList, isControl c = false)
    (hpaints : (run (paintFrame frame) {}).2 ≠ .error .overflow) :
    (run (paintFrame frame) {}).2 = .ok () ∧
      Decodes frame (run (paintFrame frame) {}).1.written t := by
  obtain ⟨output, houtput⟩ := exists_frameText? rfl hpaints
  have hrun := run_paintFrame houtput
  obtain ⟨clear, rest, hclear, hrest, rfl⟩ := joined_eq_some_iff.mp houtput
  obtain ⟨glyphs, command, hglyphs, hcommand, rfl⟩ := joined_eq_some_iff.mp hrest
  cases hclear
  have hwhole := shows_clearText.append
    ((shows_glyphsText? htext hglyphs).append (shows_commandText? hline hcommand)) t ht
  rw [hrun]
  refine ⟨rfl, ⟨?_, hwhole.2, ?_⟩⟩
  · simpa only [List.append_assoc] using hwhole.1
  · -- the text of the glyphs is cut where the glyphs are
    intro before after hsplit
    rw [hsplit, glyphsText?_append] at hglyphs
    obtain ⟨a, b, ha, hb, rfl⟩ := joined_eq_some_iff.mp hglyphs
    have hbefore : ∀ placed ∈ before, Drawable placed :=
      fun placed h => htext placed (by simp [hsplit, h])
    have hpart := shows_clearText.append (shows_glyphsText? hbefore ha) t ht
    refine ⟨clearText ++ a, b ++ command, ?_, ?_, ?_, hpart.2⟩
    · exact Paints.run_eq ((Paints.put clearText).bind (ha ▸ paints_paintGlyphs before))
    · simp only [String.append_assoc]
    · simpa only [List.append_assoc] using hpart.1

/-- A frame with neighbours of unlike style: bold in a colour, a newline, italic with a code that is
no colour, and regular in a colour. -/
def motleyFrame : Frame where
  text :=
    [{ glyph := { char := 'A', weight := .bold, color := ⟨'f', 'f', '0', '0', '8', '0'⟩ }
       x := 3
       y := 1 },
     { glyph := { char := '\n' }
       x := 4
       y := 1 },
     { glyph := { char := 'b', weight := .italic, color := ⟨'?', 'f', '0', '0', '8', '0'⟩ }
       x := 0
       y := 2 },
     { glyph := { char := 'c' }
       x := 12
       y := 2 }]
  commandLine := "> go"
  commandOrigin := (5, 20)

/-- The glyphs are drawable although a newline is a control character: it is blank. -/
theorem motleyFrame_decodes :
    (∀ placed ∈ motleyFrame.text, Drawable placed) ∧
      (∀ c ∈ motleyFrame.commandLine.toList, isControl c = false) ∧
      (run (paintFrame motleyFrame) {}).2 = .ok () ∧
      Decodes motleyFrame (run (paintFrame motleyFrame) {}).1.written {} ∧
      motleyFrame.text.filterMap drawing?
        = [.draw 1 3 { foreground := some ⟨255, 0, 128⟩, bold := true } 'A',
           .draw 2 0 { italic := true } 'b',
           .draw 2 12 { foreground := some ⟨255, 255, 255⟩ } 'c'] := by
  have hidle : Terminal.Idle {} := ⟨rfl, rfl⟩
  have htext : ∀ placed ∈ motleyFrame.text, Drawable placed := by decide +kernel
  have hline : ∀ c ∈ motleyFrame.commandLine.toList, isControl c = false := by
    simp [motleyFrame, isControl]
  have hpaints : (run (paintFrame motleyFrame) {}).2 ≠ .error .overflow := by
    have hok : (run (paintFrame motleyFrame) {}).2 = .ok () := rfl
    rw [hok]
    nofun
  obtain ⟨hok, hdecodes⟩ := decodes_paintFrame motleyFrame {} hidle htext hline hpaints
  exact ⟨htext, hline, hok, hdecodes, by decide +kernel⟩

end TextAdventure.Screen
