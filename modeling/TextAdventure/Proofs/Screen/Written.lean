import TextAdventure.Screen

/-!
# What painting writes

A painter either stands for one text, whatever sink it gets, or moves the cursor to a cell beyond
the last one. `Paints` says which. Texts written one after another are one text (`put_append`):
with enough room for both nothing is lost between them, and without it the sink keeps the same
part. So every painter has one lemma, and a frame is one text and a flush (`paintFrame_eq_put`).
-/

namespace TextAdventure.Screen

/-! ## Texts one after another -/

/-- The second text gets the room that the first leaves, and none if the first does not fit. -/
theorem fitting_append (room : Nat) (a b : List Char) :
    fitting room (a ++ b)
      = if (String.ofList a).utf8ByteSize ≤ room
        then a ++ fitting (room - (String.ofList a).utf8ByteSize) b
        else fitting room a := by
  induction a generalizing room with
  | nil => simp
  | cons c a ih =>
      rw [Text.utf8ByteSize_ofList_cons, List.cons_append, fitting, fitting]
      by_cases hc : c.utf8Size ≤ room
      · rw [if_pos hc, if_pos hc, ih]
        by_cases ha : (String.ofList a).utf8ByteSize ≤ room - c.utf8Size
        · rw [if_pos ha, if_pos (by omega), List.cons_append, Nat.sub_sub]
        · rw [if_neg ha, if_neg (by omega)]
      · rw [if_neg hc, if_neg hc, if_neg (by omega)]

/-- What is torn is torn in the text that does not fit. -/
theorem tornPart_append (room : Nat) (a b : String) :
    tornPart room (a ++ b)
      = if a.utf8ByteSize ≤ room then tornPart (room - a.utf8ByteSize) b else tornPart room a := by
  have hfitting := fitting_append room a.toList b.toList
  rw [String.ofList_toList] at hfitting
  rw [tornPart, String.toList_append, hfitting, Text.bytes_append, List.take_append,
    Text.length_bytes]
  split
  · rename_i ha
    rw [String.ofList_append, String.ofList_toList, String.utf8ByteSize_append,
      List.take_of_length_le (l := Text.bytes a) ha, ← Text.length_bytes a,
      List.drop_length_add_append]
    rfl
  · rename_i ha
    rw [Nat.sub_eq_zero_of_le (by omega), List.take_zero, List.append_nil]
    rfl

/-- **Writing twice is writing once**, on every sink. -/
theorem put_append (a b : String) : (do put a; put b) = put (a ++ b) := by
  funext sink
  obtain ⟨written, room, flushes, torn⟩ := sink
  cases room with
  | none => simp [put, bind, EStateM.bind, String.append_assoc]
  | some room =>
      have hfitting := fitting_append room a.toList b.toList
      rw [String.ofList_toList] at hfitting
      simp only [put, bind, EStateM.bind, String.utf8ByteSize_append, String.toList_append,
        hfitting, tornPart_append]
      by_cases ha : a.utf8ByteSize ≤ room
      · by_cases hb : b.utf8ByteSize ≤ room - a.utf8ByteSize
        · have hab : a.utf8ByteSize + b.utf8ByteSize ≤ room := by omega
          simp [ha, hb, hab, String.append_assoc, Nat.sub_sub]
        · have hab : ¬ a.utf8ByteSize + b.utf8ByteSize ≤ room := by omega
          simp [ha, hb, hab, String.append_assoc]
      · have hab : ¬ a.utf8ByteSize + b.utf8ByteSize ≤ room := by omega
        simp [ha, hab]

theorem put_empty : put "" = pure () := by
  funext sink
  obtain ⟨written, room, flushes, torn⟩ := sink
  cases room <;> simp [put, pure, EStateM.pure]

/-! ## Painters -/

/-- Two texts as one, if there are both. -/
def joined (a b : Option String) : Option String := do
  return (← a) ++ (← b)

theorem joined_eq_some_iff {a b : Option String} {text : String} :
    joined a b = some text ↔ ∃ x y, a = some x ∧ b = some y ∧ x ++ y = text := by
  simp [joined, Option.bind_eq_some_iff]

theorem joined_assoc (a b c : Option String) :
    joined a (joined b c) = joined (joined a b) c := by
  cases a <;> cases b <;> cases c <;> simp [joined, String.append_assoc]

/-- What a painter amounts to: a text that it writes, or a move beyond the last cell, which a sink
that takes everything cannot hide. -/
def Paints (painter : Painter Unit) : Option String → Prop
  | some text => painter = put text
  | none => ∀ sink, sink.room = none → ∃ sink', painter sink = .error .overflow sink'

namespace Paints

theorem put (text : String) : Paints (Screen.put text) (some text) := rfl

theorem pure : Paints (Pure.pure ()) (some "") :=
  put_empty.symm

theorem moveTo (column row : Nat) : Paints (Screen.moveTo column row) (moveText? column row) := by
  unfold Screen.moveTo
  cases moveText? column row with
  | some text => rfl
  | none => exact fun sink _ => ⟨sink, rfl⟩

/-- **One painter after another** writes both texts, if both have one. -/
theorem bind {p q : Painter Unit} {a b : Option String} (hp : Paints p a) (hq : Paints q b) :
    Paints (do p; q) (joined a b) := by
  match a, b, hp, hq with
  | some a, some b, hp, hq =>
      cases hp
      cases hq
      exact put_append a b
  | some a, none, hp, hq =>
      -- the first text leaves the sink without a limit, so the second painter overflows there
      cases hp
      intro sink hroom
      obtain ⟨sink', hsink'⟩ := hq { sink with written := sink.written ++ a } hroom
      refine ⟨sink', ?_⟩
      simp only [Bind.bind, EStateM.bind, Screen.put, hroom]
      exact hroom ▸ hsink'
  | none, _, hp, _ =>
      intro sink hroom
      obtain ⟨sink', hsink'⟩ := hp sink hroom
      refine ⟨sink', ?_⟩
      simp only [Bind.bind, EStateM.bind, hsink']

/-- A painter that stands for a text succeeds on an empty sink that takes everything. -/
theorem run_eq {painter : Painter Unit} {text : String} (h : Paints painter (some text)) :
    run painter {} = ({ written := text }, .ok ()) := by
  cases h
  simp [run, Screen.put]

end Paints

/-! ## Frames -/

/-- The text of a glyph: a move to its cell and the styled character. -/
def glyphText? (placed : PlacedGlyph) : Option String :=
  if Text.isBlank placed.glyph.char then some ""
  else
    joined (moveText? (cell placed.x) (cell placed.y))
      (some (styledText (styleOf placed.glyph) placed.glyph.char))

/-- The texts of glyphs, one after another. -/
def glyphsText? : List PlacedGlyph → Option String
  | [] => some ""
  | placed :: rest => joined (glyphText? placed) (glyphsText? rest)

/-- The text of glyphs falls apart wherever the glyphs do. -/
theorem glyphsText?_append (before after : List PlacedGlyph) :
    glyphsText? (before ++ after) = joined (glyphsText? before) (glyphsText? after) := by
  induction before with
  | nil => cases h : glyphsText? after <;> simp [joined, glyphsText?, h]
  | cons placed before ih =>
      rw [List.cons_append, glyphsText?, glyphsText?, ih, joined_assoc]

/-- The text of a command line, between the moves to its first cell and to the cell behind it. -/
def commandText? (frame : Frame) : Option String :=
  let column := cell frame.commandOrigin.1
  let row := cell frame.commandOrigin.2
  joined (moveText? column row)
    (joined (some frame.commandLine) (moveText? (columnAfter column frame.commandLine) row))

/-- The text of a frame. -/
def frameText? (frame : Frame) : Option String :=
  joined (some clearText) (joined (glyphsText? frame.text) (commandText? frame))

theorem paints_paintGlyph (placed : PlacedGlyph) :
    Paints (paintGlyph placed) (glyphText? placed) := by
  unfold paintGlyph glyphText?
  split
  · exact .pure
  · exact (Paints.moveTo _ _).bind (.put _)

theorem paints_paintGlyphs (glyphs : List PlacedGlyph) :
    Paints (paintGlyphs glyphs) (glyphsText? glyphs) := by
  induction glyphs with
  | nil => exact .pure
  | cons placed rest ih => exact (paints_paintGlyph placed).bind ih

/-- **A frame** is painted as one text and a flush. -/
theorem exists_paints_frame (frame : Frame) :
    ∃ painter, Paints painter (frameText? frame) ∧ paintFrame frame = (do painter; flush) := by
  have hcommand : Paints _ (commandText? frame) :=
    (Paints.moveTo _ _).bind ((Paints.put _).bind (.moveTo _ _))
  refine ⟨_, (Paints.put clearText).bind ((paints_paintGlyphs frame.text).bind hcommand), ?_⟩
  simp only [paintFrame, bind_assoc]

/-- A frame whose text exists is painted into every sink as that text. -/
theorem paintFrame_eq_put {frame : Frame} {text : String} (htext : frameText? frame = some text) :
    paintFrame frame = (do put text; flush) := by
  obtain ⟨painter, hpainter, hframe⟩ := exists_paints_frame frame
  rw [htext] at hpainter
  rw [hframe, hpainter]

theorem run_paintFrame {frame : Frame} {text : String} (htext : frameText? frame = some text) :
    run (paintFrame frame) {} = ({ written := text }, .ok ()) := by
  rw [paintFrame_eq_put htext]
  simp [run, put, flush, bind, EStateM.bind]

/-- **A frame that is painted without overflow** has a text. -/
theorem exists_frameText? {frame : Frame} {sink : Sink} (hroom : sink.room = none)
    (hpaints : (run (paintFrame frame) sink).2 ≠ .error .overflow) :
    ∃ text, frameText? frame = some text := by
  obtain ⟨painter, hpainter, hframe⟩ := exists_paints_frame frame
  cases htext : frameText? frame with
  | some text => exact ⟨text, rfl⟩
  | none =>
      rw [htext] at hpainter
      obtain ⟨sink', hsink'⟩ := hpainter sink hroom
      refine absurd ?_ hpaints
      simp only [hframe, run, bind, EStateM.bind, hsink']

end TextAdventure.Screen
