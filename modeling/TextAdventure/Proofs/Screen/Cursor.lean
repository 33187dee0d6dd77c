import TextAdventure.Proofs.Screen.Terminal
import TextAdventure.Proofs.Screen.Written

/-!
# Where the cursor can go

Coordinates are held between the first and the last cell, but a move counts rows and columns from
one, so the last cell itself is out of its reach: painting succeeds exactly for frames that stay
short of it (`paintFrame_succeeds_iff`). The last move of a frame goes behind the command line,
whose length is counted in sixteen bits: it is the right place for lines of fewer than `65536`
characters, and for no others (`paintFrame_ends_with_move`).
-/

namespace TextAdventure.Screen

/-! ## Cells -/

theorem atMost_iff_of_place {x y : Single} {a b : Int} (hx : x.place = some a)
    (hy : y.place = some b) : x.atMost y = true ↔ a ≤ b := by
  simp [Single.atMost, hx, hy]

/-- Where the last cell begins: half a cell before its number. -/
def lastEdge : Single := 131069 / 2

/-- Half a cell, in units. -/
def halfCell : Nat := Nat.pow 2 148

theorem lastEdge_atMost_eq_false_iff {x : Single} {p : Int} (hx : x.place = some p) :
    lastEdge.atMost x = false ↔ p < 131069 * halfCell := by
  have hedge : lastEdge.place = some (131069 * (halfCell : Int)) := by decide +kernel
  rw [← Bool.not_eq_true, atMost_iff_of_place hedge hx, Int.not_le]

/-- **A cell can be moved to** exactly if the coordinate does not reach the last one; `nan` has the
first cell. -/
theorem cell_lt_cellLimit_iff (x : Single) : cell x < cellLimit ↔ lastEdge.atMost x = false := by
  have hlimit : cellLimit = 65535 := rfl
  have hunits : Single.unitsPerOne = 2 * halfCell := by decide +kernel
  have hpos : 0 < halfCell := Nat.two_pow_pos 148
  cases x with
  | nan => exact iff_of_true (by decide) (by decide +kernel)
  | infinite negative =>
      have hfar : 131069 * halfCell ≤ Nat.pow 2 277 := by decide +kernel
      rw [lastEdge_atMost_eq_false_iff (p := Single.signed negative (Nat.pow 2 277)) rfl]
      cases negative with
      | true =>
          simp only [cell, Single.nearestNat, Single.signed, if_true]
          omega
      | false =>
          simp only [cell, Single.nearestNat, Single.signed, Bool.false_eq_true, if_false]
          omega
  | finite negative e f =>
      rw [lastEdge_atMost_eq_false_iff (p := Single.signed negative (Single.units e f)) rfl]
      cases negative with
      | true =>
          simp only [cell, Single.nearestNat, Single.signed, if_true]
          omega
      | false =>
          have hhalf : 2 * halfCell / 2 = halfCell := by omega
          have hdiv : (Single.units e f + halfCell) / (2 * halfCell) < 65535
              ↔ Single.units e f + halfCell < 65535 * (2 * halfCell) :=
            Nat.div_lt_iff_lt_mul (by omega)
          simp only [cell, Single.nearestNat, Single.signed, Bool.false_eq_true, if_false, hunits,
            hhalf, hlimit]
          omega

theorem cell_le_cellLimit (x : Single) : cell x ≤ cellLimit := by
  obtain _ | (_ | _) | ⟨_ | _, e, f⟩ := x <;> simp only [cell, Single.nearestNat] <;> omega

theorem lastEdge_atMost_iff (x : Single) : lastEdge.atMost x = true ↔ cell x = cellLimit := by
  have hle := cell_le_cellLimit x
  rw [← Bool.not_eq_false, ← cell_lt_cellLimit_iff]
  omega

/-- What lies before the first cell is held there, and so is `nan`. -/
theorem cell_eq_zero {x : Single} (hx : x.atMost 0 = true ∨ x = .nan) : cell x = 0 := by
  rcases hx with hx | rfl
  · have hzero : (0 : Single).place = some 0 := by decide +kernel
    obtain _ | (_ | _) | ⟨_ | _, e, f⟩ := x
    · rfl
    · exact absurd hx (by decide +kernel)
    · rfl
    · have hle : (Single.units e f : Int) ≤ 0 := (atMost_iff_of_place rfl hzero).mp hx
      have hunits : Single.units e f = 0 := by omega
      have hhalf : Single.unitsPerOne / 2 / Single.unitsPerOne = 0 := by decide +kernel
      simp [cell, Single.nearestNat, hunits, hhalf]
    · rfl
  · rfl

/-! ## Frames that can be painted -/

/-- A frame that stays short of the last row and the last column, with its glyphs, its command line
and the place behind it. -/
structure StaysShort (frame : Frame) : Prop where
  glyphs : ∀ placed ∈ frame.text, Text.isBlank placed.glyph.char = false →
    lastEdge.atMost placed.x = false ∧ lastEdge.atMost placed.y = false
  column : lastEdge.atMost frame.commandOrigin.1 = false
  row : lastEdge.atMost frame.commandOrigin.2 = false
  finish : cell frame.commandOrigin.1 + frame.commandLine.length % 65536 < cellLimit

theorem isSome_joined (a b : Option String) : (joined a b).isSome = (a.isSome && b.isSome) := by
  cases a <;> cases b <;> rfl

theorem isSome_moveText?_iff {column row : Nat} :
    (moveText? column row).isSome = true ↔ column < cellLimit ∧ row < cellLimit := by
  unfold moveText?
  split
  · rename_i h
    simp [h]
  · rename_i h
    simp only [Option.isSome_none, Bool.false_eq_true, false_iff]
    exact fun hlt => h hlt.symm

theorem isSome_glyphText?_iff {placed : PlacedGlyph} :
    (glyphText? placed).isSome = true ↔ (Text.isBlank placed.glyph.char = false →
      lastEdge.atMost placed.x = false ∧ lastEdge.atMost placed.y = false) := by
  unfold glyphText?
  cases Text.isBlank placed.glyph.char with
  | true => simp
  | false =>
      rw [if_neg (by decide), isSome_joined, Option.isSome_some, Bool.and_true,
        isSome_moveText?_iff, cell_lt_cellLimit_iff, cell_lt_cellLimit_iff]
      simp

theorem isSome_glyphsText?_iff {glyphs : List PlacedGlyph} :
    (glyphsText? glyphs).isSome = true ↔
      ∀ placed ∈ glyphs, (glyphText? placed).isSome = true := by
  induction glyphs with
  | nil => simp [glyphsText?]
  | cons placed rest ih =>
      rw [glyphsText?, isSome_joined, Bool.and_eq_true, ih, List.forall_mem_cons]

theorem isSome_commandText?_iff {frame : Frame} :
    (commandText? frame).isSome = true ↔
      lastEdge.atMost frame.commandOrigin.1 = false ∧
      lastEdge.atMost frame.commandOrigin.2 = false ∧
      cell frame.commandOrigin.1 + frame.commandLine.length % 65536 < cellLimit := by
  have hafter : columnAfter (cell frame.commandOrigin.1) frame.commandLine < cellLimit ↔
      cell frame.commandOrigin.1 + frame.commandLine.length % 65536 < cellLimit := by
    unfold columnAfter
    omega
  simp only [commandText?, isSome_joined, Option.isSome_some, Bool.true_and, Bool.and_eq_true,
    isSome_moveText?_iff, hafter, cell_lt_cellLimit_iff]
  constructor
  · rintro ⟨⟨hcolumn, hrow⟩, hfinish, -⟩
    exact ⟨hcolumn, hrow, hfinish⟩
  · rintro ⟨hcolumn, hrow, hfinish⟩
    exact ⟨⟨hcolumn, hrow⟩, hfinish, hrow⟩

theorem isSome_frameText?_iff {frame : Frame} :
    (frameText? frame).isSome = true ↔ StaysShort frame := by
  rw [frameText?, isSome_joined, isSome_joined, Option.isSome_some, Bool.true_and,
    Bool.and_eq_true, isSome_glyphsText?_iff, isSome_commandText?_iff]
  constructor
  · rintro ⟨hglyphs, hcolumn, hrow, hfinish⟩
    exact ⟨fun placed hplaced => isSome_glyphText?_iff.mp (hglyphs placed hplaced), hcolumn, hrow,
      hfinish⟩
  · intro h
    exact ⟨fun placed hplaced => isSome_glyphText?_iff.mpr (h.glyphs placed hplaced), h.column,
      h.row, h.finish⟩

/-- **Painting succeeds exactly short of the last cell.** Every coordinate is held between the first
cell and the last. A sink that takes everything is told of one failure only, a move to the last row
or column, and of that one whenever a glyph that is drawn, the command line or the place behind it
lies there or beyond. -/
theorem paintFrame_succeeds_iff (frame : Frame) (written : String) :
    ((run (paintFrame frame) { written := written }).2 = .ok () ↔ StaysShort frame) ∧
      ((run (paintFrame frame) { written := written }).2 = .error .overflow ↔
        ¬ StaysShort frame) ∧
      ∀ x : Single, (lastEdge.atMost x = true ↔ cell x = 65535) ∧
        (x.atMost 0 = true ∨ x = .nan → cell x = 0) := by
  rw [← and_assoc, ← isSome_frameText?_iff]
  refine ⟨?_, fun x => ⟨lastEdge_atMost_iff x, cell_eq_zero⟩⟩
  cases htext : frameText? frame with
  | some text =>
      have hrun : (run (paintFrame frame) { written := written }).2 = .ok () := by
        rw [paintFrame_eq_put htext]
        rfl
      rw [hrun]
      simp
  | none =>
      have hrun : (run (paintFrame frame) { written := written }).2 = .error .overflow := by
        refine Classical.byContradiction fun hpaints => ?_
        obtain ⟨text, hsome⟩ := exists_frameText? rfl hpaints
        rw [htext] at hsome
        cases hsome
      rw [hrun]
      simp

/-- A letter laid out far to the right of the last column. -/
def farFrame : Frame where
  text := Layout.place { originX := 1000000000 } [{ char := 'a' }]
  commandLine := ""
  commandOrigin := (0, 0)

/-- The letter is given the last column, and the move there fails. -/
theorem farFrame_overflows :
    farFrame.text.map (fun placed => cell placed.x) = [65535] ∧
      (run (paintFrame farFrame) {}).2 = .error .overflow := by
  constructor
  · decide +kernel
  · rfl

/-! ## Behind the command line -/

/-- The painting of a frame up to its last move. -/
def paintToCommandLine (frame : Frame) : Painter Unit := do
  put clearText
  paintGlyphs frame.text
  moveTo (cell frame.commandOrigin.1) (cell frame.commandOrigin.2)
  put frame.commandLine

/-- **The last thing painted** is a move, to the row of the command line and the column that its
length gives. -/
theorem exists_move_of_frameText? {frame : Frame} {text : String}
    (htext : frameText? frame = some text) :
    ∃ before move, text = before ++ move ∧
      run (paintToCommandLine frame) {} = ({ written := before }, .ok ()) ∧
      moveText? (columnAfter (cell frame.commandOrigin.1) frame.commandLine)
        (cell frame.commandOrigin.2) = some move := by
  obtain ⟨clear, rest, hclear, hrest, rfl⟩ := joined_eq_some_iff.mp htext
  obtain ⟨glyphs, command, hglyphs, hcommand, rfl⟩ := joined_eq_some_iff.mp hrest
  obtain ⟨start, line, hstart, hline, rfl⟩ := joined_eq_some_iff.mp hcommand
  obtain ⟨words, move, hwords, hmove, rfl⟩ := joined_eq_some_iff.mp hline
  cases hclear
  cases hwords
  refine ⟨clearText ++ (glyphs ++ (start ++ frame.commandLine)), move, ?_, ?_, hmove⟩
  · simp only [String.append_assoc]
  · have hpaints : Paints (paintToCommandLine frame)
        (joined (some clearText) (joined (glyphsText? frame.text)
          (joined (moveText? (cell frame.commandOrigin.1) (cell frame.commandOrigin.2))
            (some frame.commandLine)))) :=
      (Paints.put _).bind ((paints_paintGlyphs _).bind ((Paints.moveTo _ _).bind (.put _)))
    rw [hglyphs, hstart] at hpaints
    exact hpaints.run_eq

/-- **The cursor behind the command line.** Where painting does not overflow it ends with a move, to
the row of the command line and as many columns right of its first as it has characters, counted in
sixteen bits. That is the column behind the line exactly if it has fewer than `65536`. -/
theorem paintFrame_ends_with_move {frame : Frame}
    (hpaints : (run (paintFrame frame) {}).2 ≠ .error .overflow) :
    let row := cell frame.commandOrigin.2
    let column := cell frame.commandOrigin.1
    let finish := min 65535 (column + frame.commandLine.length % 65536)
    ∃ before move,
      run (paintToCommandLine frame) {} = ({ written := before }, .ok ()) ∧
      moveText? finish row = some move ∧
      run (paintFrame frame) {} = ({ written := before ++ move }, .ok ()) ∧
      (∀ t : Terminal, (t.read before).reading = .ground →
        t.read (before ++ move) = { t.read before with row := row, column := finish }) ∧
      (finish = min 65535 (column + frame.commandLine.length) ↔
        frame.commandLine.length < 65536) := by
  intro row column finish
  obtain ⟨text, htext⟩ := exists_frameText? rfl hpaints
  obtain ⟨before, move, rfl, hbefore, hmove⟩ := exists_move_of_frameText? htext
  have hfinish : finish = min 65535 (column + frame.commandLine.length % 65536) := rfl
  change moveText? finish row = some move at hmove
  refine ⟨before, move, hbefore, hmove, run_paintFrame htext, fun t ht => ?_, ?_⟩
  · rw [Terminal.read_append, Terminal.read_moveText? ht hmove]
  · -- a column that was moved to is no limit, so nothing but the length was cut down
    have hlt : finish < 65535 := (isSome_moveText?_iff.mp (by rw [hmove]; rfl)).1
    omega

/-- A command line of four characters in the middle of the screen. -/
def promptFrame : Frame where
  text := []
  commandLine := "> go"
  commandOrigin := (5, 20)

theorem promptFrame_ends_with_move :
    (run (paintFrame promptFrame) {}).2 ≠ .error .overflow ∧
      ∃ before, run (paintToCommandLine promptFrame) {} = ({ written := before }, .ok ()) ∧
        run (paintFrame promptFrame) {} = ({ written := before ++ "\x1b[21;10H" }, .ok ()) := by
  have hpaints : (run (paintFrame promptFrame) {}).2 ≠ .error .overflow := by
    have hok : (run (paintFrame promptFrame) {}).2 = .ok () := rfl
    rw [hok]
    nofun
  obtain ⟨before, move, hbefore, hmove, hrun, -⟩ := paintFrame_ends_with_move hpaints
  have hcolumn : cell promptFrame.commandOrigin.1 = 5 := by decide +kernel
  have hrow : cell promptFrame.commandOrigin.2 = 20 := by decide +kernel
  have hlength : promptFrame.commandLine.length = 4 := by decide
  rw [hcolumn, hrow, hlength] at hmove
  have htext : moveText? 9 20 = some "\x1b[21;10H" := by decide
  have hsame : move = "\x1b[21;10H" := Option.some.inj (hmove.symm.trans htext)
  exact ⟨hpaints, before, hbefore, hsame ▸ hrun⟩

/-- A command line whose length is nothing in sixteen bits. -/
def longFrame : Frame where
  text := []
  commandLine := String.ofList (List.replicate 65536 'a')
  commandOrigin := (0, 0)

/-- The cursor goes back to the first column instead of the last. -/
theorem longFrame_cursor_returns :
    min 65535 (cell longFrame.commandOrigin.1 + longFrame.commandLine.length) = 65535 ∧
      ∃ before, run (paintToCommandLine longFrame) {} = ({ written := before }, .ok ()) ∧
        run (paintFrame longFrame) {} = ({ written := before ++ "\x1b[1;1H" }, .ok ()) := by
  have hcolumn : cell longFrame.commandOrigin.1 = 0 := by decide +kernel
  have hrow : cell longFrame.commandOrigin.2 = 0 := by decide +kernel
  have hlength : longFrame.commandLine.length = 65536 := by
    rw [longFrame, String.length_ofList, List.length_replicate]
  have hafter : columnAfter 0 longFrame.commandLine = 0 := by
    rw [columnAfter, hlength]
    decide
  have htext : moveText? 0 0 = some "\x1b[1;1H" := by decide
  have hframe : (frameText? longFrame).isSome = true := by
    simp only [frameText?, commandText?, isSome_joined, hcolumn, hrow, hafter, htext]
    rfl
  obtain ⟨text, hsome⟩ := Option.isSome_iff_exists.mp hframe
  obtain ⟨before, move, rfl, hbefore, hmove⟩ := exists_move_of_frameText? hsome
  rw [hcolumn, hrow, hafter, htext] at hmove
  cases hmove
  exact ⟨by omega, before, hbefore, run_paintFrame hsome⟩

end TextAdventure.Screen
