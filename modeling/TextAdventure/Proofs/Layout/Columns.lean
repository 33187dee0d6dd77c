import Mathlib.Logic.Function.Iterate
import TextAdventure.Layout

/-!
# Lines and columns

Where a glyph stands follows from its line and its column: the number of glyphs before it that end
a line, and the number of glyphs since the last of them. Whether a glyph ends its line depends on
where it stands itself, so the description is a fixed point; `eq_place_iff` says that placing is
the only one.
-/

namespace TextAdventure.Layout

/-- A placed glyph that ends its line: a newline, or a space at or past the soft margin. -/
def EndsLine (box : TextBox) (placed : PlacedGlyph) : Prop :=
  placed.glyph.char = '\n' ∨
    placed.glyph.char = ' ' ∧ (box.width - box.slack).atMost (placed.x - box.originX) = true

instance (box : TextBox) (placed : PlacedGlyph) : Decidable (EndsLine box placed) :=
  inferInstanceAs (Decidable (_ ∨ _))

/-- The line after these placed glyphs: how many of them end theirs. -/
def line (box : TextBox) (before : List PlacedGlyph) : Nat :=
  before.countP fun placed => EndsLine box placed

/-- The column after these placed glyphs: how many have followed the last that ends its line. -/
def column (box : TextBox) (before : List PlacedGlyph) : Nat :=
  (before.reverse.takeWhile fun placed => ¬ EndsLine box placed).length

/-- The horizontal position of a column: one addition for each glyph to the left. -/
def across (box : TextBox) (column : Nat) : Single :=
  (· + box.advance)^[column] box.originX

/-- The vertical position of a line: one addition for each line above. -/
def down (box : TextBox) (line : Nat) : Single :=
  (· + box.lineHeight)^[line] box.originY

/-- Every glyph stands at the column and on the line that the glyphs before it give. -/
def OnLines (box : TextBox) (before placed : List PlacedGlyph) : Prop :=
  ∀ (i : Nat) (p : PlacedGlyph), placed[i]? = some p →
    p.x = across box (column box (before ++ placed.take i)) ∧
    p.y = down box (line box (before ++ placed.take i))

/-! ## One glyph -/

theorem endsLine_iff {box : TextBox} {p : PlacedGlyph} :
    endsLine box p.glyph p.x = true ↔ EndsLine box p := by
  simp [endsLine, EndsLine, Glyph.isNewline, Glyph.isSpace, TextBox.softMargin]

theorem across_down_concat_of_endsLine {box : TextBox} {p : PlacedGlyph} (h : EndsLine box p)
    (before : List PlacedGlyph) :
    across box (column box (before ++ [p])) = box.originX ∧
      down box (line box (before ++ [p])) = down box (line box before) + box.lineHeight := by
  constructor
  · simp [column, h, across]
  · rw [line, List.countP_append, List.countP_singleton, if_pos (by simpa using h), down,
      Function.iterate_succ_apply']
    rfl

theorem across_down_concat_of_not_endsLine {box : TextBox} {p : PlacedGlyph}
    (h : ¬ EndsLine box p) (before : List PlacedGlyph) :
    across box (column box (before ++ [p])) = across box (column box before) + box.advance ∧
      down box (line box (before ++ [p])) = down box (line box before) := by
  constructor
  · rw [column, List.reverse_append, List.reverse_singleton, List.singleton_append,
      List.takeWhile_cons_of_pos (by simpa using h), List.length_cons, across,
      Function.iterate_succ_apply']
    rfl
  · simp [line, h]

/-- The glyphs placed behind others, from the line and the column that those give. -/
def placeBehind (box : TextBox) (before : List PlacedGlyph) (glyphs : List Glyph) :
    List PlacedGlyph :=
  placeFrom box (across box (column box before)) (down box (line box before)) glyphs

/-- **One glyph** is placed where its line and column are, and the next one is behind it. -/
theorem placeBehind_cons (box : TextBox) (before : List PlacedGlyph) (glyph : Glyph)
    (rest : List Glyph) :
    let p : PlacedGlyph :=
      ⟨glyph, across box (column box before), down box (line box before)⟩
    placeBehind box before (glyph :: rest) = p :: placeBehind box (before ++ [p]) rest := by
  intro p
  rw [placeBehind, placeFrom]
  by_cases h : EndsLine box p
  · obtain ⟨hacross, hdown⟩ := across_down_concat_of_endsLine h before
    rw [if_pos (endsLine_iff.mpr h), placeBehind, hacross, hdown]
  · obtain ⟨hacross, hdown⟩ := across_down_concat_of_not_endsLine h before
    rw [if_neg (endsLine_iff.not.mpr h), placeBehind, hacross, hdown]

/-! ## All glyphs -/

theorem onLines_cons {box : TextBox} {before placed : List PlacedGlyph} {p : PlacedGlyph} :
    OnLines box before (p :: placed) ↔
      (p.x = across box (column box before) ∧ p.y = down box (line box before)) ∧
        OnLines box (before ++ [p]) placed := by
  constructor
  · intro h
    refine ⟨by simpa using h 0 p rfl, fun i q hq => ?_⟩
    simpa using h (i + 1) q hq
  · rintro ⟨hfirst, hlater⟩ i q hq
    cases i with
    | zero =>
        cases hq
        simpa using hfirst
    | succ i => simpa using hlater i q hq

theorem eq_placeBehind_iff (box : TextBox) (before placed : List PlacedGlyph)
    (glyphs : List Glyph) :
    placed = placeBehind box before glyphs ↔
      placed.map PlacedGlyph.glyph = glyphs ∧ OnLines box before placed := by
  induction glyphs generalizing before placed with
  | nil => cases placed <;> simp [placeBehind, placeFrom, OnLines]
  | cons glyph rest ih =>
      rw [placeBehind_cons]
      cases placed with
      | nil => simp
      | cons p placed =>
          obtain ⟨g, x, y⟩ := p
          simp only [onLines_cons, List.map_cons, List.cons.injEq, PlacedGlyph.mk.injEq]
          constructor
          · rintro ⟨⟨rfl, rfl, rfl⟩, hrest⟩
            obtain ⟨hglyphs, hlines⟩ := (ih _ placed).mp hrest
            exact ⟨⟨rfl, hglyphs⟩, ⟨rfl, rfl⟩, hlines⟩
          · rintro ⟨⟨rfl, hglyphs⟩, ⟨rfl, rfl⟩, hlines⟩
            exact ⟨⟨rfl, rfl, rfl⟩, (ih _ placed).mpr ⟨hglyphs, hlines⟩⟩

/-- Placing is the one way to put every glyph on its line. -/
theorem eq_place_iff (box : TextBox) (glyphs : List Glyph) (placed : List PlacedGlyph) :
    placed = place box glyphs ↔
      placed.map PlacedGlyph.glyph = glyphs ∧ OnLines box [] placed :=
  eq_placeBehind_iff box [] placed glyphs

/-! ## Neighbours and styles -/

theorem next_of_onLines {box : TextBox} {placed : List PlacedGlyph} (h : OnLines box [] placed)
    {i : Nat} {p q : PlacedGlyph} (hp : placed[i]? = some p) (hq : placed[i + 1]? = some q) :
    (EndsLine box p → q.x = box.originX ∧ q.y = p.y + box.lineHeight) ∧
      (¬ EndsLine box p → q.x = p.x + box.advance ∧ q.y = p.y) := by
  have htake : placed.take (i + 1) = placed.take i ++ [p] := by
    rw [List.take_add_one, hp]
    rfl
  obtain ⟨hpx, hpy⟩ := h i p hp
  obtain ⟨hqx, hqy⟩ := h (i + 1) q hq
  simp only [List.nil_append, htake] at hpx hpy hqx hqy
  rw [hpx, hpy, hqx, hqy]
  exact ⟨fun hends => across_down_concat_of_endsLine hends _,
    fun hends => across_down_concat_of_not_endsLine hends _⟩

theorem map_position_placeFrom_congr {box : TextBox} {glyphs other : List Glyph}
    (h : other.map Glyph.char = glyphs.map Glyph.char) (x y : Single) :
    (placeFrom box x y other).map (fun p => (p.x, p.y))
      = (placeFrom box x y glyphs).map (fun p => (p.x, p.y)) := by
  induction glyphs generalizing other x y with
  | nil => simp [List.map_eq_nil_iff.mp h]
  | cons glyph rest ih =>
      obtain ⟨g, other, rfl, hchar, hrest⟩ := List.map_eq_cons_iff.mp h
      have hends : endsLine box g x = endsLine box glyph x := by
        simp only [endsLine, Glyph.isNewline, Glyph.isSpace, hchar]
      simp only [placeFrom, hends, List.map_cons]
      split <;> rw [ih hrest]

/-- **Placing by line and column.** The placed glyphs are the given ones, each as many advances
right of the origin as glyphs have followed the last line end and as many line heights below it as
lines have ended, and nothing else is so placed. Behind a glyph that ends no line the next one
stands one advance to the right, so no word is broken; and no position depends on a style. -/
theorem place_by_line_and_column (box : TextBox) (glyphs : List Glyph) :
    (∀ placed : List PlacedGlyph, placed = place box glyphs ↔
      placed.map PlacedGlyph.glyph = glyphs ∧
      ∀ (i : Nat) (p : PlacedGlyph), placed[i]? = some p →
        p.x = (· + box.advance)^[column box (placed.take i)] box.originX ∧
        p.y = (· + box.lineHeight)^[line box (placed.take i)] box.originY) ∧
    (∀ (i : Nat) (p q : PlacedGlyph),
      (place box glyphs)[i]? = some p → (place box glyphs)[i + 1]? = some q →
      (EndsLine box p → q.x = box.originX ∧ q.y = p.y + box.lineHeight) ∧
      (¬ EndsLine box p → q.x = p.x + box.advance ∧ q.y = p.y)) ∧
    ∀ other : List Glyph, other.map Glyph.char = glyphs.map Glyph.char →
      (place box other).map (fun p => (p.x, p.y))
        = (place box glyphs).map (fun p => (p.x, p.y)) := by
  refine ⟨fun placed => eq_place_iff box glyphs placed, fun i p q hp hq => ?_, fun other h => ?_⟩
  · exact next_of_onLines ((eq_place_iff box glyphs _).mp rfl).2 hp hq
  · exact map_position_placeFrom_congr h box.originX box.originY

end TextAdventure.Layout
