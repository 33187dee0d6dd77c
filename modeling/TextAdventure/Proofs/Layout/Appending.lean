import TextAdventure.Proofs.Layout.Columns

/-!
# Text behind text

A glyph is placed before the ones behind it are looked at, so text that is put behind other text
moves nothing of it. What the later glyphs see of the earlier ones is the position behind the last
of them (`behind`), and nothing more. If that one ends its line, the position is the left edge of
the next line, and the rest is placed as if its box began there (`place_append`).
-/

namespace TextAdventure.Layout

/-! ## The position behind a glyph -/

/-- Where the next glyph goes: to the start of the next line if this one ends its own, and otherwise
one advance to the right. -/
def behind (box : TextBox) (p : PlacedGlyph) : Single × Single :=
  if EndsLine box p then (box.originX, p.y + box.lineHeight) else (p.x + box.advance, p.y)

theorem behind_of_endsLine {box : TextBox} {p : PlacedGlyph} (h : EndsLine box p) :
    behind box p = (box.originX, p.y + box.lineHeight) :=
  if_pos h

/-- **One glyph**: the rest is placed from the position behind it. -/
theorem placeFrom_cons (box : TextBox) (x y : Single) (glyph : Glyph) (rest : List Glyph) :
    placeFrom box x y (glyph :: rest)
      = ⟨glyph, x, y⟩ ::
        placeFrom box (behind box ⟨glyph, x, y⟩).1 (behind box ⟨glyph, x, y⟩).2 rest := by
  rw [placeFrom, behind]
  by_cases h : EndsLine box ⟨glyph, x, y⟩
  · rw [if_pos h, if_pos (endsLine_iff.mpr h)]
  · rw [if_neg h, if_neg (endsLine_iff.not.mpr h)]

/-- **All glyphs**: what is put behind them is placed from the position behind the last one. -/
theorem placeFrom_append {box : TextBox} {x y : Single} {a : List Glyph} {last : PlacedGlyph}
    (hlast : (placeFrom box x y a).getLast? = some last) (b : List Glyph) :
    placeFrom box x y (a ++ b)
      = placeFrom box x y a ++ placeFrom box (behind box last).1 (behind box last).2 b := by
  induction a generalizing x y with
  | nil => cases hlast
  | cons glyph rest ih =>
      rw [placeFrom_cons] at hlast
      rw [List.cons_append, placeFrom_cons, placeFrom_cons, List.cons_append]
      cases rest with
      | nil =>
          cases hlast
          rfl
      | cons next rest =>
          -- the last of several glyphs is the last of those behind the first
          rw [placeFrom_cons, List.getLast?_cons_cons, ← placeFrom_cons] at hlast
          rw [ih hlast]

/-- Placing looks at the top of its box only to start there. -/
theorem placeFrom_originY (box : TextBox) (top x y : Single) (glyphs : List Glyph) :
    placeFrom { box with originY := top } x y glyphs = placeFrom box x y glyphs := by
  induction glyphs generalizing x y with
  | nil => rfl
  | cons glyph rest ih =>
      have hbehind : behind { box with originY := top } ⟨glyph, x, y⟩
          = behind box ⟨glyph, x, y⟩ := rfl
      rw [placeFrom_cons, placeFrom_cons, hbehind, ih]

/-! ## Text behind a text -/

/-- **Text put behind text** leaves every glyph where it was. If the last of them ends its line,
what is put behind it is placed as in a box of its own, which differs from the given one in its top
alone: one line height below that glyph. -/
theorem place_append (box : TextBox) (a b : List Glyph) :
    place box a <+: place box (a ++ b) ∧
    ∀ last : PlacedGlyph, (place box a).getLast? = some last → EndsLine box last →
      (place box (a ++ b)).drop a.length
        = place { box with originY := last.y + box.lineHeight } b := by
  constructor
  · cases hlast : (place box a).getLast? with
    | none =>
        rw [List.getLast?_eq_none_iff.mp hlast]
        exact List.nil_prefix
    | some last =>
        rw [place, place, placeFrom_append hlast]
        exact List.prefix_append _ _
  · intro last hlast hends
    have hlength : a.length = (place box a).length := (length_placeFrom box _ _ a).symm
    have hrest : place box (a ++ b)
        = place box a ++ placeFrom box box.originX (last.y + box.lineHeight) b := by
      rw [place, placeFrom_append hlast, behind_of_endsLine hends]
      rfl
    rw [hrest, hlength, List.drop_left]
    exact (placeFrom_originY box _ _ _ b).symm

/-- A narrow box whose lines are no whole number apart. -/
def tightBox : TextBox where
  originX := 2
  originY := 1
  width := 6
  slack := 2
  lineHeight := 1 / 10

/-- A newline, and behind it a word and a space past the margin. -/
def wrappedGlyphs : List Glyph :=
  "ab\nhello ".toList.map fun c => { char := c }

/-- Where the space is placed, on the second line. -/
def wrappingSpace : PlacedGlyph where
  glyph := { char := ' ' }
  x := 7
  y := 1 + 1 / 10

theorem place_append_wrappedGlyphs :
    (place tightBox wrappedGlyphs).getLast? = some wrappingSpace ∧
      EndsLine tightBox wrappingSpace ∧
      (place tightBox (wrappedGlyphs ++ wrappedGlyphs)).drop wrappedGlyphs.length
        = place { tightBox with originY := wrappingSpace.y + tightBox.lineHeight }
            wrappedGlyphs := by
  have hlast : (place tightBox wrappedGlyphs).getLast? = some wrappingSpace := by decide +kernel
  have hends : EndsLine tightBox wrappingSpace := by decide +kernel
  exact ⟨hlast, hends, (place_append tightBox wrappedGlyphs wrappedGlyphs).2 _ hlast hends⟩

end TextAdventure.Layout
