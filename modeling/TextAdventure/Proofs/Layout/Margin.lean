import TextAdventure.Layout
import TextAdventure.Proofs.Single.Whole

/-!
# Words inside the box

The slack of a box is room for the word that crosses the soft margin. A line goes on behind a space
only if the space stands short of the margin, so the letters since the last space bound how far
right the line has come (`Reach`). A word that fits in the slack therefore ends inside the box.
-/

namespace TextAdventure.Layout

/-! ## Words -/

def isBreak (glyph : Glyph) : Bool :=
  glyph.isSpace || glyph.isNewline

/-- The words of a row of glyphs: its runs between breaks, each as long as it goes. -/
def words (glyphs : List Glyph) : List (List Glyph) :=
  glyphs.splitOnP isBreak

/-- No word is longer than `longest`, the first one counted with the letters already placed. -/
def Fit (longest letters : Nat) : List (List Glyph) → Prop
  | [] => True
  | word :: later => letters + word.length ≤ longest ∧ ∀ other ∈ later, other.length ≤ longest

theorem fit_zero_iff {longest : Nat} {ws : List (List Glyph)} :
    Fit longest 0 ws ↔ ∀ word ∈ ws, word.length ≤ longest := by
  cases ws <;> simp [Fit]

theorem Fit.letters_le {longest letters : Nat} {glyphs : List Glyph}
    (h : Fit longest letters (words glyphs)) : letters ≤ longest := by
  cases hwords : words glyphs with
  | nil => exact absurd hwords (List.splitOnP_ne_nil isBreak glyphs)
  | cons word later =>
      rw [hwords] at h
      exact le_trans (Nat.le_add_right _ _) h.1

theorem Fit.after_break {longest letters : Nat} {glyph : Glyph} {rest : List Glyph}
    (hbreak : isBreak glyph = true) (h : Fit longest letters (words (glyph :: rest))) :
    Fit longest 0 (words rest) := by
  rw [words, List.splitOnP_cons_eq_if_modifyHead, if_pos hbreak] at h
  exact fit_zero_iff.mpr h.2

theorem Fit.after_letter {longest letters : Nat} {glyph : Glyph} {rest : List Glyph}
    (hletter : isBreak glyph = false) (h : Fit longest letters (words (glyph :: rest))) :
    Fit longest (letters + 1) (words rest) := by
  rw [words, List.splitOnP_cons_eq_if_modifyHead, if_neg (by simp [hletter])] at h
  unfold words
  cases hwords : rest.splitOnP isBreak with
  | nil => trivial
  | cons word later =>
      rw [hwords] at h
      obtain ⟨hfirst, hlater⟩ := h
      rw [List.length_cons] at hfirst
      exact ⟨by omega, hlater⟩

/-! ## How far right a line has come -/

/-- A box measured in whole numbers that are added without rounding. -/
structure OnGrid (box : TextBox) (originX width slack advance : Int) : Prop where
  originX_whole : box.originX.Whole originX
  width_whole : box.width.Whole width
  slack_whole : box.slack.Whole slack
  advance_whole : box.advance.Whole advance
  originX_le : originX.natAbs ≤ 2 ^ 20
  width_le : width.natAbs ≤ 2 ^ 20
  slack_le : slack.natAbs ≤ 2 ^ 20
  advance_le : advance.natAbs ≤ 2 ^ 20
  one_le_advance : 1 ≤ advance
  margin_nonneg : 0 ≤ width - slack

/-- A position `distance` right of the origin, after `letters` letters of a word whose line has not
passed the margin before it. -/
structure Reach (originX margin advance : Int) (letters : Nat) (x : Single) (distance : Int) :
    Prop where
  whole : x.Whole (originX + distance)
  nonneg : 0 ≤ distance
  lt : distance < margin + (letters + 1) * advance

section Line

variable {box : TextBox} {originX width slack advance distance : Int} {longest letters : Nat}
  {x y : Single}

theorem OnGrid.softMargin_whole (hbox : OnGrid box originX width slack advance) :
    box.softMargin.Whole (width - slack) := by
  have hwidth := hbox.width_le
  have hslack := hbox.slack_le
  exact hbox.width_whole.sub hbox.slack_whole (by omega) (by omega) (by omega)

/-- Room for a whole word keeps every distance small. -/
theorem Reach.lt_of_le (h : Reach originX (width - slack) advance letters x distance)
    (hadvance : 1 ≤ advance) (hletters : letters ≤ longest)
    (hslack : longest * advance ≤ slack) : distance < width + advance := by
  have hlt := h.lt
  have hle : (letters : Int) * advance ≤ longest * advance :=
    Int.mul_le_mul_of_nonneg_right (by omega) (by omega)
  rw [Int.add_mul, Int.one_mul] at hlt
  omega

theorem Reach.sub_whole (h : Reach originX (width - slack) advance letters x distance)
    (hbox : OnGrid box originX width slack advance) (hletters : letters ≤ longest)
    (hslack : longest * advance ≤ slack) : (x - box.originX).Whole distance := by
  have hlt := h.lt_of_le hbox.one_le_advance hletters hslack
  have hnonneg := h.nonneg
  have horigin := hbox.originX_le
  have hwidth := hbox.width_le
  have hadvance := hbox.advance_le
  have hdiff := h.whole.sub hbox.originX_whole (by omega) (by omega) (by omega)
  rwa [show originX + distance - originX = distance by omega] at hdiff

theorem Reach.add_whole (h : Reach originX (width - slack) advance letters x distance)
    (hbox : OnGrid box originX width slack advance) (hletters : letters ≤ longest)
    (hslack : longest * advance ≤ slack) :
    (x + box.advance).Whole (originX + (distance + advance)) := by
  have hlt := h.lt_of_le hbox.one_le_advance hletters hslack
  have hnonneg := h.nonneg
  have horigin := hbox.originX_le
  have hwidth := hbox.width_le
  have hadvance := hbox.advance_le
  have hsum := h.whole.add hbox.advance_whole (by omega) (by omega) (by omega)
  rwa [show originX + distance + advance = originX + (distance + advance) by omega] at hsum

theorem OnGrid.reach_start (hbox : OnGrid box originX width slack advance) :
    Reach originX (width - slack) advance 0 box.originX 0 where
  whole := by
    rw [Int.add_zero]
    exact hbox.originX_whole
  nonneg := le_refl _
  lt := by
    have hadvance := hbox.one_le_advance
    have hmargin := hbox.margin_nonneg
    simp only [Nat.cast_zero, Int.zero_add, Int.one_mul]
    omega

theorem Reach.after_letter (h : Reach originX (width - slack) advance letters x distance)
    (hbox : OnGrid box originX width slack advance) (hletters : letters ≤ longest)
    (hslack : longest * advance ≤ slack) :
    Reach originX (width - slack) advance (letters + 1) (x + box.advance) (distance + advance) where
  whole := h.add_whole hbox hletters hslack
  nonneg := by
    have hnonneg := h.nonneg
    have hadvance := hbox.one_le_advance
    omega
  lt := by
    have hlt := h.lt
    push_cast
    rw [Int.add_mul, Int.one_mul]
    omega

/-- Behind a space that does not end its line, the line starts over short of the margin. -/
theorem Reach.after_space (h : Reach originX (width - slack) advance letters x distance)
    (hbox : OnGrid box originX width slack advance) (hletters : letters ≤ longest)
    (hslack : longest * advance ≤ slack)
    (hshort : box.softMargin.atMost (x - box.originX) = false) :
    Reach originX (width - slack) advance 0 (x + box.advance) (distance + advance) where
  whole := h.add_whole hbox hletters hslack
  nonneg := by
    have hnonneg := h.nonneg
    have hadvance := hbox.one_le_advance
    omega
  lt := by
    have hcompare := hbox.softMargin_whole.atMost_iff (h.sub_whole hbox hletters hslack)
    rw [hshort] at hcompare
    have hlt : ¬ width - slack ≤ distance := by simpa using hcompare.not
    simp only [Nat.cast_zero, Int.zero_add, Int.one_mul]
    omega

/-- **Placing words** from a position within reach keeps every letter inside the box. The letters
placed since the last break are carried along; each break sets them back to none. -/
theorem inside_of_mem_placeFrom (hbox : OnGrid box originX width slack advance)
    (hslack : longest * advance ≤ slack) {glyphs : List Glyph}
    (hreach : Reach originX (width - slack) advance letters x distance)
    (hfit : Fit longest letters (words glyphs)) {p : PlacedGlyph}
    (hp : p ∈ placeFrom box x y glyphs) (hletter : isBreak p.glyph = false) :
    ∃ distance, p.x.Whole (originX + distance) ∧ (p.x - box.originX).Whole distance ∧
      0 ≤ distance ∧ distance < width := by
  induction glyphs generalizing x y letters distance with
  | nil => cases hp
  | cons glyph rest ih =>
      have hletters := hfit.letters_le
      rw [placeFrom, List.mem_cons] at hp
      rcases hp with rfl | hp
      · -- the letter itself still belongs to its word
        have hnext := (hfit.after_letter hletter).letters_le
        have hle : ((letters : Int) + 1) * advance ≤ longest * advance :=
          Int.mul_le_mul_of_nonneg_right (by omega) (by have := hbox.one_le_advance; omega)
        have hlt := hreach.lt
        exact ⟨distance, hreach.whole, hreach.sub_whole hbox hletters hslack, hreach.nonneg,
          by omega⟩
      · split at hp
        · rename_i hends
          have hbreak : isBreak glyph = true := by
            simp only [endsLine, Bool.or_eq_true, Bool.and_eq_true] at hends
            simp only [isBreak, Bool.or_eq_true]
            tauto
          exact ih hbox.reach_start (hfit.after_break hbreak) hp
        · rename_i hends
          cases hbreak : isBreak glyph with
          | false => exact ih (hreach.after_letter hbox hletters hslack) (hfit.after_letter hbreak) hp
          | true =>
              have hshort : box.softMargin.atMost (x - box.originX) = false := by
                simp only [endsLine, Bool.or_eq_true, Bool.and_eq_true, not_or] at hends
                simp only [isBreak, Bool.or_eq_true] at hbreak
                have hspace := hbreak.resolve_right hends.1
                simpa [hspace] using hends.2
              exact ih (hreach.after_space hbox hletters hslack hshort) (hfit.after_break hbreak) hp

end Line

/-- **The slack keeps words inside the box.** In a box of whole numbers whose margin is not left of
its origin, a text whose words have at most `longest` glyphs and fit in the slack is placed glyph for
glyph, and each of its letters at or right of the origin and short of the width. -/
theorem letters_inside_box {box : TextBox} {originX width slack advance : Int} {longest : Nat}
    {glyphs : List Glyph} (hbox : OnGrid box originX width slack advance)
    (hwords : ∀ word ∈ glyphs.splitOnP (fun glyph => glyph.isSpace || glyph.isNewline),
      word.length ≤ longest)
    (hslack : longest * advance ≤ slack) :
    (place box glyphs).map PlacedGlyph.glyph = glyphs ∧
      ∀ p ∈ place box glyphs, p.glyph.isSpace = false → p.glyph.isNewline = false →
        ∃ distance : Int, p.x.Whole (originX + distance) ∧ (p.x - box.originX).Whole distance ∧
          0 ≤ distance ∧ distance < width := by
  refine ⟨map_glyph_placeFrom box _ _ glyphs, ?_⟩
  intro p hp hspace hnewline
  have hletter : isBreak p.glyph = false := by simp [isBreak, hspace, hnewline]
  exact inside_of_mem_placeFrom hbox hslack hbox.reach_start (fit_zero_iff.mpr hwords) hp hletter

/-- Eight columns, three of them slack: a space in the sixth column ends its line. -/
def narrowBox : TextBox where
  originX := -3
  width := 8
  slack := 3

theorem narrowBox_onGrid : OnGrid narrowBox (-3) 8 3 1 where
  originX_whole := by unfold Single.Whole; decide +kernel
  width_whole := by unfold Single.Whole; decide +kernel
  slack_whole := by unfold Single.Whole; decide +kernel
  advance_whole := by unfold Single.Whole; decide +kernel
  originX_le := by decide
  width_le := by decide
  slack_le := by decide
  advance_le := by decide
  one_le_advance := by decide
  margin_nonneg := by decide

/-- The third word ends in the last column, and the space behind the fifth stands on the margin. -/
def narrowGlyphs : List Glyph :=
  "ab c efg abc d xyz\nuvw".toList.map fun c => { char := c }

theorem narrowBox_letters_inside :
    OnGrid narrowBox (-3) 8 3 1 ∧
    (∀ word ∈ narrowGlyphs.splitOnP (fun glyph => glyph.isSpace || glyph.isNewline),
      word.length ≤ 3) ∧
    (place narrowBox narrowGlyphs).map PlacedGlyph.glyph = narrowGlyphs ∧
    ∀ p ∈ place narrowBox narrowGlyphs, p.glyph.isSpace = false → p.glyph.isNewline = false →
      ∃ distance : Int, p.x.Whole (-3 + distance) ∧ (p.x - narrowBox.originX).Whole distance ∧
        0 ≤ distance ∧ distance < 8 := by
  have hwords : ∀ word ∈ narrowGlyphs.splitOnP (fun glyph => glyph.isSpace || glyph.isNewline),
      word.length ≤ 3 := by
    decide +kernel
  exact ⟨narrowBox_onGrid, hwords, letters_inside_box narrowBox_onGrid hwords (by decide)⟩

end TextAdventure.Layout
