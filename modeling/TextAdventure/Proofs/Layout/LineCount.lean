import Mathlib.Data.Finset.Card
import Mathlib.Data.Finset.Range
import TextAdventure.Proofs.Layout.Columns
import TextAdventure.Proofs.Single.Whole

/-!
# Counting lines

The number of lines is not counted while glyphs are placed. It is read off the height of the last
glyph, as a rounded quotient. In a box whose heights are whole numbers of at most 24 bits the
heights of different lines differ and the quotient comes out even, so the number read off is that
of the lines on which glyphs stand (`lineCount_place`), also where the lines go upwards.

Heights follow from lines (`OnLines`), and a line is a number that goes up by at most one from each
glyph to the next. Everything else is about that number.
-/

namespace TextAdventure.Layout

/-! ## Heights -/

/-- A box in which so many lines have whole heights that are added without rounding. -/
structure OnRows (box : TextBox) (originY lineHeight : Int) (lines : Nat) : Prop where
  originY_whole : box.originY.Whole originY
  lineHeight_whole : box.lineHeight.Whole lineHeight
  lineHeight_ne : lineHeight ≠ 0
  range : originY.natAbs + lines * lineHeight.natAbs ≤ 2 ^ 24

section Heights

variable {box : TextBox} {originY lineHeight : Int} {lines m n : Nat}

theorem OnRows.mul_natAbs_le (h : OnRows box originY lineHeight lines) (hn : n ≤ lines) :
    originY.natAbs + (n * lineHeight).natAbs ≤ 2 ^ 24 := by
  have hle : n * lineHeight.natAbs ≤ lines * lineHeight.natAbs := Nat.mul_le_mul_right _ hn
  have hrange := h.range
  rw [Int.natAbs_mul, Int.natAbs_natCast]
  omega

theorem OnRows.lineHeight_le (h : OnRows box originY lineHeight lines) (hlines : 1 ≤ lines) :
    lineHeight.natAbs ≤ 2 ^ 24 := by
  have hle := h.mul_natAbs_le hlines
  simp only [Nat.cast_one, Int.one_mul] at hle
  omega

theorem OnRows.lines_le (h : OnRows box originY lineHeight lines) : lines ≤ 2 ^ 24 := by
  have hone : 1 ≤ lineHeight.natAbs := Int.natAbs_pos.mpr h.lineHeight_ne
  have hmul : lines * 1 ≤ lines * lineHeight.natAbs := Nat.mul_le_mul_left lines hone
  have hrange := h.range
  omega

/-- **The height of a line** is the origin and its line heights, added exactly. -/
theorem OnRows.down_whole (h : OnRows box originY lineHeight lines) (hn : n ≤ lines) :
    (down box n).Whole (originY + n * lineHeight) := by
  induction n with
  | zero => simpa [down] using h.originY_whole
  | succ n ih =>
      have habove := h.mul_natAbs_le (n := n) (by omega)
      have hbelow := h.mul_natAbs_le hn
      have hheight := h.lineHeight_le (by omega)
      have hnext : originY + ((n + 1 : Nat) : Int) * lineHeight
          = originY + n * lineHeight + lineHeight := by
        push_cast
        ring
      rw [hnext, down, Function.iterate_succ_apply']
      exact (ih (by omega)).add h.lineHeight_whole (by omega) hheight (by omega)

theorem OnRows.sameValue_down_iff (h : OnRows box originY lineHeight lines) (hm : m ≤ lines)
    (hn : n ≤ lines) : (down box m).sameValue (down box n) = true ↔ m = n := by
  rw [(h.down_whole hm).sameValue_iff (h.down_whole hn)]
  constructor
  · intro heq
    have hmul : (m : Int) * lineHeight = n * lineHeight := by omega
    exact_mod_cast Int.eq_of_mul_eq_mul_right h.lineHeight_ne hmul
  · intro heq
    rw [heq]

/-- **The quotient** by which lines are counted gives the line back. -/
theorem OnRows.nearestNat_down (h : OnRows box originY lineHeight lines) (hn : n ≤ lines)
    (hlines : 1 ≤ lines) {limit : Nat} (hlimit : lines ≤ limit) :
    ((down box n - box.originY) / box.lineHeight).nearestNat limit = n := by
  have hle := h.mul_natAbs_le hn
  have hheight := h.lineHeight_le hlines
  have hdiff : (down box n - box.originY).Whole (n * lineHeight) := by
    have hsub := (h.down_whole hn).sub h.originY_whole (by omega) (by omega) (by omega)
    rwa [show originY + n * lineHeight - originY = n * lineHeight by omega] at hsub
  have hcount : (n : Int).natAbs ≤ 2 ^ 24 := by
    have hmax := h.lines_le
    omega
  have hquotient := hdiff.div h.lineHeight_whole h.lineHeight_ne hcount hheight (by omega)
  -- a whole quotient is rounded to itself, whichever sign its two parts had
  rw [hquotient.nearestNat hcount]
  omega

end Heights

/-! ## Lines along a row of glyphs -/

section Lines

variable {box : TextBox} {placed : List PlacedGlyph}

theorem line_take_succ {i : Nat} {p : PlacedGlyph} (hp : placed[i]? = some p) :
    line box (placed.take (i + 1))
      = line box (placed.take i) + if EndsLine box p then 1 else 0 := by
  rw [List.take_add_one, hp, line, List.countP_append, line]
  by_cases h : EndsLine box p
  · simp [h]
  · simp [h]

theorem line_take_le (i : Nat) : line box (placed.take i) ≤ placed.length :=
  le_trans List.countP_le_length (List.length_take_le' i placed)

theorem line_take_le_line_dropLast {i : Nat} (hi : i < placed.length) :
    line box (placed.take i) ≤ line box placed.dropLast := by
  have hsublist : (placed.take i).Sublist placed.dropLast := by
    rw [List.dropLast_eq_take]
    exact List.take_sublist_take_left (by omega)
  exact hsublist.countP_le

theorem line_dropLast_lt (hne : placed ≠ []) : line box placed.dropLast < placed.length := by
  have hpos : 0 < placed.length := List.length_pos_iff.mpr hne
  have hle : line box placed.dropLast ≤ placed.dropLast.length := List.countP_le_length
  rw [List.length_dropLast] at hle
  omega

/-- No line is passed over on the way to a later one. -/
theorem exists_line_take_eq {n i : Nat} (hi : i ≤ placed.length)
    (hn : n ≤ line box (placed.take i)) : ∃ j ≤ i, line box (placed.take j) = n := by
  induction i with
  | zero =>
      simp only [List.take_zero, line, List.countP_nil, Nat.le_zero] at hn
      exact ⟨0, le_refl 0, by simp [line, hn]⟩
  | succ i ih =>
      by_cases hle : n ≤ line box (placed.take i)
      · obtain ⟨j, hj, heq⟩ := ih (by omega) hle
        exact ⟨j, by omega, heq⟩
      · -- one glyph ends at most one line, so the line looked for is the one just reached
        have hp : placed[i]? = some placed[i] := List.getElem?_eq_getElem (by omega)
        have hsucc : line box (placed.take (i + 1))
            = line box (placed.take i) + if EndsLine box placed[i] then 1 else 0 :=
          line_take_succ hp
        refine ⟨i + 1, le_refl _, ?_⟩
        split at hsucc <;> omega

end Lines

/-! ## Placed glyphs -/

theorem OnLines.y_eq_down {box : TextBox} {placed : List PlacedGlyph}
    (hlines : OnLines box [] placed) {i : Nat} {p : PlacedGlyph} (hp : placed[i]? = some p) :
    p.y = down box (line box (placed.take i)) := by
  simpa using (hlines i p hp).2

/-- The heights are those of the lines up to the last, each met at least once. -/
theorem OnLines.toFinset_map_y {box : TextBox} {placed : List PlacedGlyph}
    (hlines : OnLines box [] placed) (hne : placed ≠ []) :
    (placed.map PlacedGlyph.y).toFinset
      = (Finset.range (line box placed.dropLast + 1)).image (down box) := by
  ext y
  simp only [List.mem_toFinset, List.mem_map, Finset.mem_image, Finset.mem_range]
  constructor
  · rintro ⟨p, hp, rfl⟩
    obtain ⟨i, hi⟩ := List.mem_iff_getElem?.mp hp
    obtain ⟨hlt, -⟩ := List.getElem?_eq_some_iff.mp hi
    have hle : line box (placed.take i) ≤ line box placed.dropLast :=
      line_take_le_line_dropLast hlt
    exact ⟨line box (placed.take i), by omega, (hlines.y_eq_down hi).symm⟩
  · rintro ⟨n, hn, rfl⟩
    have hpos : 0 < placed.length := List.length_pos_iff.mpr hne
    rw [List.dropLast_eq_take] at hn
    obtain ⟨i, hi, hline⟩ := exists_line_take_eq (by omega) (Nat.lt_succ_iff.mp hn)
    have hp : placed[i]? = some placed[i] := List.getElem?_eq_getElem (by omega)
    exact ⟨placed[i], List.getElem_mem _, by rw [hlines.y_eq_down hp, hline]⟩

theorem map_fst_zip_tail {α : Type} (l : List α) : (l.zip l.tail).map Prod.fst = l.dropLast := by
  induction l with
  | nil => rfl
  | cons a l ih =>
      cases l with
      | nil => rfl
      | cons b l => simpa using ih

/-- How many neighbours stand at different heights. -/
def heightChanges (placed : List PlacedGlyph) : Nat :=
  (placed.zip placed.tail).countP fun pair => !pair.1.y.sameValue pair.2.y

section Placed

variable {box : TextBox} {originY lineHeight : Int} {placed : List PlacedGlyph}
  (hbox : OnRows box originY lineHeight placed.length) (hlines : OnLines box [] placed)
include hbox hlines

/-- **Two neighbours** stand at one height exactly if the first of them ends no line. -/
theorem sameValue_next_iff {i : Nat} {p q : PlacedGlyph} (hp : placed[i]? = some p)
    (hq : placed[i + 1]? = some q) : p.y.sameValue q.y = true ↔ ¬ EndsLine box p := by
  rw [hlines.y_eq_down hp, hlines.y_eq_down hq,
    hbox.sameValue_down_iff (line_take_le i) (line_take_le (i + 1)), line_take_succ hp]
  by_cases h : EndsLine box p
  · simp [h]
  · simp [h]

/-- The height changes as often as a line ends before the last glyph. -/
theorem heightChanges_eq_line : heightChanges placed = line box placed.dropLast := by
  have hpairs : ∀ pair ∈ placed.zip placed.tail,
      (!pair.1.y.sameValue pair.2.y) = true ↔ decide (EndsLine box pair.1) = true := by
    intro pair hpair
    obtain ⟨i, hi⟩ := List.mem_iff_getElem?.mp hpair
    obtain ⟨hp, hq⟩ := List.getElem?_zip_eq_some.mp hi
    rw [List.getElem?_tail] at hq
    have hsame := sameValue_next_iff hbox hlines hp hq
    rw [Bool.not_eq_true', ← Bool.not_eq_true, hsame, not_not, decide_eq_true_eq]
  calc heightChanges placed
      = (placed.zip placed.tail).countP fun pair => EndsLine box pair.1 := List.countP_congr hpairs
    _ = ((placed.zip placed.tail).map Prod.fst).countP fun p => EndsLine box p := by
        rw [List.countP_map]
        rfl
    _ = line box placed.dropLast := by rw [map_fst_zip_tail, line]

/-- **The count** read off the last height is one more than the lines ended before it. -/
theorem lineCount_eq_line (hne : placed ≠ []) :
    lineCount box placed = .ok (line box placed.dropLast + 1) := by
  have hpos : 0 < placed.length := List.length_pos_iff.mpr hne
  have hlast : placed.getLast? = some (placed.getLast hne) := List.getLast?_eq_getLast_of_ne_nil hne
  have hy : (placed.getLast hne).y = down box (line box placed.dropLast) := by
    rw [List.dropLast_eq_take]
    exact hlines.y_eq_down (List.getLast?_eq_getElem? ▸ hlast)
  have hlt : line box placed.dropLast < placed.length := line_dropLast_lt hne
  have hlimit : placed.length < countLimit := by
    have hle := hbox.lines_le
    have hcount : countLimit = 18446744073709551615 := rfl
    omega
  have hsteps := hbox.nearestNat_down (n := line box placed.dropLast) (by omega) hpos hlimit.le
  simp only [lineCount, hlast, hy, hsteps]
  rw [if_pos (by omega)]

theorem card_heights (hne : placed ≠ []) :
    (placed.map PlacedGlyph.y).toFinset.card = line box placed.dropLast + 1 := by
  have hlt : line box placed.dropLast < placed.length := line_dropLast_lt hne
  rw [hlines.toFinset_map_y hne, Finset.card_image_of_injOn, Finset.card_range]
  intro m hm n hn heq
  simp only [Finset.coe_range, Set.mem_Iio] at hm hn
  refine (hbox.sameValue_down_iff (by omega) (by omega)).mp ?_
  rw [heq, hbox.sameValue_down_iff (by omega) (by omega)]

/-- Heights that are equal as numbers are the same number: no line starts at both zeros. -/
theorem sameValue_iff_eq {p q : PlacedGlyph} (hp : p ∈ placed) (hq : q ∈ placed) :
    p.y.sameValue q.y = true ↔ p.y = q.y := by
  obtain ⟨i, hi⟩ := List.mem_iff_getElem?.mp hp
  obtain ⟨j, hj⟩ := List.mem_iff_getElem?.mp hq
  rw [hlines.y_eq_down hi, hlines.y_eq_down hj]
  constructor
  · intro h
    rw [(hbox.sameValue_down_iff (line_take_le i) (line_take_le j)).mp h]
  · intro h
    rw [h, hbox.sameValue_down_iff (line_take_le j) (line_take_le j)]

end Placed

theorem place_eq_nil_iff {box : TextBox} {glyphs : List Glyph} :
    place box glyphs = [] ↔ glyphs = [] := by
  rw [← List.length_eq_zero_iff, place, length_placeFrom, List.length_eq_zero_iff]

/-- **The lines of laid-out text.** Where `originY` and `lineHeight` are whole and all lines stay
within 24 bits, the count does not overflow. It is none for no glyphs, and otherwise one more than
the neighbours at different heights, which is the number of heights at which glyphs stand. -/
theorem lineCount_place {box : TextBox} {originY lineHeight : Int} {glyphs : List Glyph}
    (hbox : OnRows box originY lineHeight glyphs.length) :
    let placed := place box glyphs
    lineCount box placed = .ok (if glyphs = [] then 0 else 1 + heightChanges placed) ∧
      lineCount box placed = .ok (placed.map PlacedGlyph.y).toFinset.card ∧
      ∀ p ∈ placed, ∀ q ∈ placed, p.y.sameValue q.y = true ↔ p.y = q.y := by
  intro placed
  have hlines : OnLines box [] placed := ((eq_place_iff box glyphs placed).mp rfl).2
  have hlength : placed.length = glyphs.length := length_placeFrom box _ _ glyphs
  rw [← hlength] at hbox
  refine ⟨?_, ?_, fun p hp q hq => sameValue_iff_eq hbox hlines hp hq⟩
  · by_cases hglyphs : glyphs = []
    · have hnil : placed = [] := place_eq_nil_iff.mpr hglyphs
      rw [if_pos hglyphs, hnil]
      rfl
    · have hne : placed ≠ [] := place_eq_nil_iff.not.mpr hglyphs
      rw [if_neg hglyphs, lineCount_eq_line hbox hlines hne, heightChanges_eq_line hbox hlines,
        Nat.add_comm]
  · by_cases hnil : placed = []
    · rw [hnil]
      rfl
    · rw [lineCount_eq_line hbox hlines hnil, card_heights hbox hlines hnil]

/-- Lines that go upwards, and a soft margin in the sixth column. -/
def risingBox : TextBox where
  originY := 5
  width := 8
  slack := 3
  lineHeight := -2

/-- Two lines end at a space, one at a newline, one is empty, and the last glyph ends its own. -/
def risingGlyphs : List Glyph :=
  "ab c efg abc d xyz\n\nuvw\n".toList.map fun c => { char := c }

theorem risingBox_onRows : OnRows risingBox 5 (-2) risingGlyphs.length where
  originY_whole := by unfold Single.Whole; decide +kernel
  lineHeight_whole := by unfold Single.Whole; decide +kernel
  lineHeight_ne := by decide
  range := by decide +kernel

theorem lineCount_risingGlyphs :
    OnRows risingBox 5 (-2) risingGlyphs.length ∧
      lineCount risingBox (place risingBox risingGlyphs) = .ok 5 ∧
      heightChanges (place risingBox risingGlyphs) = 4 ∧
      ((place risingBox risingGlyphs).map PlacedGlyph.y).toFinset.card = 5 := by
  obtain ⟨hchanges, hheights, -⟩ := lineCount_place risingBox_onRows
  have hcount : heightChanges (place risingBox risingGlyphs) = 4 := by decide +kernel
  rw [hcount, if_neg (by decide)] at hchanges
  rw [hchanges] at hheights
  exact ⟨risingBox_onRows, hchanges, hcount, (Except.ok.inj hheights).symm⟩

end TextAdventure.Layout
