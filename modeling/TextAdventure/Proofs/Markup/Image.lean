import TextAdventure.Markup

/-!
# What markup can spell

No mark is ever drawn, and apart from that every row of glyphs has a source: `spell` writes a
glyph in its own style between marks that switch the style on and off again, so that the scanner
comes out of it as it went in and the spellings of several glyphs can stand side by side
(`lex_write`).

A text without marks is drawn as it stands, so stripping the markup off a source and reading the
rest again strips nothing more.
-/

namespace TextAdventure

def Glyph.unstyled (glyph : Glyph) : Glyph :=
  { char := glyph.char, weight := .regular, color := .white }

namespace Markup

/-- The characters that are never drawn. -/
def marks : List Char := ['#', '~', '@']

theorem notMem_marks_iff {c : Char} : c ∉ marks ↔ c ≠ '#' ∧ c ≠ '~' ∧ c ≠ '@' := by
  simp [marks]

/-! ## Nothing drawn is a mark -/

theorem Scanner.char_notMem_marks_of_draw? {s : Scanner} {c : Char} {glyph : Glyph}
    (h : s.draw? c = some glyph) : glyph.char ∉ marks := by
  unfold Scanner.draw? at h
  split at h
  · cases h
  · rename_i hplain
    cases h
    simp only [not_or] at hplain
    exact notMem_marks_iff.mpr hplain.2

/-- Whatever the scanner has read before, it draws no mark. -/
theorem Scanner.char_notMem_marks_of_mem_drawAll {s : Scanner} {text : List Char} {glyph : Glyph}
    (h : glyph ∈ s.drawAll text) : glyph.char ∉ marks := by
  induction text generalizing s with
  | nil => cases h
  | cons c rest ih =>
      rcases List.mem_append.mp h with hdrawn | hrest
      · exact char_notMem_marks_of_draw? (Option.mem_toList.mp hdrawn)
      · exact ih hrest

/-! ## Spelling -/

/-- The mark that switches a weight on, and off again. -/
def weightMarks : Weight → List Char
  | .regular => []
  | .bold => ['#']
  | .italic => ['~']

/-- A glyph between the marks of its style. The colour is always given, also where it is white. -/
def spell (glyph : Glyph) : List Char :=
  weightMarks glyph.weight ++ ('@' :: glyph.color.toList) ++ [glyph.char] ++ ['@']
    ++ weightMarks glyph.weight

/-- A source for a row of glyphs. -/
def write (glyphs : List Glyph) : String :=
  String.ofList (glyphs.flatMap spell)

/-- **One spelling** draws its glyph, and leaves the scanner as it was at the start. The colour
code is passed over whatever its characters are. -/
theorem scan_spell {glyph : Glyph} (h : glyph.char ∉ marks) :
    Scanner.drawAll {} (spell glyph) = [glyph] ∧ Scanner.run {} (spell glyph) = {} := by
  obtain ⟨c, weight, color⟩ := glyph
  obtain ⟨hbold, hitalic, hcolor⟩ := notMem_marks_iff.mp h
  -- inside the code no character is compared with a mark, so only the glyph's own has to be none
  cases weight <;>
    simp [spell, weightMarks, Color.toList, Scanner.drawAll, Scanner.run, Scanner.draw?,
      Scanner.next, Scanner.readCode, Color.ofDigits?, Pen.glyph, Pen.toggleBold, Pen.toggleItalic,
      hbold, hitalic, hcolor]

/-- **Spellings side by side**: a written row of glyphs is read back, unless it holds a mark. -/
theorem lex_write {glyphs : List Glyph} (h : ∀ glyph ∈ glyphs, glyph.char ∉ marks) :
    lex (write glyphs) = glyphs := by
  rw [lex, write, String.toList_ofList]
  induction glyphs with
  | nil => rfl
  | cons glyph rest ih =>
      obtain ⟨hdrawn, hrun⟩ := scan_spell (h glyph (by simp))
      rw [List.flatMap_cons, Scanner.drawAll_append, hdrawn, hrun,
        ih (fun other hother => h other (by simp [hother]))]
      rfl

/-! ## Text without marks -/

/-- Outside colour codes, a text without marks is drawn with the pen that is there and leaves it. -/
theorem Scanner.scan_of_forall_notMem_marks {s : Scanner} (hs : s.code = none) {text : List Char}
    (h : ∀ c ∈ text, c ∉ marks) :
    s.drawAll text = text.map s.pen.glyph ∧ s.run text = s := by
  induction text with
  | nil => exact ⟨rfl, rfl⟩
  | cons c rest ih =>
      obtain ⟨hbold, hitalic, hcolor⟩ := notMem_marks_iff.mp (h c (by simp))
      obtain ⟨hdrawn, hrun⟩ := ih fun d hd => h d (by simp [hd])
      have hdraw : s.draw? c = some (s.pen.glyph c) := by
        simp [draw?, hs, hbold, hitalic, hcolor]
      have hnext : s.next c = s := by
        simp [next, hs, hbold, hitalic, hcolor]
      constructor
      · rw [drawAll, hdraw, hnext, hdrawn]
        rfl
      · rw [show s.run (c :: rest) = (s.next c).run rest from rfl, hnext, hrun]

/-- The characters of drawn glyphs, read as a source, are the same glyphs without their
styles. -/
theorem lex_plainText_lex (source : String) :
    lex (Glyph.plainText (lex source)) = (lex source).map Glyph.unstyled := by
  have hplain : ∀ c ∈ (lex source).map Glyph.char, c ∉ marks := by
    intro c hc
    obtain ⟨glyph, hglyph, rfl⟩ := List.mem_map.mp hc
    exact Scanner.char_notMem_marks_of_mem_drawAll hglyph
  have hdrawn := (Scanner.scan_of_forall_notMem_marks (s := {}) rfl hplain).1
  rw [lex, Glyph.plainText, String.toList_ofList, hdrawn, List.map_map]
  rfl

theorem plainText_map_unstyled (glyphs : List Glyph) :
    Glyph.plainText (glyphs.map Glyph.unstyled) = Glyph.plainText glyphs := by
  rw [Glyph.plainText, List.map_map]
  rfl

/-! ## The image of lexing -/

/-- **What markup can spell**: a row of glyphs, in whatever styles, is the reading of some source
exactly when none of its characters is a mark. So reading the characters of a source's glyphs
gives the same glyphs in the plain style, and stripping markup twice is stripping it once. -/
theorem exists_lex_eq_iff_forall_char_ne :
    (∀ glyphs : List Glyph, (∃ source, lex source = glyphs) ↔
      ∀ glyph ∈ glyphs, glyph.char ≠ '#' ∧ glyph.char ≠ '~' ∧ glyph.char ≠ '@') ∧
    ∀ source : String,
      lex (Glyph.plainText (lex source))
        = (lex source).map (fun glyph =>
            { char := glyph.char, weight := .regular, color := .white }) ∧
      Glyph.plainText (lex (Glyph.plainText (lex source))) = Glyph.plainText (lex source) := by
  refine ⟨fun glyphs => ⟨?_, fun hplain => ?_⟩, fun source => ⟨lex_plainText_lex source, ?_⟩⟩
  · rintro ⟨source, rfl⟩ glyph hglyph
    exact notMem_marks_iff.mp (Scanner.char_notMem_marks_of_mem_drawAll hglyph)
  · exact ⟨write glyphs, lex_write fun glyph hglyph => notMem_marks_iff.mpr (hplain glyph hglyph)⟩
  · rw [lex_plainText_lex, plainText_map_unstyled]

/-- Two bold letters and an italic one, in codes that hold marks. -/
example :
    let code : Color := ⟨'#', '~', '@', '0', '@', '#'⟩
    lex (write [⟨'a', .bold, code⟩, ⟨'b', .bold, .white⟩, ⟨'c', .italic, code⟩])
      = [⟨'a', .bold, code⟩, ⟨'b', .bold, .white⟩, ⟨'c', .italic, code⟩] := by
  decide

end Markup

end TextAdventure
