import TextAdventure.Markup

/-!
# Markup read as items

A source can be read as a row of items: marks, colour codes with the mark in front of them, and
plain characters. `Reads` says which items a source is made of, without a scanner: it only
remembers whether a colour is open. The style of a plain character is then a matter of the items
before it, counted and looked up in `weightAfter` and `colorAfter`.

The scanner agrees (`lex_eq_glyphsAfter_items`). What carries the proof is `Pen.Follows`: the pen
holds the parity of each mark, and the style that follows from the items so far.
-/

namespace TextAdventure.Markup

/-! ## Items -/

/-- A part of a source. -/
inductive Item where
  | bold
  | italic
  | closeColor
  /-- A colour mark and the six characters behind it. -/
  | openColor (color : Color)
  /-- A colour mark with fewer than six characters behind it, which end the source. -/
  | truncated (digits : List Char)
  | plain (c : Char)
deriving DecidableEq, Repr

namespace Item

/-- Whether the item switches the weight. -/
def isWeightMark : Item → Bool
  | .bold => true
  | .italic => true
  | _ => false

/-- The weight that a mark switches on. -/
def weight : Item → Weight
  | .bold => .bold
  | .italic => .italic
  | _ => .regular

/-- Whether the item switches colour. -/
def isColorMark : Item → Bool
  | .closeColor => true
  | .openColor _ => true
  | .truncated _ => true
  | _ => false

end Item

/-- The items of a source, read while a colour is open or not. A colour code is taken as it
stands, marks and all. -/
inductive Reads : Bool → List Char → List Item → Prop where
  | done {colored : Bool} : Reads colored [] []
  | bold {colored : Bool} {source : List Char} {items : List Item}
      (rest : Reads colored source items) :
      Reads colored ('#' :: source) (.bold :: items)
  | italic {colored : Bool} {source : List Char} {items : List Item}
      (rest : Reads colored source items) :
      Reads colored ('~' :: source) (.italic :: items)
  | closeColor {source : List Char} {items : List Item} (rest : Reads false source items) :
      Reads true ('@' :: source) (.closeColor :: items)
  | openColor {a b c d e f : Char} {source : List Char} {items : List Item}
      (rest : Reads true source items) :
      Reads false ('@' :: a :: b :: c :: d :: e :: f :: source)
        (.openColor ⟨a, b, c, d, e, f⟩ :: items)
  | truncated {digits : List Char} (short : digits.length < 6) :
      Reads false ('@' :: digits) [.truncated digits]
  | plain {colored : Bool} {c : Char} {source : List Char} {items : List Item}
      (hbold : c ≠ '#') (hitalic : c ≠ '~') (hcolor : c ≠ '@')
      (rest : Reads colored source items) :
      Reads colored (c :: source) (.plain c :: items)

/-- Every source can be read. -/
theorem exists_reads (colored : Bool) (source : List Char) :
    ∃ items, Reads colored source items := by
  match source with
  | [] => exact ⟨[], .done⟩
  | c :: source =>
      by_cases hbold : c = '#'
      · obtain ⟨items, h⟩ := exists_reads colored source
        exact ⟨.bold :: items, hbold ▸ .bold h⟩
      by_cases hitalic : c = '~'
      · obtain ⟨items, h⟩ := exists_reads colored source
        exact ⟨.italic :: items, hitalic ▸ .italic h⟩
      by_cases hcolor : c = '@'
      · subst hcolor
        cases colored with
        | true =>
            obtain ⟨items, h⟩ := exists_reads false source
            exact ⟨.closeColor :: items, .closeColor h⟩
        | false =>
            cases hcode : Color.ofDigits? source with
            | none => exact ⟨_, .truncated (Color.ofDigits?_eq_none_iff.mp hcode)⟩
            | some color =>
                obtain ⟨rest, rfl⟩ := Color.eq_append_of_ofDigits? hcode
                obtain ⟨items, h⟩ := exists_reads true rest
                exact ⟨.openColor color :: items, .openColor h⟩
      · obtain ⟨items, h⟩ := exists_reads colored source
        exact ⟨.plain c :: items, .plain hbold hitalic hcolor h⟩
termination_by source.length

/-- A source has no other reading. -/
theorem Reads.unique {colored : Bool} {source : List Char} {items others : List Item}
    (h : Reads colored source items) (h' : Reads colored source others) : items = others := by
  induction h generalizing others with
  | done => cases h'; rfl
  | bold rest ih =>
      cases h' with
      | bold rest' => rw [ih rest']
      | plain hbold => exact absurd rfl hbold
  | italic rest ih =>
      cases h' with
      | italic rest' => rw [ih rest']
      | plain _ hitalic => exact absurd rfl hitalic
  | closeColor rest ih =>
      cases h' with
      | closeColor rest' => rw [ih rest']
      | plain _ _ hcolor => exact absurd rfl hcolor
  | openColor rest ih =>
      cases h' with
      | openColor rest' => rw [ih rest']
      | truncated short => simp only [List.length_cons] at short; omega
      | plain _ _ hcolor => exact absurd rfl hcolor
  | truncated short =>
      cases h' with
      | openColor rest' => simp only [List.length_cons] at short; omega
      | truncated _ => rfl
      | plain _ _ hcolor => exact absurd rfl hcolor
  | plain hbold hitalic hcolor rest ih =>
      cases h' with
      | bold _ => exact absurd rfl hbold
      | italic _ => exact absurd rfl hitalic
      | closeColor _ => exact absurd rfl hcolor
      | openColor _ => exact absurd rfl hcolor
      | truncated _ => exact absurd rfl hcolor
      | plain _ _ _ rest' => rw [ih rest']

/-! ## Styles by history -/

/-- The weight after items: that of the last weight mark, if the same mark stands an odd number of
times. -/
def weightAfter (before : List Item) : Weight :=
  match (before.filter Item.isWeightMark).getLast? with
  | some mark => if before.count mark % 2 = 1 then mark.weight else .regular
  | none => .regular

/-- The colour after items: the code of the last colour mark if that mark opened one. -/
def colorAfter (before : List Item) : Color :=
  match (before.filter Item.isColorMark).getLast? with
  | some (.openColor color) => color
  | _ => .white

/-- The glyph of an item behind others: a plain character has one. -/
def Item.glyph? (before : List Item) : Item → Option Glyph
  | .plain c => some { char := c, weight := weightAfter before, color := colorAfter before }
  | _ => none

/-- The glyphs of items behind others. -/
def glyphsAfter (before : List Item) : List Item → List Glyph
  | [] => []
  | item :: items => (item.glyph? before).toList ++ glyphsAfter (before ++ [item]) items

/-- A weight mark switches its weight on or off by its own parity, whatever the other did. -/
theorem weightAfter_append_mark (before : List Item) {mark : Item}
    (h : mark.isWeightMark = true) :
    weightAfter (before ++ [mark])
      = if before.count mark % 2 = 1 then .regular else mark.weight := by
  have hlast : ((before ++ [mark]).filter Item.isWeightMark).getLast? = some mark := by
    simp [List.filter_append, h]
  have hcount : (before ++ [mark]).count mark = before.count mark + 1 := by
    simp [List.count_append]
  simp only [weightAfter, hlast, hcount]
  by_cases hodd : before.count mark % 2 = 1
  · rw [if_pos hodd, if_neg (by omega)]
  · rw [if_neg hodd, if_pos (by omega)]

/-- Every other item keeps the weight. -/
theorem weightAfter_append (before : List Item) {item : Item} (h : item.isWeightMark = false) :
    weightAfter (before ++ [item]) = weightAfter before := by
  have hfilter : (before ++ [item]).filter Item.isWeightMark
      = before.filter Item.isWeightMark := by
    simp [List.filter_append, h]
  simp only [weightAfter, hfilter]
  cases hlast : (before.filter Item.isWeightMark).getLast? with
  | none => rfl
  | some mark =>
      -- the item is no weight mark, so it is not the last one
      have hmark : mark.isWeightMark = true :=
        (List.mem_filter.mp (List.mem_of_getLast? hlast)).2
      have hne : item ≠ mark := by
        rintro rfl
        rw [h] at hmark
        cases hmark
      simp [List.count_append, hne]

/-- Every item that is no colour mark keeps the colour. -/
theorem colorAfter_append (before : List Item) {item : Item} (h : item.isColorMark = false) :
    colorAfter (before ++ [item]) = colorAfter before := by
  simp [colorAfter, List.filter_append, h]

/-! ## The pen -/

/-- **The invariant of scanning**: the pen after items holds the parity of the weight marks and
the style of what comes next. -/
structure Pen.Follows (pen : Pen) (before : List Item) : Prop where
  bold : pen.bold = decide (before.count .bold % 2 = 1)
  italic : pen.italic = decide (before.count .italic % 2 = 1)
  weight : pen.weight = weightAfter before
  color : pen.color = colorAfter before

/-- A fresh pen follows no items. -/
theorem Pen.follows_nil : Pen.Follows {} [] := ⟨rfl, rfl, rfl, rfl⟩

/-- One more item turns a parity over. -/
theorem decide_succ_mod_two (n : Nat) : decide ((n + 1) % 2 = 1) = !decide (n % 2 = 1) := by
  by_cases h : n % 2 = 1
  · have h' : ¬ (n + 1) % 2 = 1 := by omega
    simp [h, h']
  · have h' : (n + 1) % 2 = 1 := by omega
    simp [h, h']

namespace Pen.Follows

variable {pen : Pen} {before : List Item}

theorem toggleBold (h : pen.Follows before) : pen.toggleBold.Follows (before ++ [.bold]) where
  bold := by simp [Pen.toggleBold, h.bold, List.count_append, decide_succ_mod_two]
  italic := by simp [Pen.toggleBold, h.italic, List.count_append]
  weight := by
    rw [weightAfter_append_mark _ rfl]
    simp [Pen.toggleBold, h.bold, Item.weight]
  color := by rw [colorAfter_append _ rfl]; exact h.color

theorem toggleItalic (h : pen.Follows before) :
    pen.toggleItalic.Follows (before ++ [.italic]) where
  bold := by simp [Pen.toggleItalic, h.bold, List.count_append]
  italic := by simp [Pen.toggleItalic, h.italic, List.count_append, decide_succ_mod_two]
  weight := by
    rw [weightAfter_append_mark _ rfl]
    simp [Pen.toggleItalic, h.italic, Item.weight]
  color := by rw [colorAfter_append _ rfl]; exact h.color

theorem closeColor (h : pen.Follows before) :
    ({ pen with colored := false, color := .white } : Pen).Follows (before ++ [.closeColor]) where
  bold := by simp [h.bold, List.count_append]
  italic := by simp [h.italic, List.count_append]
  weight := by rw [weightAfter_append _ rfl]; exact h.weight
  color := by simp [colorAfter, List.filter_append, Item.isColorMark]

theorem openColor (h : pen.Follows before) (color : Color) :
    ({ pen with colored := true, color := color } : Pen).Follows
      (before ++ [.openColor color]) where
  bold := by simp [h.bold, List.count_append]
  italic := by simp [h.italic, List.count_append]
  weight := by rw [weightAfter_append _ rfl]; exact h.weight
  color := by simp [colorAfter, List.filter_append, Item.isColorMark]

theorem plain (h : pen.Follows before) (c : Char) : pen.Follows (before ++ [.plain c]) where
  bold := by simp [h.bold, List.count_append]
  italic := by simp [h.italic, List.count_append]
  weight := by rw [weightAfter_append _ rfl]; exact h.weight
  color := by rw [colorAfter_append _ rfl]; exact h.color

end Pen.Follows

/-! ## The scanner -/

/-- Nothing is drawn while a colour code is being read. -/
theorem drawAll_of_short_code (pen : Pen) (seen digits : List Char)
    (h : seen.length + digits.length < 6) :
    Scanner.drawAll { pen := pen, code := some seen } digits = [] := by
  induction digits generalizing seen with
  | nil => rfl
  | cons c digits ih =>
      have hlength : (seen ++ [c]).length + digits.length < 6 := by
        simp only [List.length_append, List.length_cons, List.length_nil] at h ⊢
        omega
      have hnone : Color.ofDigits? (seen ++ [c]) = none :=
        Color.ofDigits?_eq_none_iff.mpr (by omega)
      simp [Scanner.drawAll, Scanner.draw?, Scanner.next, Scanner.readCode, hnone, ih _ hlength]

/-- **Scanning from any place**: behind items that the pen follows, the scanner draws what the
items of the rest call for. -/
theorem drawAll_eq_glyphsAfter {colored : Bool} {source : List Char} {items : List Item}
    (h : Reads colored source items) {pen : Pen} {before : List Item}
    (hpen : pen.Follows before) (hcolored : pen.colored = colored) :
    Scanner.drawAll { pen := pen } source = glyphsAfter before items := by
  induction h generalizing pen before with
  | done => rfl
  | bold rest ih =>
      have hrest := ih hpen.toggleBold hcolored
      simpa [Scanner.drawAll, Scanner.draw?, Scanner.next, glyphsAfter, Item.glyph?] using hrest
  | italic rest ih =>
      have hrest := ih hpen.toggleItalic hcolored
      simpa [Scanner.drawAll, Scanner.draw?, Scanner.next, glyphsAfter, Item.glyph?] using hrest
  | closeColor rest ih =>
      have hrest := ih hpen.closeColor rfl
      simpa [Scanner.drawAll, Scanner.draw?, Scanner.next, hcolored, glyphsAfter, Item.glyph?]
        using hrest
  | @openColor a b c d e f source items rest ih =>
      -- six steps inside the code, whatever its characters are
      have hrest := ih (hpen.openColor ⟨a, b, c, d, e, f⟩) rfl
      simpa [Scanner.drawAll, Scanner.draw?, Scanner.next, Scanner.readCode, Color.ofDigits?,
        hcolored, glyphsAfter, Item.glyph?] using hrest
  | @truncated digits short =>
      -- the code never fills up, so the scanner stays inside it to the end
      have hnil := drawAll_of_short_code { pen with colored := true } [] digits
        (by simpa using short)
      simpa [Scanner.drawAll, Scanner.draw?, Scanner.next, hcolored, glyphsAfter, Item.glyph?]
        using hnil
  | @plain colored c source items hbold hitalic hcolor rest ih =>
      have hrest := ih (hpen.plain c) hcolored
      simp [Scanner.drawAll, Scanner.draw?, Scanner.next, hbold, hitalic, hcolor, hrest,
        glyphsAfter, Item.glyph?, Pen.glyph, hpen.weight, hpen.color]

/-- **Lexing against the history**: every source has exactly one reading, and its glyphs are
those of the plain characters of the reading, in order and each in the style that the items
before it call for. -/
theorem lex_eq_glyphsAfter_items (source : String) :
    ∃ items, Reads false source.toList items ∧
      (∀ others, Reads false source.toList others → others = items) ∧
      lex source = glyphsAfter [] items := by
  obtain ⟨items, h⟩ := exists_reads false source.toList
  exact ⟨items, h, fun others h' => h'.unique h, drawAll_eq_glyphsAfter h Pen.follows_nil rfl⟩

end TextAdventure.Markup
