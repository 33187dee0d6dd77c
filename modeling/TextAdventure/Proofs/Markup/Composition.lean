import TextAdventure.Proofs.Markup.History

/-!
# Texts put together

A text can be cut in two and read part by part, unless the cut falls into a colour code: the second
part is then read with the pen that the first leaves behind. Which pen that is follows from the
items of the first part (`penAfter`), however its directives are nested or crossed. In particular a
text that closes what it opens leaves a fresh pen, although the pen keeps its style apart from what
is switched on and bold and italic share one weight (`penAfter_of_balanced`).
-/

namespace TextAdventure.Markup

/-! ## The pen after items -/

/-- Whether a colour is open after items: whether the last colour mark opened one. -/
def coloredAfter (before : List Item) : Bool :=
  match (before.filter Item.isColorMark).getLast? with
  | some (.openColor _) => true
  | some (.truncated _) => true
  | _ => false

/-- What items switch on, and the style that they call for. -/
def penAfter (before : List Item) : Pen where
  bold := decide (before.count .bold % 2 = 1)
  italic := decide (before.count .italic % 2 = 1)
  colored := coloredAfter before
  weight := weightAfter before
  color := colorAfter before

theorem follows_penAfter (before : List Item) : (penAfter before).Follows before :=
  ⟨rfl, rfl, rfl, rfl⟩

/-- A pen that follows items is the pen after them, if it also knows whether a colour is open. -/
theorem Pen.Follows.eq_penAfter {pen : Pen} {before : List Item} (h : pen.Follows before)
    (hcolored : pen.colored = coloredAfter before) : pen = penAfter before := by
  obtain ⟨bold, italic, colored, weight, color⟩ := pen
  obtain ⟨hbold, hitalic, hweight, hcolor⟩ := h
  simp only at hbold hitalic hcolored hweight hcolor
  rw [hbold, hitalic, hcolored, hweight, hcolor, penAfter]

theorem coloredAfter_append (before : List Item) (item : Item) (h : item.isColorMark = false) :
    coloredAfter (before ++ [item]) = coloredAfter before := by
  simp [coloredAfter, List.filter_append, h]

theorem coloredAfter_append_openColor (before : List Item) (color : Color) :
    coloredAfter (before ++ [.openColor color]) = true := by
  simp [coloredAfter, List.filter_append, Item.isColorMark]

theorem coloredAfter_append_closeColor (before : List Item) :
    coloredAfter (before ++ [.closeColor]) = false := by
  simp [coloredAfter, List.filter_append, Item.isColorMark]

theorem penAfter_append_bold (before : List Item) :
    penAfter (before ++ [.bold]) = (penAfter before).toggleBold :=
  ((follows_penAfter before).toggleBold.eq_penAfter (coloredAfter_append before _ rfl).symm).symm

theorem penAfter_append_italic (before : List Item) :
    penAfter (before ++ [.italic]) = (penAfter before).toggleItalic :=
  ((follows_penAfter before).toggleItalic.eq_penAfter (coloredAfter_append before _ rfl).symm).symm

theorem penAfter_append_closeColor (before : List Item) :
    penAfter (before ++ [.closeColor])
      = { penAfter before with colored := false, color := .white } :=
  ((follows_penAfter before).closeColor.eq_penAfter
    (coloredAfter_append_closeColor before).symm).symm

theorem penAfter_append_openColor (before : List Item) (color : Color) :
    penAfter (before ++ [.openColor color])
      = { penAfter before with colored := true, color := color } :=
  (((follows_penAfter before).openColor color).eq_penAfter
    (coloredAfter_append_openColor before color).symm).symm

theorem penAfter_append_plain (before : List Item) (c : Char) :
    penAfter (before ++ [.plain c]) = penAfter before :=
  (((follows_penAfter before).plain c).eq_penAfter (coloredAfter_append before _ rfl).symm).symm

/-! ## The scanner after a text -/

/-- **Where scanning stops**: behind a text without a truncated code the scanner is outside codes,
and holds the pen after its items. -/
theorem run_eq_penAfter {colored : Bool} {source : List Char} {items : List Item}
    (h : Reads colored source items) (hwhole : ∀ digits, Item.truncated digits ∉ items)
    {before : List Item} (hbefore : coloredAfter before = colored) :
    Scanner.run { pen := penAfter before } source = { pen := penAfter (before ++ items) } := by
  induction h generalizing before with
  | done => simp [Scanner.run]
  | bold rest ih =>
      have hrest := ih (fun digits hmem => hwhole digits (.tail _ hmem))
        ((coloredAfter_append before .bold rfl).trans hbefore)
      rw [List.append_cons, ← hrest, penAfter_append_bold]
      simp [Scanner.run, Scanner.next]
  | italic rest ih =>
      have hrest := ih (fun digits hmem => hwhole digits (.tail _ hmem))
        ((coloredAfter_append before .italic rfl).trans hbefore)
      rw [List.append_cons, ← hrest, penAfter_append_italic]
      simp [Scanner.run, Scanner.next]
  | closeColor rest ih =>
      have hrest := ih (fun digits hmem => hwhole digits (.tail _ hmem))
        (coloredAfter_append_closeColor before)
      have hopen : (penAfter before).colored = true := hbefore
      rw [List.append_cons, ← hrest, penAfter_append_closeColor]
      simp [Scanner.run, Scanner.next, hopen]
  | @openColor a b c d e f source items rest ih =>
      have hrest := ih (fun digits hmem => hwhole digits (.tail _ hmem))
        (coloredAfter_append_openColor before ⟨a, b, c, d, e, f⟩)
      have hclosed : (penAfter before).colored = false := hbefore
      rw [List.append_cons, ← hrest, penAfter_append_openColor]
      -- the six characters fill the code up, whatever they are
      simp [Scanner.run, Scanner.next, Scanner.readCode, Color.ofDigits?, hclosed]
  | @truncated digits short => exact absurd (by simp) (hwhole digits)
  | @plain colored c source items hbold hitalic hcolor rest ih =>
      have hrest := ih (fun digits hmem => hwhole digits (.tail _ hmem))
        ((coloredAfter_append before (.plain c) rfl).trans hbefore)
      rw [List.append_cons, ← hrest, penAfter_append_plain]
      simp [Scanner.run, Scanner.next, hbold, hitalic, hcolor]

/-! ## Balanced text -/

/-- A weight that was switched off as often as on is regular, whichever mark was the last. -/
theorem weightAfter_of_even {items : List Item} (hbold : items.count .bold % 2 = 0)
    (hitalic : items.count .italic % 2 = 0) : weightAfter items = .regular := by
  unfold weightAfter
  split
  · rename_i mark hlast
    have hmark : mark.isWeightMark = true :=
      (List.mem_filter.mp (List.mem_of_getLast? hlast)).2
    have heven : items.count mark % 2 = 0 := by
      cases mark with
      | bold => exact hbold
      | italic => exact hitalic
      | closeColor | openColor _ | truncated _ | plain _ => cases hmark
    rw [if_neg (by omega)]
  · rfl

theorem colorAfter_of_closed {items : List Item} (h : coloredAfter items = false) :
    colorAfter items = .white := by
  unfold coloredAfter at h
  unfold colorAfter
  split at h
  · cases h
  · cases h
  · rename_i hopen _
    split
    · rename_i color hlast
      exact absurd hlast (hopen color)
    · rfl

/-- **Everything switched off** is a fresh pen: nothing of the style is left over. -/
theorem penAfter_of_balanced {items : List Item} (hbold : items.count .bold % 2 = 0)
    (hitalic : items.count .italic % 2 = 0) (hcolor : coloredAfter items = false) :
    penAfter items = {} := by
  rw [penAfter, weightAfter_of_even hbold hitalic, colorAfter_of_closed hcolor, hbold, hitalic,
    hcolor]
  rfl

/-! ## Composition -/

/-- **Lexing is compositional**: behind a text whose colour codes are whole, the rest is drawn from
the pen that the text leaves behind. If the text has closed what it opened, the rest is drawn as if
it stood alone. -/
theorem lex_append_of_reads {a : String} {items : List Item} (hitems : Reads false a.toList items)
    (hwhole : ∀ digits, Item.truncated digits ∉ items) (b : String) :
    Scanner.run {} a.toList = { pen := penAfter items } ∧
      lex (a ++ b) = lex a ++ Scanner.drawAll { pen := penAfter items } b.toList ∧
      (items.count .bold % 2 = 0 → items.count .italic % 2 = 0 → coloredAfter items = false →
        lex (a ++ b) = lex a ++ lex b) := by
  have hrun : Scanner.run { pen := penAfter [] } a.toList = { pen := penAfter ([] ++ items) } :=
    run_eq_penAfter hitems hwhole rfl
  change Scanner.run {} a.toList = { pen := penAfter items } at hrun
  have happend : lex (a ++ b) = lex a ++ Scanner.drawAll { pen := penAfter items } b.toList := by
    rw [lex, String.toList_append, Scanner.drawAll_append, hrun, lex]
  refine ⟨hrun, happend, fun hbold hitalic hcolor => ?_⟩
  rw [happend, penAfter_of_balanced hbold hitalic hcolor, lex, lex]

/-- Bold and italic cross, and the colour code is made of marks. -/
def crossedText : String := "#a~b#c~@#~@0@#d@e"

def crossedItems : List Item :=
  [.bold, .plain 'a', .italic, .plain 'b', .bold, .plain 'c', .italic,
    .openColor ⟨'#', '~', '@', '0', '@', '#'⟩, .plain 'd', .closeColor, .plain 'e']

theorem reads_crossedText : Reads false crossedText.toList crossedItems := by
  have hlast : Reads false ['e'] [.plain 'e'] :=
    .plain (by decide) (by decide) (by decide) .done
  have hcolored : Reads true ['d', '@', 'e'] [.plain 'd', .closeColor, .plain 'e'] :=
    .plain (by decide) (by decide) (by decide) (.closeColor hlast)
  exact .bold (.plain (by decide) (by decide) (by decide)
    (.italic (.plain (by decide) (by decide) (by decide)
      (.bold (.plain (by decide) (by decide) (by decide) (.italic (.openColor hcolored)))))))

theorem lex_append_crossedText :
    Reads false crossedText.toList crossedItems ∧
      (∀ digits, Item.truncated digits ∉ crossedItems) ∧
      (Scanner.run {} crossedText.toList).pen = {} ∧
      lex (crossedText ++ "~f#g") = lex crossedText ++ lex "~f#g" := by
  have hwhole : ∀ digits, Item.truncated digits ∉ crossedItems := by simp [crossedItems]
  obtain ⟨hrun, -, happend⟩ := lex_append_of_reads reads_crossedText hwhole "~f#g"
  have hpen : penAfter crossedItems = {} := by decide
  exact ⟨reads_crossedText, hwhole, by rw [hrun, hpen], happend rfl rfl rfl⟩

/-- Inside a colour code a text cannot be cut: the pen alone does not say how much of the code is
still to come. -/
example :
    lex ("@ab" ++ "cdefx") ≠ lex "@ab"
      ++ Scanner.drawAll { pen := penAfter [.truncated ['a', 'b']] } "cdefx".toList := by
  decide

end TextAdventure.Markup
