import TextAdventure.Proofs.Markup.Image

/-!
# Markup in spans

A text in a few styles is written span by span: each switches its own style on before its text and
off behind it. If no text holds a mark, every span is drawn as it stands and in its own style, and
behind it nothing is switched on (`scan_source`); so the spans can be put together in any number,
and what stands in one has no effect on the others.
-/

namespace TextAdventure.Markup

/-! ## Texts without marks -/

def Unmarked (text : String) : Prop :=
  ∀ c ∈ text.toList, c ∉ marks

instance (text : String) : Decidable (Unmarked text) :=
  List.decidableBAll (· ∉ marks) text.toList

namespace Unmarked

theorem append {a b : String} (ha : Unmarked a) (hb : Unmarked b) : Unmarked (a ++ b) := by
  intro c hc
  rw [String.toList_append] at hc
  rcases List.mem_append.mp hc with hc | hc
  · exact ha c hc
  · exact hb c hc

theorem intercalate {separator : String} {texts : List String} (hseparator : Unmarked separator)
    (h : ∀ text ∈ texts, Unmarked text) : Unmarked (separator.intercalate texts) := by
  induction texts with
  | nil => simp [Unmarked]
  | cons text texts ih =>
      have hrest := ih fun other hother => h other (by simp [hother])
      cases texts with
      | nil => simpa using h text (by simp)
      | cons next texts =>
          rw [String.intercalate_cons_cons]
          exact ((h text (by simp)).append hseparator).append hrest

theorem toString (n : Nat) : Unmarked (ToString.toString n) := by
  intro c hc
  have htext : (ToString.toString n).toList = Nat.toDigits 10 n := Nat.toList_repr
  rw [htext] at hc
  have hdigit : c.isDigit = true := Nat.isDigit_of_mem_toDigits (by decide) (by decide) hc
  have hmarks : ∀ mark ∈ marks, mark.isDigit = false := by simp [marks]
  intro hmark
  rw [hmarks c hmark] at hdigit
  cases hdigit

end Unmarked

/-! ## Spans -/

/-- A text in one style; without a colour, in the colour of unmarked text. -/
structure Span where
  text : String
  weight : Weight := .regular
  color : Option Color := none
deriving DecidableEq, Repr

namespace Span

/-- The span as it is written: its text between the marks of its style. -/
def source (span : Span) : List Char :=
  weightMarks span.weight ++ (span.color.elim [] fun color => '@' :: color.toList)
    ++ span.text.toList ++ (span.color.elim [] fun _ => ['@']) ++ weightMarks span.weight

def glyphs (span : Span) : List Glyph :=
  span.text.toList.map fun c =>
    { char := c, weight := span.weight, color := span.color.getD .white }

/-- The pen behind the marks that a span starts with. -/
def pen (span : Span) : Pen where
  bold := span.weight == .bold
  italic := span.weight == .italic
  colored := span.color.isSome
  weight := span.weight
  color := span.color.getD .white

/-- The marks in front of a text draw nothing, and set the pen. -/
theorem scan_front (span : Span) :
    let front := weightMarks span.weight ++ (span.color.elim [] fun color => '@' :: color.toList)
    Scanner.drawAll {} front = [] ∧ Scanner.run {} front = { pen := span.pen } := by
  obtain ⟨text, weight, color⟩ := span
  cases weight <;> cases color <;>
    simp [weightMarks, pen, Color.toList, Scanner.drawAll, Scanner.run, Scanner.draw?,
      Scanner.next, Scanner.readCode, Color.ofDigits?, Pen.toggleBold, Pen.toggleItalic]

/-- The marks behind it draw nothing either, and give the pen back as it was. -/
theorem scan_back (span : Span) :
    let back := (span.color.elim [] fun _ => ['@']) ++ weightMarks span.weight
    Scanner.drawAll { pen := span.pen } back = [] ∧ Scanner.run { pen := span.pen } back = {} := by
  obtain ⟨text, weight, color⟩ := span
  cases weight <;> cases color <;>
    simp [weightMarks, pen, Scanner.drawAll, Scanner.run, Scanner.draw?, Scanner.next,
      Pen.toggleBold, Pen.toggleItalic]

/-- **One span**: it is drawn in its style, and behind it every directive is closed. -/
theorem scan_source {span : Span} (h : Unmarked span.text) :
    Scanner.drawAll {} span.source = span.glyphs ∧ Scanner.run {} span.source = {} := by
  obtain ⟨hfront, hset⟩ := span.scan_front
  obtain ⟨htext, hkept⟩ :=
    Scanner.scan_of_forall_notMem_marks (s := { pen := span.pen }) rfl h
  obtain ⟨hback, hreset⟩ := span.scan_back
  have hsplit : span.source
      = (weightMarks span.weight ++ (span.color.elim [] fun color => '@' :: color.toList))
        ++ (span.text.toList
          ++ ((span.color.elim [] fun _ => ['@']) ++ weightMarks span.weight)) := by
    simp only [source, List.append_assoc]
  rw [hsplit]
  constructor
  · rw [Scanner.drawAll_append, hfront, hset, Scanner.drawAll_append, htext, hkept, hback]
    simp [glyphs, pen, Pen.glyph]
  · rw [Scanner.run_append, hset, Scanner.run_append, hkept, hreset]

end Span

theorem plainText_flatMap_glyphs (spans : List Span) :
    Glyph.plainText (spans.flatMap Span.glyphs) = String.join (spans.map Span.text) := by
  have hchars (span : Span) : span.glyphs.map Glyph.char = span.text.toList := by
    simp [Span.glyphs, Function.comp_def]
  apply String.toList_inj.mp
  simp [Glyph.plainText, String.toList_join, List.map_flatMap, List.flatMap_map, hchars]

/-- The markup of spans. -/
def sourceOf (spans : List Span) : String :=
  String.ofList (spans.flatMap Span.source)

/-- **Several spans** are drawn side by side, and everything is closed at the end. -/
theorem scan_sourceOf {spans : List Span} (h : ∀ span ∈ spans, Unmarked span.text) :
    lex (sourceOf spans) = spans.flatMap Span.glyphs ∧
      Scanner.run {} (sourceOf spans).toList = {} := by
  rw [lex, sourceOf, String.toList_ofList]
  induction spans with
  | nil => exact ⟨rfl, rfl⟩
  | cons span spans ih =>
      obtain ⟨hdrawn, hrun⟩ := Span.scan_source (h span (by simp))
      obtain ⟨hrest, hend⟩ := ih fun other hother => h other (by simp [hother])
      rw [List.flatMap_cons, List.flatMap_cons]
      constructor
      · rw [Scanner.drawAll_append, hdrawn, hrun, hrest]
      · rw [Scanner.run_append, hrun, hend]

end TextAdventure.Markup
