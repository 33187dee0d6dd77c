import Mathlib.Logic.Relation
import TextAdventure.Proofs.Editor.Wording
import TextAdventure.Proofs.Session.Lines

/-!
# Other keys for the same commands

Many rows of keys give the same commands: letters may be typed in either case, either erasing key
may be used, keys that type nothing may be pressed anywhere, a character may be typed and taken
back, and at the bare prompt spaces may be typed and erasing keys pressed. `Key.Retyped` is one such
change at one place, and its equivalence closure is any number of them, there and back.

While a changed line is being typed the two texts may differ, in their cases and in the spaces they
start with. Their wording does not: `Editor.wording` is what the words of a command are read from,
and every key does to the wording of a text what it does to the text (`wording_edit_congr`). So the
difference is gone with the next enter key, whatever is typed or erased before it.
-/

namespace TextAdventure

namespace Key

/-- **Several keys** complete lines of the same wording, from texts of the same wording on. -/
theorem wording_linesFrom_congr {a b : List Char} (h : Editor.wording a = Editor.wording b)
    (keys : List Key) :
    (linesFrom a keys).completed.map Editor.wording
      = (linesFrom b keys).completed.map Editor.wording := by
  induction keys generalizing a b with
  | nil => rfl
  | cons key keys ih =>
      by_cases hkey : key = .enter
      · simp [linesFrom, hkey, h]
      · simpa [linesFrom, hkey] using ih (Editor.wording_edit_congr h key)

/-! ## Retyping -/

/-- One change of a row of keys that leaves its commands alone. -/
inductive Retyped : List Key → List Key → Prop where
  /-- A letter in the other case. -/
  | letter (before after : List Key) {c d : Char} (hc : c.isAlpha = true) (hd : d.isAlpha = true)
      (hcase : c.toLower = d.toLower) :
      Retyped (before ++ .char c :: after) (before ++ .char d :: after)
  /-- The other erasing key. -/
  | eraser (before after : List Key) :
      Retyped (before ++ .backspace :: after) (before ++ .delete :: after)
  /-- One more key that is known by its name alone. -/
  | named (before after : List Key) (name : String) :
      Retyped (before ++ after) (before ++ .other name :: after)
  /-- One more character that may not stand in a command line. -/
  | refused (before after : List Key) {c : Char} (hc : isLiteralChar c = false) :
      Retyped (before ++ after) (before ++ .char c :: after)
  /-- One more character that is taken back at once. -/
  | undone (before after : List Key) {c : Char} (hc : isLiteralChar c = true) :
      Retyped (before ++ after) (before ++ .char c :: .backspace :: after)
  /-- One more space at the start of a line. -/
  | space (before after : List Key) (hbare : (lines before).unfinished = []) :
      Retyped (before ++ after) (before ++ .char ' ' :: after)
  /-- One more erasing key at the bare prompt. -/
  | bare (before after : List Key) (hbare : (lines before).unfinished = []) :
      Retyped (before ++ after) (before ++ .backspace :: after)

/-- Rows of keys that differ in one place complete lines of the same wording, if what is typed in
that place leaves texts of the same wording. -/
theorem wording_lines_congr_at {before a b : List Key} (after : List Key)
    (ha : .enter ∉ a) (hb : .enter ∉ b)
    (h : Editor.wording (a.foldl edit (lines before).unfinished)
      = Editor.wording (b.foldl edit (lines before).unfinished)) :
    (lines (before ++ (a ++ after))).completed.map Editor.wording
      = (lines (before ++ (b ++ after))).completed.map Editor.wording := by
  have hafter := wording_linesFrom_congr h after
  rw [lines] at hafter
  simp [lines, linesFrom_append, linesFrom_of_notMem _ ha, linesFrom_of_notMem _ hb, hafter]

/-- **One change** keeps the wording of every completed line. -/
theorem Retyped.wording_lines {keys keys' : List Key} (h : Retyped keys keys') :
    (lines keys).completed.map Editor.wording = (lines keys').completed.map Editor.wording := by
  cases h with
  | @letter before after c d hc hd hcase =>
      refine wording_lines_congr_at (a := [.char c]) (b := [.char d]) after (by simp) (by simp) ?_
      have hc' : isLiteralChar c = true := by simp [isLiteralChar, Char.isAlphanum, hc]
      have hd' : isLiteralChar d = true := by simp [isLiteralChar, Char.isAlphanum, hd]
      simp [edit, hc', hd', Editor.wording_append_singleton, hcase]
  | eraser before after =>
      exact wording_lines_congr_at (a := [.backspace]) (b := [.delete]) after (by simp) (by simp)
        rfl
  | named before after name =>
      exact wording_lines_congr_at (a := []) (b := [.other name]) after (by simp) (by simp) rfl
  | @refused before after c hc =>
      refine wording_lines_congr_at (a := []) (b := [.char c]) after (by simp) (by simp) ?_
      simp [edit, hc]
  | @undone before after c hc =>
      refine wording_lines_congr_at (a := []) (b := [.char c, .backspace]) after (by simp)
        (by simp) ?_
      simp [edit, hc]
  | space before after hbare =>
      -- the text is a space in one row and empty in the other: neither has any wording
      refine wording_lines_congr_at (a := []) (b := [.char ' ']) after (by simp) (by simp) ?_
      rw [hbare]
      decide
  | bare before after hbare =>
      refine wording_lines_congr_at (a := []) (b := [.backspace]) after (by simp) (by simp) ?_
      rw [hbare]
      rfl

/-- **Any number of changes** keeps it. -/
theorem wording_lines_of_eqvGen {keys keys' : List Key} (h : Relation.EqvGen Retyped keys keys') :
    (lines keys).completed.map Editor.wording = (lines keys').completed.map Editor.wording := by
  induction h with
  | rel _ _ hstep => exact hstep.wording_lines
  | refl _ => rfl
  | symm _ _ _ ih => exact ih.symm
  | trans _ _ _ _ _ ih ih' => exact ih.trans ih'

end Key

/-! ## Conversations and sessions -/

variable {σ : Type}

/-- A conversation depends on the wording of its texts alone. -/
theorem transcript_congr (engine : Engine σ) (opening : Reply σ) {texts texts' : List (List Char)}
    (h : texts.map Editor.wording = texts'.map Editor.wording) :
    transcript engine opening texts = transcript engine opening texts' := by
  induction texts generalizing texts' opening with
  | nil =>
      cases texts' with
      | nil => rfl
      | cons text' texts' => simp at h
  | cons text texts ih =>
      cases texts' with
      | nil => simp at h
      | cons text' texts' =>
          simp only [List.map_cons, List.cons.injEq] at h
          obtain ⟨htext, htexts⟩ := h
          have hexchange : engine.exchange opening text = engine.exchange opening text' := by
            simp only [Engine.exchange, Call.ofText, Editor.tokens_ofList, htext]
          rw [transcript_cons, transcript_cons, hexchange, ih _ htexts]

namespace Session

/-- What it means that two rows of keys cannot be told apart by what a session does. -/
structure Indistinct (engine : Engine σ) (s : Session σ) (keys keys' : List Key) : Prop where
  /-- The engine is asked for the same calls in the same states. -/
  calls : (Id.run (StateT.run (s.pressAllWith engine.recorded keys) [])).2
    = (Id.run (StateT.run (s.pressAllWith engine.recorded keys') [])).2
  /-- The enter keys report the same, and after each of them the sessions are the same. -/
  enters : Key.atEnter keys (s.pressEach keys) = Key.atEnter keys' (s.pressEach keys')
  state : (s.pressAll keys).2.story.state = (s.pressAll keys').2.story.state
  display : (s.pressAll keys).2.display = (s.pressAll keys').2.display

/-- **Retyping is not noticed**: however often a row of keys is changed, a session that has just
begun asks its engine for the same, reports the same and shows the same. -/
theorem indistinct_of_retyped (settings : Settings) (engine : Engine σ) {s : Session σ}
    (hbegin : begin settings engine = .ok s) {keys keys' : List Key}
    (h : Relation.EqvGen Key.Retyped keys keys') : Indistinct engine s keys keys' := by
  cases hstart : engine.start with
  | error reason => simp [begin, Story.start, hstart] at hbegin
  | ok opening =>
      rw [begin_eq_showing settings engine hstart, Except.ok.injEq] at hbegin
      subst hbegin
      have hlines : transcript engine opening (Key.lines keys).completed
          = transcript engine opening (Key.lines keys').completed :=
        transcript_congr engine opening (Key.wording_lines_of_eqvGen h)
      constructor
      · rw [calls_eq_transcript, calls_eq_transcript, hlines]
      · rw [atEnter_pressEach, atEnter_pressEach]
        exact congrArg (moments settings engine opening) hlines
      · rw [pressAll_eq_showing, pressAll_eq_showing, hlines]
        rfl
      · rw [pressAll_eq_showing, pressAll_eq_showing, hlines]
        rfl

/-- Two commands, the second of them blank. -/
def neatKeys : List Key :=
  [.char 'g', .char 'o', .enter, .char 'x', .backspace, .enter]

/-- The same commands with every kind of change. -/
def untidyKeys : List Key :=
  [.backspace, .char ' ', .char 'G', .other "F1", .char 'o', .char 'q', .backspace, .enter,
    .char '?', .char 'x', .delete, .enter]

theorem countingEngine_indistinct :
    ∃ s, begin {} countingEngine = .ok s ∧ Relation.EqvGen Key.Retyped neatKeys untidyKeys ∧
      Indistinct countingEngine s neatKeys untidyKeys := by
  have hretyped : Relation.EqvGen Key.Retyped neatKeys untidyKeys := by
    -- from the last change back to the first, so that what stands before each is as it was typed
    refine .trans _ _ _ (.rel _ _ (.eraser [.char 'g', .char 'o', .enter, .char 'x'] [.enter])) ?_
    refine .trans _ _ _ (.rel _ _ (.refused [.char 'g', .char 'o', .enter]
      [.char 'x', .delete, .enter] (c := '?') (by decide))) ?_
    refine .trans _ _ _ (.rel _ _ (.undone [.char 'g', .char 'o']
      [.enter, .char '?', .char 'x', .delete, .enter] (c := 'q') (by decide))) ?_
    refine .trans _ _ _ (.rel _ _ (.named [.char 'g'] _ "F1")) ?_
    refine .trans _ _ _ (.rel _ _ (.letter [] _ (c := 'g') (d := 'G') (by decide) (by decide)
      (by decide))) ?_
    refine .trans _ _ _ (.rel _ _ (.space [] _ rfl)) ?_
    exact .rel _ _ (.bare [] _ rfl)
  exact ⟨_, begin_eq_showing {} countingEngine rfl, hretyped,
    indistinct_of_retyped {} countingEngine (begin_eq_showing {} countingEngine rfl) hretyped⟩

end Session

end TextAdventure
