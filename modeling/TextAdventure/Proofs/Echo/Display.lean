import TextAdventure.Proofs.Echo.History

/-!
# What a typed word can do to the display

The echo engine puts the words of the player between the marks of its own sentences without looking
at them. That is safe because of what the command line lets through: a line holds only literal
characters, so none of its words holds a mark, and neither does what the story keeps of them in its
state. A reply is therefore drawn span by span as it was meant (`display_spells_reply`): the words
character for character, the styles those of the sentence, and every directive closed.

The narrative itself may hold any markup, so an enter key that shows it again is left out.
-/

namespace TextAdventure

/-! ## Words of literal characters -/

/-- A literal character is no mark, nor is it one in lower case. -/
theorem Key.toLower_notMem_marks {c : Char} (h : isLiteralChar c = true) :
    c.toLower ∉ Markup.marks :=
  of_isLiteralChar (P := fun c => c.toLower ∉ Markup.marks) (by decide) h

theorem Editor.unmarked_of_mem_words {text : List Char}
    (h : ∀ c ∈ text, Key.isLiteralChar c = true) {word : String} (hword : word ∈ words text) :
    Markup.Unmarked word := by
  intro c hc
  obtain ⟨d, hd, rfl⟩ := exists_mem_of_mem_words hword hc
  exact Key.toLower_notMem_marks (h d hd)

theorem Key.unmarked_of_mem_commands {keys : List Key} {command : List String}
    (hcommand : command ∈ commands keys) {word : String} (hword : word ∈ command) :
    Markup.Unmarked word := by
  obtain ⟨line, hline, rfl⟩ := List.mem_map.mp hcommand
  exact Editor.unmarked_of_mem_words
    (isLiteralChar_of_mem_linesFrom (by simp) keys line hline) hword

namespace Echo

open Call (word)
open Markup (Span Unmarked)

theorem unmarked_word {command : List String} (h : ∀ w ∈ command, Unmarked w) (n : Nat) :
    Unmarked (word command n) := by
  rw [word, List.getD_eq_getElem?_getD]
  cases hword : command[n]? with
  | none => decide
  | some w => exact h w (List.mem_of_getElem? hword)

/-! ## What a story keeps -/

/-- A state in which nothing that came from the player holds a mark. -/
structure State.Unmarked (state : State) : Prop where
  room : Markup.Unmarked state.room
  carrying : ∀ item ∈ state.carrying, Markup.Unmarked item

theorem unmarked_of_mem_object? {first object : String} {command : List String}
    (h : ∀ w ∈ command, Unmarked w) (hobject : object ∈ object? first command) :
    Unmarked object := by
  unfold object? at hobject
  split at hobject
  · cases hobject
    exact unmarked_word h 1
  · cases hobject

theorem State.Unmarked.after {state : State} (hstate : state.Unmarked) {command : List String}
    (h : ∀ w ∈ command, Markup.Unmarked w) : (state.after command).Unmarked where
  room := by
    cases hgo : object? "go" command with
    | none => simpa [State.after, hgo] using hstate.room
    | some direction =>
        have hway : Markup.Unmarked (wayFrom direction) :=
          (unmarked_of_mem_object? h hgo).append (by decide)
        simpa [State.after, hgo] using hway
  carrying := by
    intro item hitem
    rcases List.mem_append.mp hitem with hitem | hitem
    · exact hstate.carrying item hitem
    · exact unmarked_of_mem_object? h (Option.mem_toList.mp hitem)

theorem unmarked_foldl_after {state : State} (hstate : state.Unmarked)
    {commands : List (List String)} (h : ∀ command ∈ commands, ∀ w ∈ command, Unmarked w) :
    (commands.foldl State.after state).Unmarked := by
  induction commands generalizing state with
  | nil => exact hstate
  | cons command commands ih =>
      exact ih (hstate.after (h command (by simp))) fun other hother => h other (by simp [hother])

theorem unmarked_remembered (keys : List Key) : (remembered (Key.commands keys)).Unmarked := by
  rw [remembered_eq_foldl]
  exact unmarked_foldl_after ⟨by decide, by simp⟩ fun command hcommand w hw =>
    Key.unmarked_of_mem_commands hcommand hw

/-! ## Replies -/

theorem unmarked_roomReply {state : State} (h : state.Unmarked) :
    ∀ span ∈ roomReply state, Unmarked span.text := by
  simp only [roomReply, plain, bold, List.forall_mem_cons]
  exact ⟨by decide, h.room, by decide, by simp⟩

theorem unmarked_inventoryReply {state : State} (h : state.Unmarked) :
    ∀ span ∈ inventoryReply state, Unmarked span.text := by
  have hturns : Unmarked ("Turns taken: " ++ toString state.turn) :=
    .append (by decide) (.toString state.turn)
  have hitems : Unmarked (" ".intercalate state.carrying) :=
    .intercalate (by decide) h.carrying
  simp only [inventoryReply, List.forall_mem_append]
  constructor
  · split
    · decide
    · simp only [plain, bold, List.forall_mem_cons]
      exact ⟨by decide, by decide, hitems, by decide, by simp⟩
  · simp only [plain, grey, List.forall_mem_cons]
    exact ⟨by decide, hturns, by simp⟩

theorem unmarked_idleReply {verb object : String} (hverb : Unmarked verb)
    (hobject : Unmarked object) : ∀ span ∈ idleReply verb object, Unmarked span.text := by
  unfold idleReply
  split
  · simp only [plain, List.forall_mem_cons]
    exact ⟨by decide, hverb, by decide, by simp⟩
  · simp only [plain, grey, List.forall_mem_cons]
    exact ⟨by decide, hverb, by decide, hobject, by decide, by decide, by simp⟩

/-- **No reply** has a mark in the text of a span, whichever words it repeats. -/
theorem unmarked_reply {state : State} (hstate : state.Unmarked) {command : List String}
    (h : ∀ w ∈ command, Markup.Unmarked w) :
    ∀ span ∈ reply state command, Markup.Unmarked span.text := by
  have hword := unmarked_word h
  simp only [reply]
  split
  · exact unmarked_roomReply hstate
  split
  · exact unmarked_inventoryReply hstate
  split
  · split
    · decide
    · exact unmarked_roomReply hstate
  split
  · split
    · decide
    · simp only [plain, italic, List.forall_mem_cons]
      exact ⟨by decide, hword 1, by decide, by simp⟩
  split
  · decide
  split
  · exact unmarked_idleReply (hword 0) (hword 1)
  split
  · exact unmarked_idleReply (hword 0) (hword 2)
  · simp only [plain, grey, List.forall_mem_cons]
    exact ⟨by decide, hword 0, by decide, by decide, by simp⟩

/-! ## The display -/

theorem display_pressAll_concat_enter (narrative : List String) (settings : Settings)
    (keys : List Key) :
    ((opened narrative settings).pressAll (keys ++ [.enter])).2.display
      = Markup.lex (replyText (Text.joinLines narrative)
          (remembered (Key.commands (keys ++ [.enter])))
          (Editor.words (Key.lines keys).unfinished)) := by
  rw [opened, Session.pressAll_eq_showing, latest_transcript, ← Key.commands,
    Key.commands_concat_enter, List.foldl_append, remembered_eq_foldl, List.foldl_append]
  simp only [List.foldl_cons, List.foldl_nil, told, state_foldl_told]
  rfl

/-- The answer to the line that keys leave unfinished, if the enter key is pressed behind them. -/
theorem answer_unfinished (narrative : List String) (settings : Settings) (keys : List Key) :
    ((opened narrative settings).pressAll keys).2.story.engine.answer
        (Call.ofText (Key.lines keys).unfinished)
        ((opened narrative settings).pressAll keys).2.story.state
      = .ok ⟨replyText (Text.joinLines narrative) (remembered (Key.commands (keys ++ [.enter])))
            (Editor.words (Key.lines keys).unfinished),
          remembered (Key.commands (keys ++ [.enter]))⟩ := by
  have hengine : ((opened narrative settings).pressAll keys).2.story.engine
      = engine (Text.joinLines narrative) := by
    rw [opened, Session.pressAll_eq_showing]
    rfl
  have hafter : (remembered (Key.commands keys)).after (Editor.words (Key.lines keys).unfinished)
      = remembered (Key.commands (keys ++ [.enter])) := by
    rw [Key.commands_concat_enter, remembered_eq_foldl, remembered_eq_foldl, List.foldl_append]
    rfl
  rw [hengine, state_pressAll_opened, Call.ofText, Editor.tokens_eq_words, answer_ofTokens, hafter]

/-- What it means for the display of a session to spell the reply to the line that an enter key
completes behind keys. -/
structure Spells (s : Session State) (keys : List Key) (state : State) (command : List String) :
    Prop where
  /-- Every span of the reply is drawn in its own style, and nothing else is drawn. -/
  display : (s.pressAll (keys ++ [.enter])).2.display = (reply state command).flatMap Span.glyphs
  /-- The characters are those of the sentence. -/
  sentence : (s.pressAll (keys ++ [.enter])).2.displayText
    = String.join ((reply state command).map Span.text)
  /-- The display is what the engine's answer reads as, and behind that everything is closed. -/
  closed : ∃ answer,
    (s.pressAll keys).2.story.engine.answer (Call.ofText (Key.lines keys).unfinished)
        (s.pressAll keys).2.story.state = .ok answer ∧
      (s.pressAll (keys ++ [.enter])).2.display = Markup.lex answer.text ∧
      Markup.Scanner.run {} answer.text.toList = {}

/-- **Typed words are only words**: the enter key of a line that is not answered with the narrative
displays the reply to its words, drawn as the reply says and closed at its end, in the state that
all the words typed so far have led to. -/
theorem display_spells_reply (narrative : List String) (settings : Settings) (keys : List Key)
    (hfew : (Key.commands (keys ++ [.enter])).length < turnLimit)
    (hreply : ¬ ShowsOpening (remembered (Key.commands (keys ++ [.enter])))
      (Editor.words (Key.lines keys).unfinished)) :
    ∃ s, Session.ofNarrative compile narrative settings = .ok s ∧
      (remembered (Key.commands (keys ++ [.enter]))).turn < turnLimit ∧
      Spells s keys (remembered (Key.commands (keys ++ [.enter])))
        (Editor.words (Key.lines keys).unfinished) := by
  have hcommand : Editor.words (Key.lines keys).unfinished ∈ Key.commands (keys ++ [.enter]) := by
    rw [Key.commands_concat_enter]
    simp
  have hwords : ∀ w ∈ Editor.words (Key.lines keys).unfinished, Unmarked w :=
    fun w hw => Key.unmarked_of_mem_commands hcommand hw
  obtain ⟨hdrawn, hclosed⟩ :=
    Markup.scan_sourceOf (unmarked_reply (unmarked_remembered (keys ++ [.enter])) hwords)
  have hlex := display_pressAll_concat_enter narrative settings keys
  have hanswer := answer_unfinished narrative settings keys
  rw [replyText, if_neg hreply] at hlex hanswer
  have hdisplay := hlex.trans hdrawn
  refine ⟨opened narrative settings, ofNarrative_eq_opened narrative settings,
    Nat.lt_of_le_of_lt (turn_remembered_le _) hfew, hdisplay, ?_, _, hanswer, hlex, hclosed⟩
  rw [Session.displayText, hdisplay]
  exact Markup.plainText_flatMap_glyphs _

/-- A way gone, and the inventory asked for after two things were taken. -/
def burdenedKeys : List Key :=
  "take lamp".toList.map .char ++ .enter :: "go up".toList.map .char ++ .enter
    :: "TAKE 2".toList.map .char ++ .enter :: "inventory".toList.map .char

/-- The narrative leaves bold switched on; nothing of that reaches the reply. -/
theorem burdenedKeys_spell_reply :
    (Key.commands (burdenedKeys ++ [.enter])).length < turnLimit ∧
      ¬ ShowsOpening (remembered (Key.commands (burdenedKeys ++ [.enter])))
        (Editor.words (Key.lines burdenedKeys).unfinished) ∧
      (∃ s, Session.ofNarrative compile ["A #dark cellar."] {} = .ok s ∧
        (remembered (Key.commands (burdenedKeys ++ [.enter]))).turn < turnLimit ∧
        Spells s burdenedKeys (remembered (Key.commands (burdenedKeys ++ [.enter])))
          (Editor.words (Key.lines burdenedKeys).unfinished)) ∧
      reply (remembered (Key.commands (burdenedKeys ++ [.enter])))
          (Editor.words (Key.lines burdenedKeys).unfinished)
        = [bold "Personal", plain ": [ ", plain "lamp 2", plain " ]", plain "\n",
            grey "Turns taken: 3"] := by
  have hfew : (Key.commands (burdenedKeys ++ [.enter])).length < turnLimit := by decide +kernel
  have hreply : ¬ ShowsOpening (remembered (Key.commands (burdenedKeys ++ [.enter])))
      (Editor.words (Key.lines burdenedKeys).unfinished) := by decide +kernel
  exact ⟨hfew, hreply, display_spells_reply ["A #dark cellar."] {} burdenedKeys hfew hreply,
    by decide +kernel⟩

end Echo

end TextAdventure
