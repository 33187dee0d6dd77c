import TextAdventure.Engine.Echo
import TextAdventure.Proofs.Call.FirstWord
import TextAdventure.Proofs.Markup.Spans

/-!
# What the echo engine makes of a command

A command is a list of words, of which the engine looks at the first three at most. `State.after` is
the state that a command leads to and `reply` the sentence that it is answered with, in spans: where
a word of the player stands in the sentence it is a span of its own. `answer_ofTokens` says that the
engine answers every command with these, so that later proofs look neither at the table of verbs nor
at the queries again.
-/

namespace TextAdventure

namespace Echo

open Call (word)

/-! ## The state after a command -/

/-- Whether a command takes a turn: a blank one and the inventory do not. -/
def takesTurn (command : List String) : Bool :=
  word command 0 ≠ "" && word command 0 ≠ "inventory"

/-- The second word of a command that starts with a given one, if there is one and it is not
empty. -/
def object? (first : String) (command : List String) : Option String :=
  if word command 0 = first ∧ word command 1 ≠ "" then some (word command 1) else none

/-- What a room is called after going in a direction. -/
def wayFrom (direction : String) : String :=
  direction ++ " of where you were"

/-- The state that a command leads to. -/
def State.after (state : State) (command : List String) : State where
  turn := state.turn + if takesTurn command then 1 else 0
  room := (object? "go" command).elim state.room wayFrom
  carrying := state.carrying ++ (object? "take" command).toList

/-- A blank command and the inventory leave the state as it is. -/
theorem State.after_of_mem {command : List String} (h : word command 0 ∈ ["", "inventory"])
    (state : State) : state.after command = state := by
  simp only [List.mem_cons, List.not_mem_nil, or_false] at h
  rcases h with h | h <;> simp [State.after, takesTurn, object?, h]

/-! ## The reply to a command -/

open Markup (Span sourceOf)

def plain (text : String) : Span := { text := text }

def bold (text : String) : Span := { text := text, weight := .bold }

def italic (text : String) : Span := { text := text, weight := .italic }

def grey (text : String) : Span :=
  { text := text, color := some ⟨'8', '8', '8', '8', '8', '8'⟩ }

/-- The room, once the player has gone somewhere. -/
def roomReply (state : State) : List Span :=
  [plain "You are ", bold state.room, plain ". The way back is behind you."]

def inventoryReply (state : State) : List Span :=
  (if state.carrying = [] then [plain "You carry nothing."]
    else [bold "Personal", plain ": [ ", plain (" ".intercalate state.carrying), plain " ]"])
    ++ [plain "\n", grey ("Turns taken: " ++ toString state.turn)]

def helpReply : List Span :=
  [plain "Try ", bold "go", plain ", ", bold "take", plain ", ", bold "examine", plain ", ",
    bold "talk to", plain ", ", bold "inventory", plain "."]

/-- The reply to a verb that does nothing with its object. -/
def idleReply (verb object : String) : List Span :=
  if object = "" then [plain "You ", plain verb, plain " nothing in particular."]
  else [plain "You ", plain verb, plain " the ", plain object, plain ". ", grey "Nothing happens."]

/-- The reply to a command that has led to a state. A blank command before the player has gone
anywhere is not replied to: it shows the narrative. -/
def reply (state : State) (command : List String) : List Span :=
  let first := word command 0
  let second := word command 1
  if first = "" then roomReply state
  else if first = "inventory" then inventoryReply state
  else if first = "go" then if second = "" then [plain "Go where?"] else roomReply state
  else if first = "take" then
    if second = "" then [plain "Take what?"]
    else [plain "You take the ", italic second, plain "."]
  else if first = "help" then helpReply
  else if first = "examine" ∨ first = "use" then idleReply first second
  else if first = "talk" then idleReply first (word command 2)
  else [plain "You try to ", plain first, plain ". ", grey "Nothing happens."]

/-- Whether the answer to a command is the narrative: it is blank, and the player has not gone
anywhere. -/
def ShowsOpening (state : State) (command : List String) : Prop :=
  word command 0 = "" ∧ state.room = ""

instance (state : State) (command : List String) : Decidable (ShowsOpening state command) :=
  inferInstanceAs (Decidable (_ ∧ _))

/-- The text that a command is answered with. -/
def replyText (opening : String) (state : State) (command : List String) : String :=
  if ShowsOpening state command then opening else sourceOf (reply state command)

/-! ### The texts of the engine are markup of these spans -/

@[simp] theorem source_plain (text : String) : (plain text).source = text.toList := by
  simp [plain, Span.source, Markup.weightMarks]

@[simp] theorem source_bold (text : String) :
    (bold text).source = '#' :: (text.toList ++ ['#']) := by
  simp [bold, Span.source, Markup.weightMarks]

@[simp] theorem source_italic (text : String) :
    (italic text).source = '~' :: (text.toList ++ ['~']) := by
  simp [italic, Span.source, Markup.weightMarks]

@[simp] theorem source_grey (text : String) :
    (grey text).source = "@888888".toList ++ (text.toList ++ ['@']) := by
  simp [grey, Span.source, Markup.weightMarks, Color.toList]

theorem eq_sourceOf {text : String} {spans : List Span}
    (h : text.toList = spans.flatMap Span.source) : text = sourceOf spans := by
  rw [sourceOf, ← h, String.ofList_toList]

theorem roomText_eq_sourceOf (opening : String) {state : State} (h : state.room ≠ "") :
    roomText opening state = sourceOf (roomReply state) := by
  have hroom : state.room.isEmpty = false := by simpa using h
  apply eq_sourceOf
  simp [roomText, hroom, roomReply]

theorem inventoryText_eq_sourceOf (state : State) :
    inventoryText state = sourceOf (inventoryReply state) := by
  apply eq_sourceOf
  by_cases h : state.carrying = []
  · simp [inventoryText, h, inventoryReply]
  · simp [inventoryText, h, inventoryReply]

variable (opening object : String) (state : State)

theorem query_go :
    query opening "GO" object state
      = if object = "" then ⟨sourceOf [plain "Go where?"], { state with turn := state.turn + 1 }⟩
        else
          ⟨sourceOf (roomReply { state with turn := state.turn + 1, room := wayFrom object }),
            { state with turn := state.turn + 1, room := wayFrom object }⟩ := by
  by_cases hobject : object = ""
  · have htext : "Go where?" = sourceOf [plain "Go where?"] := eq_sourceOf (by simp)
    simp [query, hobject, ← htext]
  · have hway : wayFrom object ≠ "" := by simp [wayFrom]
    rw [if_neg hobject, ← roomText_eq_sourceOf opening (by exact hway)]
    simp [query, hobject, wayFrom]

theorem query_take :
    query opening "TAKE" object state
      = if object = "" then ⟨sourceOf [plain "Take what?"], { state with turn := state.turn + 1 }⟩
        else
          ⟨sourceOf [plain "You take the ", italic object, plain "."],
            { state with turn := state.turn + 1, carrying := state.carrying ++ [object] }⟩ := by
  by_cases hobject : object = ""
  · have htext : "Take what?" = sourceOf [plain "Take what?"] := eq_sourceOf (by simp)
    simp [query, hobject, ← htext]
  · have htext : "You take the ~" ++ object ++ "~."
        = sourceOf [plain "You take the ", italic object, plain "."] := eq_sourceOf (by simp)
    simp [query, hobject, ← htext]

theorem query_misc :
    query opening "MISC" object state
      = ⟨sourceOf [plain "You try to ", plain object, plain ". ", grey "Nothing happens."],
          { state with turn := state.turn + 1 }⟩ := by
  have htext : "You try to " ++ object ++ ". @888888Nothing happens.@"
      = sourceOf [plain "You try to ", plain object, plain ". ", grey "Nothing happens."] :=
    eq_sourceOf (by simp)
  simp [query, ← htext]

theorem query_help :
    query opening "HELP" object state
      = ⟨sourceOf helpReply, { state with turn := state.turn + 1 }⟩ := by
  have htext : "Try #go#, #take#, #examine#, #talk to#, #inventory#." = sourceOf helpReply :=
    eq_sourceOf (by simp [helpReply])
  simp [query, ← htext]

/-- The verbs without a query of their own are named in lower case. -/
theorem query_idle {verb : String} (h : verb ∉ ["GO", "TAKE", "MISC", "HELP"]) :
    query opening verb object state
      = ⟨sourceOf (idleReply (String.ofList (verb.toList.map Char.toLower)) object),
          { state with turn := state.turn + 1 }⟩ := by
  simp only [List.mem_cons, List.not_mem_nil, or_false, not_or] at h
  obtain ⟨hgo, htake, hmisc, hhelp⟩ := h
  generalize hname : String.ofList (verb.toList.map Char.toLower) = name
  by_cases hobject : object = ""
  · have htext : "You " ++ name ++ " nothing in particular." = sourceOf (idleReply name "") :=
      eq_sourceOf (by simp [idleReply])
    simp [query, hgo, htake, hmisc, hhelp, hname, hobject, ← htext]
  · have htext : "You " ++ name ++ " the " ++ object ++ ". @888888Nothing happens.@"
        = sourceOf (idleReply name object) := eq_sourceOf (by simp [idleReply, hobject])
    simp [query, hgo, htake, hmisc, hhelp, hname, hobject, ← htext]

/-! ### Answers -/

/-- **Every command** is answered, with its reply and the state that it leads to. -/
theorem answer_ofTokens (command : List String) :
    (engine opening).answer (Call.ofTokens command) state
      = .ok ⟨replyText opening (state.after command) command, state.after command⟩ := by
  cases firstWord command with
  | blank h =>
      have hafter : state.after command = state := State.after_of_mem (by simp [h]) state
      rw [Call.ofTokens_of_blank h, hafter]
      show Except.ok (⟨roomText opening state, state⟩ : Reply State) = _
      by_cases hroom : state.room = ""
      · simp [replyText, ShowsOpening, h, hroom, roomText]
      · simp [replyText, ShowsOpening, h, hroom, reply, roomText_eq_sourceOf]
  | verb verb h =>
      -- which call a verb makes is computed from the table; each call has its lemma above
      rw [Call.ofTokens_of_verb h]
      simp only [replyText, ShowsOpening, reply, State.after, takesTurn, object?, h]
      cases verb with
      | go =>
          show Except.ok (query opening "GO" (word command 1) state) = _
          rw [query_go]
          by_cases hobject : word command 1 = ""
          · simp [Verb.word, hobject]
          · simp [Verb.word, hobject]
      | take =>
          show Except.ok (query opening "TAKE" (word command 1) state) = _
          rw [query_take]
          by_cases hobject : word command 1 = ""
          · simp [Verb.word, hobject]
          · simp [Verb.word, hobject]
      | help =>
          show Except.ok (query opening "HELP" "help" state) = _
          rw [query_help]
          simp [Verb.word]
      | inventory =>
          show Except.ok (⟨inventoryText state, state⟩ : Reply State) = _
          rw [inventoryText_eq_sourceOf]
          simp [Verb.word]
      | examine =>
          show Except.ok (query opening "EXAMINE" (word command 1) state) = _
          rw [query_idle _ _ _ (by decide)]
          simp [Verb.word]
      | use =>
          show Except.ok (query opening "USE" (word command 1) state) = _
          rw [query_idle _ _ _ (by decide)]
          simp [Verb.word]
      | talk =>
          show Except.ok (query opening "TALK" (word command 2) state) = _
          rw [query_idle _ _ _ (by decide)]
          simp [Verb.word]
  | unknown hword h =>
      rw [Call.ofTokens_of_unknown hword h]
      have hgo : word command 0 ≠ "go" := h .go
      have htake : word command 0 ≠ "take" := h .take
      have hhelp : word command 0 ≠ "help" := h .help
      have hinventory : word command 0 ≠ "inventory" := h .inventory
      have hexamine : word command 0 ≠ "examine" := h .examine
      have huse : word command 0 ≠ "use" := h .use
      have htalk : word command 0 ≠ "talk" := h .talk
      show Except.ok (query opening "MISC" (word command 0) state) = _
      rw [query_misc]
      simp [replyText, ShowsOpening, reply, State.after, takesTurn, object?, hword, hgo, htake,
        hhelp, hinventory, hexamine, huse, htalk]

end Echo

end TextAdventure
