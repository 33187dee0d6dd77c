import TextAdventure.Proofs.Echo.Replies
import TextAdventure.Proofs.Editor.Wording
import TextAdventure.Proofs.Session.Lines

/-!
# An echo story as a function of its commands

The state of an echo story can be told from the words of the commands given so far: `remembered`
counts the turns, lists what was taken and names the last way gone. `State.after` adds one command
to a state, and `foldl_after` adds any number; since no command fails, a session whose keys gave
some commands is in the state that they are remembered as.

Turns are counted in thirty-two bits, and there are never more turns than commands.
-/

namespace TextAdventure

/-- The commands that keys gave: the words of each line that they completed. -/
def Key.commands (keys : List Key) : List (List String) :=
  (lines keys).completed.map Editor.words

theorem Key.commands_concat_enter (keys : List Key) :
    commands (keys ++ [.enter]) = commands keys ++ [Editor.words (lines keys).unfinished] := by
  simp [commands, lines_concat_enter]

namespace Echo

open Call (word)

/-- The first count of turns that does not fit into thirty-two bits. -/
def turnLimit : Nat := 0x100000000

/-! ## Remembering -/

/-- The state that commands lead to. -/
def remembered (commands : List (List String)) : State where
  turn := commands.countP takesTurn
  room :=
    match (commands.filterMap (object? "go")).getLast? with
    | none => ""
    | some direction => direction ++ " of where you were"
  carrying := commands.filterMap (object? "take")

/-- **Any number of commands**, from any state on: turns are added, objects are listed behind the
old ones, and the last way gone decides about the room. -/
theorem foldl_after (state : State) (commands : List (List String)) :
    commands.foldl State.after state
      = { turn := state.turn + commands.countP takesTurn
          room := ((commands.filterMap (object? "go")).getLast?).elim state.room wayFrom
          carrying := state.carrying ++ commands.filterMap (object? "take") } := by
  induction commands generalizing state with
  | nil => simp
  | cons command commands ih =>
      have hroom :
          ((commands.filterMap (object? "go")).getLast?).elim (state.after command).room wayFrom
            = (((command :: commands).filterMap (object? "go")).getLast?).elim state.room
                wayFrom := by
        cases hgo : object? "go" command with
        | none => simp [State.after, hgo]
        | some direction =>
            -- a later way gone replaces this one
            cases hlast : (commands.filterMap (object? "go")).getLast? <;>
              simp [State.after, hgo, hlast, List.getLast?_cons]
      have hcarrying : (state.after command).carrying ++ commands.filterMap (object? "take")
          = state.carrying ++ (command :: commands).filterMap (object? "take") := by
        cases htake : object? "take" command <;> simp [State.after, htake]
      have hturn : (state.after command).turn + commands.countP takesTurn
          = state.turn + (command :: commands).countP takesTurn := by
        simp only [State.after, List.countP_cons]
        omega
      rw [List.foldl_cons, ih, hroom, hcarrying, hturn]

theorem remembered_eq_foldl (commands : List (List String)) :
    remembered commands = commands.foldl State.after {} := by
  rw [foldl_after, remembered]
  cases (commands.filterMap (object? "go")).getLast? with
  | none => simp
  | some direction => simp [wayFrom]

theorem turn_remembered_le (commands : List (List String)) :
    (remembered commands).turn ≤ commands.length :=
  List.countP_le_length

/-! ## Answers one after another -/

/-- The reply to a command while another is the latest. -/
def told (opening : String) (reply : Reply State) (command : List String) : Reply State :=
  ⟨replyText opening (reply.state.after command) command, reply.state.after command⟩

theorem reply?_exchange (opening : String) (reply : Reply State) (text : List Char) :
    ((engine opening).exchange reply text).reply?
      = some (told opening reply (Editor.words text)) := by
  simp only [Engine.exchange, Exchange.reply?, Call.ofText, Editor.tokens_eq_words, answer_ofTokens]
  rfl

/-- The latest reply of a conversation is the one that its texts lead to, one after another. -/
theorem latest_transcript (opening : String) (reply : Reply State) (texts : List (List Char)) :
    Exchange.latest reply (transcript (engine opening) reply texts)
      = (texts.map Editor.words).foldl (told opening) reply := by
  induction texts generalizing reply with
  | nil => rfl
  | cons text texts ih =>
      rw [transcript_cons, Exchange.latest_cons, reply?_exchange, Option.getD_some, ih]
      rfl

theorem state_foldl_told (opening : String) (reply : Reply State) (commands : List (List String)) :
    (commands.foldl (told opening) reply).state = commands.foldl State.after reply.state := by
  induction commands generalizing reply with
  | nil => rfl
  | cons command commands ih => exact ih (told opening reply command)

/-! ## Sessions -/

/-- The session that an echo story begins with. -/
def opened (narrative : List String) (settings : Settings) : Session State :=
  .showing settings (engine (Text.joinLines narrative)) ⟨Text.joinLines narrative, {}⟩ []

theorem ofNarrative_eq_opened (narrative : List String) (settings : Settings) :
    Session.ofNarrative compile narrative settings = .ok (opened narrative settings) :=
  Session.begin_eq_showing settings (engine (Text.joinLines narrative)) rfl

/-- The state of a session after keys is what their commands are remembered as. -/
theorem state_pressAll_opened (narrative : List String) (settings : Settings) (keys : List Key) :
    ((opened narrative settings).pressAll keys).2.story.state = remembered (Key.commands keys) := by
  rw [opened, Session.pressAll_eq_showing, latest_transcript, remembered_eq_foldl]
  exact state_foldl_told _ _ _

theorem exists_press_eq_ok {opening : String} {s : Session State}
    (hs : s.story.engine = engine opening) (key : Key) : ∃ given, (s.press key).1 = .ok given := by
  rw [Session.press_eq]
  split
  · exact ⟨false, rfl⟩
  · rename_i tokens editor htake
    rw [Story.command_eq, Engine.dispatch_eq, hs, answer_ofTokens]
    exact ⟨true, rfl⟩

theorem exists_eq_ok_of_mem_pressAll {opening : String} {s : Session State}
    (hs : s.story.engine = engine opening) (keys : List Key) :
    ∀ result ∈ (s.pressAll keys).1, ∃ given, result = .ok given := by
  induction keys generalizing s with
  | nil => simp [Session.pressAll]
  | cons key keys ih =>
      intro result hresult
      rcases List.mem_cons.mp hresult with rfl | hresult
      · exact exists_press_eq_ok hs key
      · exact ih ((Session.engine_press s key).trans hs) result hresult

/-- What it means for a session to remember the commands that keys gave. -/
structure Remembers (s : Session State) (keys : List Key) : Prop where
  state : (s.pressAll keys).2.story.state = remembered (Key.commands keys)
  /-- The count of turns has not overflowed. -/
  turn_lt : (s.pressAll keys).2.story.state.turn < turnLimit
  /-- No key is told that a command failed. -/
  answered : ∀ result ∈ (s.pressAll keys).1, ∃ given, result = .ok given
  /-- Neither a blank line nor the inventory changes the state. -/
  unchanged : word (Editor.words (Key.lines keys).unfinished) 0 ∈ ["", "inventory"] →
    (s.pressAll (keys ++ [.enter])).2.story.state = (s.pressAll keys).2.story.state

/-- **An echo story is a function of its commands**, whatever the narrative and the settings are:
its state is told from the words of the lines that the keys completed, and no command fails. -/
theorem session_remembers_commands (narrative : List String) (settings : Settings)
    (keys : List Key) (hfew : (Key.commands keys).length < turnLimit) :
    ∃ s, Session.ofNarrative compile narrative settings = .ok s ∧ Remembers s keys := by
  refine ⟨opened narrative settings, ofNarrative_eq_opened narrative settings, ?_, ?_, ?_, ?_⟩
  · exact state_pressAll_opened narrative settings keys
  · rw [state_pressAll_opened]
    exact Nat.lt_of_le_of_lt (turn_remembered_le _) hfew
  · exact exists_eq_ok_of_mem_pressAll rfl keys
  · intro hfirst
    rw [state_pressAll_opened, state_pressAll_opened, Key.commands_concat_enter,
      remembered_eq_foldl, remembered_eq_foldl, List.foldl_append]
    exact State.after_of_mem hfirst _

/-- Something taken, a way gone, a blank line, the inventory, and a way not named. -/
def wandererKeys : List Key :=
  "Take LAMP".toList.map .char ++ .enter :: "  go north".toList.map .char ++ .enter :: .enter
    :: "inventory".toList.map .char ++ .enter :: "go ".toList.map .char ++ [.enter, .char 'x']

theorem session_remembers_wandererKeys :
    (Key.commands wandererKeys).length < turnLimit ∧
      (∃ s, Session.ofNarrative compile ["A cellar."] {} = .ok s ∧ Remembers s wandererKeys) ∧
      remembered (Key.commands wandererKeys)
        = { turn := 3, room := "north of where you were", carrying := ["lamp"] } := by
  have hfew : (Key.commands wandererKeys).length < turnLimit := by decide +kernel
  exact ⟨hfew, session_remembers_commands ["A cellar."] {} wandererKeys hfew, by decide +kernel⟩

end Echo

end TextAdventure
