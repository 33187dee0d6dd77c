import TextAdventure.Engine
import TextAdventure.Frame
import TextAdventure.Markup
import TextAdventure.Settings.Basic
import TextAdventure.Text.Lines

/-!
# Sessions

A session is a started story behind a command line. A key goes to the command line, and when it
commits a command the story is asked at once: a reply replaces the text on display, a failure
leaves text and story as they were. A frame shows the text on display and the command line.
-/

namespace TextAdventure

/-- A story being played. -/
structure Session (σ : Type) where
  settings : Settings
  editor : Editor
  story : Story σ
  /-- The text on display. -/
  display : List Glyph

/-- Why a session could not begin. -/
inductive SessionError where
  | compile (reason : String)
  | start (reason : String)
deriving DecidableEq, Repr

/-- The wording of an error. -/
def SessionError.message : SessionError → String
  | .compile reason => "narrative failed to compile: " ++ reason
  | .start reason => "narrative failed to start: " ++ reason

namespace Session

variable {σ : Type}

/-- Begins a session with an engine. -/
def begin (settings : Settings) (engine : Engine σ) : Except SessionError (Session σ) :=
  match Story.start engine with
  | .error reason => .error (.start reason)
  | .ok (story, opening) =>
    .ok
      { settings := settings
        editor := Editor.ofPrompt settings.prompt
        story := story
        display := Markup.lex opening }

/-- What beginning a session leaves in the log. -/
def beginLog (engine : Engine σ) : List Log.Entry :=
  match engine.start with
  | .error _ => []
  | .ok reply => ⟨.info, "session started"⟩ :: Markup.lexLog reply.text

/-- Compiles the lines of a narrative and begins a session. -/
def ofNarrative (compile : String → Except String (Engine σ)) (lines : List String)
    (settings : Settings) : Except SessionError (Session σ) :=
  match compile (Text.joinLines lines) with
  | .error reason => .error (.compile reason)
  | .ok engine => begin settings engine

/-- What compiling a narrative and beginning a session leaves in the log. -/
def ofNarrativeLog (compile : String → Except String (Engine σ)) (lines : List String) :
    List Log.Entry :=
  match compile (Text.joinLines lines) with
  | .error _ => []
  | .ok engine => beginLog engine

/-- The session after a key, and whether the key gave a command, or why its command failed. -/
def pressWith {m : Type → Type} [Monad m] (ask : Asking m σ) (s : Session σ) (key : Key) :
    m (Except CallError Bool × Session σ) :=
  match (s.editor.press key).take with
  | (none, editor) => pure (.ok false, { s with editor := editor })
  | (some tokens, editor) => do
    match ← s.story.commandWith ask tokens with
    | (.ok text, story) =>
      pure (.ok true, { s with editor := editor, story := story, display := Markup.lex text })
    | (.error e, story) => pure (.error e, { s with editor := editor, story := story })

/-- The session after a key that asks the session's own engine. -/
def press (s : Session σ) (key : Key) : Except CallError Bool × Session σ :=
  Id.run (s.pressWith s.story.engine.ask key)

/-- A key that commits a command gives it to the story; any other goes to the command line alone. -/
theorem press_eq (s : Session σ) (key : Key) :
    s.press key =
      match (s.editor.press key).take with
      | (none, editor) => (.ok false, { s with editor := editor })
      | (some tokens, editor) =>
        match s.story.command tokens with
        | (.ok text, story) =>
          (.ok true, { s with editor := editor, story := story, display := Markup.lex text })
        | (.error e, story) => (.error e, { s with editor := editor, story := story }) := by
  simp only [press, pressWith, Story.command, Id.run, bind, pure]
  split
  · rfl
  · split <;> rfl

/-- What a key leaves in the log. -/
def pressLog (s : Session σ) (key : Key) : List Log.Entry :=
  s.editor.pressLog key ++
    match (s.editor.press key).take with
    | (none, _) => []
    | (some tokens, _) =>
      Engine.dispatchLog tokens ++
        match s.story.command tokens with
        | (.ok text, _) => Markup.lexLog text
        | (.error e, _) =>
          [⟨.warn, "command " ++ Text.quotedList tokens ++ " failed: " ++ e.message⟩]

/-- What several keys give one after another, and the session after them. -/
def pressAllWith {m : Type → Type} [Monad m] (ask : Asking m σ) (s : Session σ) :
    List Key → m (List (Except CallError Bool) × Session σ)
  | [] => pure ([], s)
  | key :: keys => do
    let (result, s) ← s.pressWith ask key
    let (results, s) ← pressAllWith ask s keys
    pure (result :: results, s)

/-- What several keys that ask the session's own engine give, and the session after them. -/
def pressAll (s : Session σ) : List Key → List (Except CallError Bool) × Session σ
  | [] => ([], s)
  | key :: keys =>
    let (result, s) := s.press key
    let (results, s) := pressAll s keys
    (result :: results, s)

/-- What the session shows now. -/
def frame (s : Session σ) : Frame where
  text := Layout.place s.settings.textBox s.display
  commandLine := s.editor.line
  commandOrigin := s.settings.promptOrigin

/-- The text on display, without its styles. -/
def displayText (s : Session σ) : String :=
  Glyph.plainText s.display

end Session

end TextAdventure
