import TextAdventure.Call
import TextAdventure.Log

/-!
# Engines and stories

An engine answers calls. It keeps no progress of its own: each call takes the state of the story
and gives back a text and the state to go on with, or a reason why it failed. A story is an
engine with the state of the latest call that succeeded.

A step that needs an answer is written for any way of asking, with effects of its own: asking the
engine itself has none.
-/

namespace TextAdventure

/-- An engine's answer: what to show, and the state to go on with. -/
structure Reply (σ : Type) where
  text : String
  state : σ
deriving DecidableEq, Repr

/-- A compiled story with states in `σ`. A failed call gives its reason. -/
structure Engine (σ : Type) where
  start : Except String (Reply σ)
  query : (verb object : String) → σ → Except String (Reply σ)
  describeRoom : σ → Except String (Reply σ)
  inventory : σ → Except String (Reply σ)

/-- A way of asking: a call and the state it starts from give an answer, with the effects of
`m`. -/
def Asking (m : Type → Type) (σ : Type) : Type :=
  Call → σ → m (Except String (Reply σ))

/-- A call that failed, and why. -/
structure CallError where
  call : Call
  reason : String
deriving DecidableEq, Repr

/-- The wording of a failed call. -/
def CallError.message (e : CallError) : String :=
  "engine failed on " ++ e.call.text ++ ": " ++ e.reason

namespace Engine

variable {σ : Type}

/-- The engine's answer to a call. -/
def answer (engine : Engine σ) (call : Call) (state : σ) : Except String (Reply σ) :=
  match call with
  | .describeRoom => engine.describeRoom state
  | .inventory => engine.inventory state
  | .query verb object => engine.query verb object state

/-- Asks the engine itself. -/
def ask (engine : Engine σ) : Asking Id σ := fun call state =>
  pure (engine.answer call state)

/-- The answer to a command. -/
def dispatchWith {m : Type → Type} [Monad m] (ask : Asking m σ) (tokens : List String)
    (state : σ) : m (Except CallError (Reply σ)) := do
  match ← ask (Call.ofTokens tokens) state with
  | .ok reply => pure (.ok reply)
  | .error reason => pure (.error ⟨Call.ofTokens tokens, reason⟩)

/-- The engine's answer to a command. -/
def dispatch (engine : Engine σ) (tokens : List String) (state : σ) :
    Except CallError (Reply σ) :=
  Id.run (dispatchWith engine.ask tokens state)

/-- A command is answered as its call is; a failure names the call. -/
theorem dispatch_eq (engine : Engine σ) (tokens : List String) (state : σ) :
    engine.dispatch tokens state
      = (engine.answer (Call.ofTokens tokens) state).mapError fun reason =>
          ⟨Call.ofTokens tokens, reason⟩ := by
  simp only [dispatch, dispatchWith, ask, Id.run, bind, pure]
  cases engine.answer (Call.ofTokens tokens) state <;> rfl

/-- What asking for a command leaves in the log. -/
def dispatchLog (tokens : List String) : List Log.Entry :=
  [⟨.debug, "dispatching " ++ (Call.ofTokens tokens).text⟩]

end Engine

/-- An engine and the current state of its story. -/
structure Story (σ : Type) where
  engine : Engine σ
  state : σ

namespace Story

variable {σ : Type}

/-- Starts a story; the text is its opening. -/
def start (engine : Engine σ) : Except String (Story σ × String) :=
  match engine.start with
  | .ok reply => .ok (⟨engine, reply.state⟩, reply.text)
  | .error reason => .error reason

/-- Gives a command. A command that fails leaves the state as it was. -/
def commandWith {m : Type → Type} [Monad m] (ask : Asking m σ) (story : Story σ)
    (tokens : List String) : m (Except CallError String × Story σ) := do
  match ← Engine.dispatchWith ask tokens story.state with
  | .ok reply => pure (.ok reply.text, { story with state := reply.state })
  | .error e => pure (.error e, story)

/-- Gives a command to the story's own engine. -/
def command (story : Story σ) (tokens : List String) : Except CallError String × Story σ :=
  Id.run (story.commandWith story.engine.ask tokens)

/-- A command is what its engine is asked for in the state that the story is in. -/
theorem command_eq (story : Story σ) (tokens : List String) :
    story.command tokens =
      match story.engine.dispatch tokens story.state with
      | .ok reply => (.ok reply.text, { story with state := reply.state })
      | .error e => (.error e, story) := by
  simp only [command, commandWith, Engine.dispatch, Id.run, bind, pure]
  split <;> rfl

/-- A story keeps its engine. -/
@[simp]
theorem engine_command (story : Story σ) (tokens : List String) :
    (story.command tokens).2.engine = story.engine := by
  rw [command_eq]
  split <;> rfl

end Story

end TextAdventure
