import TextAdventure.Editor
import TextAdventure.Files.Basic
import TextAdventure.Layout
import TextAdventure.Settings.Source

/-!
# Settings

Where and how the shell draws: the prompt, the box for the story's text, and where the command
line goes. Every setting has a default.
-/

namespace TextAdventure

/-- The settings of a shell. -/
structure Settings where
  /-- What the command line starts with. -/
  prompt : String := Editor.defaultPrompt
  /-- Where the story's text is placed. -/
  textBox : TextBox := {}
  /-- Where the command line is drawn: its column and its row. -/
  promptOrigin : Single × Single := (0, 22)
deriving DecidableEq, Repr

namespace Settings

/-- Whether two settings have the same values. -/
def sameValue (a b : Settings) : Bool :=
  a.prompt == b.prompt && a.textBox.sameValue b.textBox &&
    a.promptOrigin.1.sameValue b.promptOrigin.1 && a.promptOrigin.2.sameValue b.promptOrigin.2

/-- Why settings could not be had. -/
inductive Error where
  | file (fault : FileFault)
  | text (failure : Failure)
  | emptyPrompt
deriving DecidableEq, Repr

/-- The wording of an error. -/
def Error.message : Error → String
  | .file fault => "IO error: " ++ fault.message
  | .text failure => "RON deserialization error: " ++ failure.message
  | .emptyPrompt => "prompt must not be empty"

end Settings

end TextAdventure
