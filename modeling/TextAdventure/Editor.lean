import TextAdventure.Key
import TextAdventure.Log
import TextAdventure.Text.Bytes
import TextAdventure.Text.Fields

/-!
# The command line

The line being edited starts with a prompt that no key can erase. A literal key is appended, an
erasing key removes the last character, the enter key commits the line, and every other key
leaves it alone. Keys that arrive between the commit and the moment the command is taken go on
editing the same line.

The line is one text, prompt included, and the prompt's size in bytes says where the rest starts.
-/

namespace TextAdventure

/-- A line being edited. -/
structure Editor where
  /-- What the line starts with. -/
  prompt : String
  /-- The prompt and the text after it, as drawn. -/
  line : String
  /-- Whether the line has been committed. -/
  ready : Bool := false
deriving DecidableEq, Repr

namespace Editor

/-- The prompt used when no other is given. -/
def defaultPrompt : String := "> "

/-- The empty line behind a prompt. -/
def ofPrompt (prompt : String) : Editor :=
  { prompt := prompt, line := prompt }

/-- The line in two parts, cut at the byte where the prompt ends; none if it cannot be cut there. -/
def cut? (e : Editor) : Option (String × String) :=
  (Text.cutAt? e.prompt.utf8ByteSize e.line.toList).map fun (before, after) =>
    (String.ofList before, String.ofList after)

/-- The text after the prompt. -/
def tail (e : Editor) : String :=
  (e.cut?.map Prod.snd).getD ""

/-- The line without its last character, unless it is no longer than the prompt. -/
def erase (e : Editor) : Editor :=
  if e.prompt.utf8ByteSize < e.line.utf8ByteSize then
    { e with line := String.ofList e.line.toList.dropLast }
  else e

/-- The line after a key. -/
def press (e : Editor) : Key → Editor
  | .char c => if Key.isLiteralChar c then { e with line := e.line.push c } else e
  | .backspace => e.erase
  | .delete => e.erase
  | .enter => { e with ready := true }
  | .other _ => e

/-- What pressing a key leaves in the log. -/
def pressLog (e : Editor) (key : Key) : List Log.Entry :=
  if key.isLiteral then []
  else
    match key with
    | .backspace => []
    | .delete => []
    | .enter => [⟨.debug, "command line committed: " ++ Text.quoted e.tail⟩]
    | _ => [⟨.warn, "unhandled key pressed: " ++ key.label⟩]

/-- The words of a command: its text in lower case, without the spaces it starts with, split at
every single space. -/
def tokens (text : String) : List String :=
  let lower := text.toList.map Char.toLower
  (Text.splitFields (lower.dropWhile (· == ' '))).map String.ofList

/-- Takes the command of a committed line, leaving the bare prompt; of a line that has not been
committed there is none to take. -/
def take (e : Editor) : Option (List String) × Editor :=
  if e.ready then
    (some (tokens e.tail), { e with line := (e.cut?.map Prod.fst).getD e.line, ready := false })
  else (none, e)

end Editor

end TextAdventure
