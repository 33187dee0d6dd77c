/-!
# Log entries

What a step leaves in the log is computed by a function of its own next to the step, so that the
step itself stays a plain function on states.
-/

namespace TextAdventure.Log

/-- How grave an entry is. -/
inductive Level where
  | error
  | warn
  | info
  | debug
deriving DecidableEq, Repr

/-- The name of a level. -/
def Level.label : Level → String
  | .error => "ERROR"
  | .warn => "WARN"
  | .info => "INFO"
  | .debug => "DEBUG"

/-- One entry of the log. -/
structure Entry where
  level : Level
  message : String
deriving DecidableEq, Repr

/-- The line written for an entry. -/
def Entry.text (entry : Entry) : String :=
  entry.level.label ++ " " ++ entry.message ++ "\n"

/-- The entries that are written to a file: all but those for debugging. -/
def written (entries : List Entry) : List Entry :=
  entries.filter fun entry => entry.level != .debug

end TextAdventure.Log
