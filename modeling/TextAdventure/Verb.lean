/-!
# Verbs

The words that the shell knows, and what each asks of the engine.
-/

namespace TextAdventure

/-- A word that the shell knows. -/
inductive Verb where
  | examine
  | use
  | talk
  | go
  | take
  | help
  | inventory
deriving DecidableEq, Repr

namespace Verb

/-- Every verb. -/
def all : List Verb := [.examine, .use, .talk, .go, .take, .help, .inventory]

/-- How the player writes the verb. -/
def word : Verb → String
  | .examine => "examine"
  | .use => "use"
  | .talk => "talk"
  | .go => "go"
  | .take => "take"
  | .help => "help"
  | .inventory => "inventory"

/-- The verb written as a word, which must be the whole word in lower case. -/
def ofWord? (word : String) : Option Verb :=
  all.find? fun verb => verb.word == word

/-- The name under which the engine is asked. The inventory is not asked for by name. -/
def queryName? : Verb → Option String
  | .examine => some "EXAMINE"
  | .use => some "USE"
  | .talk => some "TALK"
  | .go => some "GO"
  | .take => some "TAKE"
  | .help => some "HELP"
  | .inventory => none

/-- Which word of the command is the verb's object: for `talk to someone` the third. -/
def objectIndex : Verb → Nat
  | .talk => 2
  | _ => 1

end Verb

end TextAdventure
