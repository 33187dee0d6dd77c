import TextAdventure.Text.Quoted
import TextAdventure.Verb

/-!
# Engine calls

Every command line asks the engine exactly one thing. A blank line asks for the room, `inventory`
for the inventory, and anything else is a query with a verb and an object; a word that is no verb
is the object of the query `MISC`.
-/

namespace TextAdventure

/-- What a command asks of the engine. -/
inductive Call where
  | describeRoom
  | inventory
  | query (verb object : String)
deriving DecidableEq, Repr

namespace Call

/-- The query for words that are no verbs. -/
def misc : String := "MISC"

/-- The call that a command asks for. A missing object is empty, and `help` always asks about
itself. -/
def ofTokens (tokens : List String) : Call :=
  let head := tokens.headD ""
  if head.isEmpty then .describeRoom
  else
    match Verb.ofWord? head with
    | none => .query misc head
    | some verb =>
      match verb.queryName? with
      | none => .inventory
      | some name =>
        if verb = .help then .query name "help"
        else .query name (tokens.getD verb.objectIndex "")

/-- The written form of a call. -/
def text : Call → String
  | .describeRoom => "print_current_room"
  | .inventory => "print_inventory"
  | .query verb object => "query(" ++ verb ++ ", " ++ Text.quoted object ++ ")"

end Call

end TextAdventure
