import TextAdventure.Engine

/-!
# The echo engine

A small engine that shows the narrative as its first room and acknowledges every query. It counts
turns, and knows going and taking; no call to it fails.
-/

namespace TextAdventure.Echo

/-- Progress in an echo story. -/
structure State where
  turn : Nat := 0
  room : String := ""
  carrying : List String := []
deriving DecidableEq, Repr

/-- What the current room shows: the opening until the player has gone somewhere. -/
def roomText (opening : String) (state : State) : String :=
  if state.room.isEmpty then opening
  else "You are #" ++ state.room ++ "#. The way back is behind you."

/-- The answer to a query. Every query takes a turn. -/
def query (opening : String) (verb object : String) (state : State) : Reply State :=
  let next := { state with turn := state.turn + 1 }
  if verb = "GO" then
    if object.isEmpty then ⟨"Go where?", next⟩
    else
      let moved := { next with room := object ++ " of where you were" }
      ⟨roomText opening moved, moved⟩
  else if verb = "TAKE" then
    if object.isEmpty then ⟨"Take what?", next⟩
    else ⟨"You take the ~" ++ object ++ "~.", { next with carrying := next.carrying ++ [object] }⟩
  else if verb = "MISC" then
    ⟨"You try to " ++ object ++ ". @888888Nothing happens.@", next⟩
  else if verb = "HELP" then
    ⟨"Try #go#, #take#, #examine#, #talk to#, #inventory#.", next⟩
  else
    let name := String.ofList (verb.toList.map Char.toLower)
    if object.isEmpty then ⟨"You " ++ name ++ " nothing in particular.", next⟩
    else ⟨"You " ++ name ++ " the " ++ object ++ ". @888888Nothing happens.@", next⟩

/-- What the player carries, and the turns taken. -/
def inventoryText (state : State) : String :=
  let items :=
    if state.carrying.isEmpty then "You carry nothing."
    else "#Personal#: [ " ++ " ".intercalate state.carrying ++ " ]"
  items ++ "\n@888888Turns taken: " ++ toString state.turn ++ "@"

/-- The echo engine of a narrative. -/
def engine (opening : String) : Engine State where
  start := .ok ⟨roomText opening {}, {}⟩
  query verb object state := .ok (query opening verb object state)
  describeRoom state := .ok ⟨roomText opening state, state⟩
  inventory state := .ok ⟨inventoryText state, state⟩

/-- Every narrative compiles. -/
def compile (narrative : String) : Except String (Engine State) :=
  .ok (engine narrative)

end TextAdventure.Echo
