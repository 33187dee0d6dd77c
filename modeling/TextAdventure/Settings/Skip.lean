import TextAdventure.Settings.Token

/-!
# Values of unknown fields

A field that the settings do not have is passed over, but its value must be one: a truth value, an
option, a number, a string, a character, a list, a map, a tuple or a structure, nested to a
bounded depth. A value at depth `n` may hold an optional value at depth `n - 1`, and a sequence
whose elements are at depth `n - 2`: one level for the sequence and one for its element.
-/

namespace TextAdventure.Settings.Source

/-- What a value may contain at the depth where it stands. -/
structure Inside where
  /-- The contents of an option. -/
  option : Skipper
  /-- The elements of a sequence; without them, no sequence is allowed. -/
  element : Option (Option Skipper)

/-- Fails because a value is nested too deeply. -/
def failTooDeep : Skipper := fun s => s.fail .tooDeep

/-- An element of a sequence that may have elements of this kind. -/
def skipElement (element : Option Skipper) : Skipper :=
  element.getD failTooDeep

/-- The name of a field of a structure whose fields may have values of this kind. -/
def skipFieldName (element : Option Skipper) : Skipper := fun s =>
  match element with
  | none => s.fail .tooDeep
  | some _ => (·.2) <$> s.readName

/-- A key, a colon and a value. -/
def skipEntry (key value : Skipper) : Skipper := fun s => do
  let s ← key s
  let s ← s.skipBlank
  let s ← s.skipText ":" .expectedColon
  value (← s.skipBlank)

/-- The items of a sequence up to its end, after its opening. -/
def skipItems (close : Char) (item : Skipper) (fault : Fault) : Skipper := fun s => do
  let (_, s) ← s.readItems close (fun () t => (fun u => ((), u)) <$> item t) () true
  s.skipText (String.singleton close) fault

/-- A sequence after its opening; `item` goes past one of its items. -/
def skipSequence (inside : Inside) (close : Char) (item : Option Skipper → Skipper)
    (fault : Fault) : Skipper := fun s =>
  match inside.element with
  | none => s.fail .tooDeep
  | some element => s.skipItems close (item element) fault

/-- Whether what follows an opening parenthesis is the first field of a structure: a name and a
colon. Looking ahead fails where it starts. -/
def startsField (s : Source) : Except Failure Bool :=
  let look : Except Failure Bool := do
    let t ← (s.drop 1).skipBlank
    match t.readName with
    | .error _ => pure false
    | .ok (_, t) =>
      let t ← t.skipBlank
      match t.rest with
      | [] => t.fail .endOfText
      | c :: _ => pure (c == ':')
  match look with
  | .ok found => .ok found
  | .error e => s.fail e.fault

/-- A structure, a tuple or nothing, after a name if there was one. -/
def skipBody (inside : Inside) : Skipper := fun s =>
  if s.startsWith "(" then do
    if ← s.startsField then
      (s.drop 1).skipSequence inside ')'
        (fun element => skipEntry (skipFieldName element) (skipElement element)) .expectedClosing
    else
      (s.drop 1).skipSequence inside ')' skipElement .expectedClosing
  else .ok s

/-- An option after the word `Some`: with parentheses, or without them if `bare` allows it. -/
def skipSome (bare : Bool) (inside : Inside) : Skipper := fun s => do
  let s ← s.skipBlank
  match s.consume? "(" with
  | some s =>
    let s ← s.skipBlank
    let s ← inside.option s
    let (_, s) ← s.skipComma
    s.skipText ")" .expectedClosing
  | none => if bare then inside.option s else s.fail .expectedOption

/-- The words that are values by themselves. -/
def valueWords : List String := ["true", "false", "None", "inf", "-inf", "NaN"]

/-- A value that starts with none of the words and no name. -/
def skipUnnamed (inside : Inside) : Skipper := fun s =>
  match s.rest with
  | [] => s.fail .endOfText
  | c :: _ =>
    if c = '(' then s.skipBody inside
    else if c = '[' then (s.drop 1).skipSequence inside ']' skipElement .expectedListEnd
    else if c = '\x7b' then
      (s.drop 1).skipSequence inside '\x7d'
        (fun element => skipEntry (skipElement element) (skipElement element)) .expectedMapEnd
    else if c.isDigit || c == '+' || c == '-' then s.skipNumber
    else if c = '.' then (·.2) <$> s.readFloat
    else if c = '"' || c = 'r' then (·.2) <$> s.readString
    else if c = '\'' then s.skipChar
    else s.fail (.unexpectedByte (firstByte c))

/-- One value, given what may be inside it. -/
def skipValueWith (bare : Bool) (inside : Inside) : Skipper := fun s =>
  match s.consumeWord? "Some" with
  | some s => s.skipSome bare inside
  | none =>
    match valueWords.find? s.startsWithWord with
    | some word => .ok (s.drop word.length)
    | none =>
      match s.consume? "()" with
      | some s => .ok s
      | none =>
        match s.readName with
        | .ok (_, s) => do (← s.skipBlank).skipBody inside
        | .error _ => s.skipUnnamed inside

/-- One value at a depth. `bare` says whether an option may leave out its parentheses. -/
def skipValue (bare : Bool) : Nat → Skipper
  | 0 => skipValueWith bare ⟨failTooDeep, none⟩
  | 1 => skipValueWith bare ⟨skipValue bare 0, some none⟩
  | n + 2 => skipValueWith bare ⟨skipValue bare (n + 1), some (some (skipValue bare n))⟩

end TextAdventure.Settings.Source
