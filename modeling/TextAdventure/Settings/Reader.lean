import TextAdventure.Settings.Basic
import TextAdventure.Settings.Skip

/-!
# Reading settings

Settings are written as a structure of named fields, in any order, each at most once. A field that
is missing keeps its default, and a field of another name is passed over. The name of the
structure may be left out, but a wrong one is refused. The text may start with attributes that
switch extensions on.
-/

namespace TextAdventure.Settings

open Source

/-! ## Structures -/

/-- A field of a structure read into a draft of type `σ`: whether the draft has it already, and
how to read its value. -/
structure Field (σ : Type) where
  name : String
  given : σ → Bool
  read : σ → Reader σ

/-- Reads one field of the structure called `structName` into a draft; `skip` goes past the value
of a field that is not among `fields`. A second value for a field is refused at its name. -/
def readField {σ : Type} (structName : String) (fields : List (Field σ)) (skip : Skipper)
    (draft : σ) : Reader σ := fun s => do
  let (name, s) ← s.readName
  match fields.find? fun field => field.name == name with
  | none =>
    let s ← Source.skipEntry (fun s => .ok s) skip s
    pure (draft, s)
  | some field =>
    if field.given draft then s.fail (.duplicateField name structName)
    else
      let s ← (← s.skipBlank).skipText ":" .expectedColon
      field.read draft (← s.skipBlank)

/-- Goes past the name of a structure, if it is given. -/
def skipStructName (structName : String) : Skipper := fun s =>
  if s.rest.head?.any isNameChar then
    match s.readName with
    | .error _ => s.fail (.expectedStruct structName)
    | .ok (name, s) => if name = structName then .ok s else s.fail (.otherStruct structName name)
  else .ok s

/-- Reads a structure into a draft. -/
def readStruct {σ : Type} (structName : String) (fields : List (Field σ)) (skip : Skipper)
    (draft : σ) : Reader σ := fun s => do
  let s ← skipStructName structName s
  let s ← (← s.skipBlank).skipText "(" (.expectedStruct structName)
  let (draft, s) ← s.readItems ')' (readField structName fields skip) draft true
  let s ← s.skipText ")" .expectedClosing
  pure (draft, s)

/-! ## Pairs -/

/-- Reads one number of a pair, of which `found` have been read. -/
def readCoordinate (found : Nat) (hadComma : Bool) : Reader (Single × Bool) := fun s => do
  let s ← s.skipBlank
  match s.rest with
  | [] => s.fail .endOfText
  | ')' :: _ => s.fail (.pairTooShort found)
  | _ =>
    if hadComma then
      let (x, s) ← s.readFloat
      let (comma, s) ← s.skipComma
      pure ((x, comma), s)
    else s.fail .expectedComma

/-- Reads two numbers in parentheses. One comma may follow the second. -/
def readPair : Reader (Single × Single) := fun s => do
  let s ← s.skipText "(" .expectedOpening
  let ((x, comma), s) ← readCoordinate 0 true s
  let ((y, _), s) ← readCoordinate 1 comma s
  let s ← s.skipText ")" .expectedClosing
  pure ((x, y), s)

/-! ## The text box -/

/-- The fields of a text box given so far. -/
structure BoxDraft where
  originX : Option Single := none
  originY : Option Single := none
  width : Option Single := none
  slack : Option Single := none
  lineHeight : Option Single := none
  advance : Option Single := none
deriving DecidableEq, Repr

/-- The box with the defaults filled in. -/
def BoxDraft.toBox (draft : BoxDraft) : TextBox :=
  let box : TextBox := {}
  { originX := draft.originX.getD box.originX
    originY := draft.originY.getD box.originY
    width := draft.width.getD box.width
    slack := draft.slack.getD box.slack
    lineHeight := draft.lineHeight.getD box.lineHeight
    advance := draft.advance.getD box.advance }

/-- A field that holds a number. -/
def numberField {σ : Type} (name : String) (get : σ → Option Single) (set : σ → Single → σ) :
    Field σ where
  name := name
  given draft := (get draft).isSome
  read draft := fun s => do
    let (x, s) ← s.readFloat
    pure (set draft x, s)

/-- The fields of a text box. -/
def boxFields : List (Field BoxDraft) :=
  [ numberField "origin_x" (·.originX) fun draft x => { draft with originX := some x },
    numberField "origin_y" (·.originY) fun draft x => { draft with originY := some x },
    numberField "width" (·.width) fun draft x => { draft with width := some x },
    numberField "slack" (·.slack) fun draft x => { draft with slack := some x },
    numberField "line_height" (·.lineHeight) fun draft x => { draft with lineHeight := some x },
    numberField "advance" (·.advance) fun draft x => { draft with advance := some x } ]

/-- The depth at which the value of an unknown field of the settings stands. -/
def valueDepth : Nat := 126

/-- Reads a text box. -/
def readBox (bare : Bool) : Reader TextBox := fun s => do
  let (draft, s) ← readStruct "LayoutBox" boxFields (skipValue bare (valueDepth - 2)) {} s
  pure (draft.toBox, s)

/-! ## The settings -/

/-- The settings given so far. -/
structure Draft where
  prompt : Option String := none
  textBox : Option TextBox := none
  promptOrigin : Option (Single × Single) := none
deriving DecidableEq, Repr

/-- The settings with the defaults filled in. -/
def Draft.toSettings (draft : Draft) : Settings :=
  let settings : Settings := {}
  { prompt := draft.prompt.getD settings.prompt
    textBox := draft.textBox.getD settings.textBox
    promptOrigin := draft.promptOrigin.getD settings.promptOrigin }

/-- The fields of the settings. -/
def settingsFields (bare : Bool) : List (Field Draft) :=
  [ { name := "prompt"
      given := fun draft => draft.prompt.isSome
      read := fun draft s => do
        let (x, s) ← s.readString
        pure ({ draft with prompt := some x }, s) },
    { name := "text_box"
      given := fun draft => draft.textBox.isSome
      read := fun draft s => do
        let (x, s) ← readBox bare s
        pure ({ draft with textBox := some x }, s) },
    { name := "prompt_origin"
      given := fun draft => draft.promptOrigin.isSome
      read := fun draft s => do
        let (x, s) ← readPair s
        pure ({ draft with promptOrigin := some x }, s) } ]

/-! ## Extensions -/

/-- The extension that lets an option leave out its parentheses. -/
def bareOptions : String := "implicit_some"

/-- The extensions that a text may switch on. -/
def extensions : List String := ["unwrap_newtypes", bareOptions, "unwrap_variant_newtypes"]

/-- How far trying one text after the other has come. -/
structure Trial where
  source : Source
  /-- Whether each text was there. -/
  all : Bool := true
  /-- The first fault in the blanks after the texts. -/
  fault : Option Fault := none
deriving DecidableEq, Repr

/-- Goes past a text with the blanks after it, if it is there. -/
def Trial.next (trial : Trial) (text : String) : Trial :=
  match trial.source.consume? text with
  | none => { trial with all := false }
  | some s =>
    let (s, fault) := s.passBlank
    { trial with source := s, fault := trial.fault.or fault }

/-- Goes past each of the texts that is there, with the blanks after it, and tells whether all
were. Every text is tried, also after a fault in the blanks, which comes to light where the last
trial ends. -/
def skipEach (texts : List String) : Reader Bool := fun s =>
  let trial := texts.foldl Trial.next { source := s }
  match trial.fault with
  | none => .ok (trial.all, trial.source)
  | some fault => trial.source.fail fault

/-- Reads the names of extensions up to the end of their list; tells whether options may be bare.
The list ends where no comma follows, or no name follows the comma. -/
def readExtensionNames (bare : Bool) (s : Source) : Except Failure (Bool × Source) := do
  let (name, t) ← s.readName
  if name ∈ extensions then
    let bare := bare || name == bareOptions
    let (comma, u) ← t.skipComma
    let more := u.rest.head?.any isNameChar
    if more && !comma then u.fail .expectedComma
    else if more then
      if u.rest.length < s.rest.length then readExtensionNames bare u else u.fail .endOfText
    else pure (bare, u)
  else t.fail (.unknownExtension name)
termination_by s.rest.length

/-- Reads the attributes at the start of a text; tells whether options may be bare. -/
def readAttributes (bare : Bool) (s : Source) : Except Failure (Bool × Source) := do
  if s.startsWith "#" then
    let (opened, t) ← skipEach ["#", "!", "[", "enable", "("] s
    if opened then
      let (bare, t) ← readExtensionNames bare (← t.skipBlank)
      let (closed, t) ← skipEach [")", "]"] (← t.skipBlank)
      if closed then
        let t ← t.skipBlank
        if t.rest.length < s.rest.length then readAttributes bare t else t.fail .endOfText
      else t.fail .expectedAttributeEnd
    else t.fail .expectedAttribute
  else pure (bare, s)
termination_by s.rest.length

/-! ## Texts -/

/-- Reads a whole text, to its end. -/
def readDraft (text : List Char) : Except Failure Draft := do
  let s : Source := { rest := text }
  let (bare, s) ← readAttributes false (← s.skipBlank)
  let (draft, s) ←
    readStruct "ShellConfig" (settingsFields bare) (skipValue bare valueDepth) {} s
  let s ← s.skipBlank
  if s.rest.isEmpty then pure draft else s.fail .trailingText

/-- The settings written in a text. The prompt must not be empty. -/
def parse (text : String) : Except Error Settings :=
  match readDraft text.toList with
  | .error failure => .error (.text failure)
  | .ok draft =>
    let settings := draft.toSettings
    if settings.prompt.isEmpty then .error .emptyPrompt else .ok settings

/-- The settings in a file. -/
def load (read : FileReader) (path : String) : Except Error Settings :=
  match read path with
  | .error fault => .error (.file fault)
  | .ok text => parse text

end TextAdventure.Settings
