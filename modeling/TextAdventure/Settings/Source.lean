import TextAdventure.Settings.Fault

/-!
# Reading positions

A source is what is still to be read of a settings text together with the place where that
starts. Lines and columns count from one, and a column counts bytes. A reader is a function from
a source to a value and the source after it, or to a fault and the place where it came to light.
-/

namespace TextAdventure.Settings

/-- A place in a text. -/
structure Position where
  line : Nat := 1
  column : Nat := 1
deriving DecidableEq, Repr

/-- The place after one more character. -/
def Position.after (p : Position) (c : Char) : Position :=
  if c = '\n' then ⟨p.line + 1, 1⟩ else ⟨p.line, p.column + c.utf8Size⟩

/-- The place after the first byte of a character. -/
def Position.afterByte (p : Position) (c : Char) : Position :=
  if c = '\n' then ⟨p.line + 1, 1⟩ else ⟨p.line, p.column + 1⟩

/-- What is still to be read, and where it starts. -/
structure Source where
  rest : List Char
  position : Position := {}
deriving DecidableEq, Repr

/-- A fault and the place where it came to light. -/
structure Failure where
  fault : Fault
  position : Position
deriving DecidableEq, Repr

/-- The wording of a failure. -/
def Failure.message (f : Failure) : String :=
  toString f.position.line ++ ":" ++ toString f.position.column ++ ": " ++ f.fault.message

/-- A reader of values of type `α`. -/
abbrev Reader (α : Type) := Source → Except Failure (α × Source)

/-- A reader that keeps nothing. -/
abbrev Skipper := Source → Except Failure Source

namespace Source

/-- Fails at the current place. -/
def fail {α : Type} (s : Source) (fault : Fault) : Except Failure α :=
  .error ⟨fault, s.position⟩

/-- Goes past `n` characters. -/
def drop (s : Source) (n : Nat) : Source :=
  ⟨s.rest.drop n, (s.rest.take n).foldl Position.after s.position⟩

/-- Goes past the characters at the start that satisfy `p`. -/
def skipWhile (s : Source) (p : Char → Bool) : Source :=
  s.drop (s.rest.takeWhile p).length

/-- Whether the rest starts with a text. -/
def startsWith (s : Source) (text : String) : Bool :=
  text.toList.isPrefixOf s.rest

/-- Goes past a text if the rest starts with it. -/
def consume? (s : Source) (text : String) : Option Source :=
  if s.startsWith text then some (s.drop text.length) else none

/-- Whether the rest starts with a word: a text that no name goes on from. -/
def startsWithWord (s : Source) (word : String) : Bool :=
  s.startsWith word && !((s.rest.drop word.length).head?.any isNameChar)

/-- Goes past a word if the rest starts with it. -/
def consumeWord? (s : Source) (word : String) : Option Source :=
  if s.startsWithWord word then some (s.drop word.length) else none

theorem rest_drop (s : Source) (n : Nat) : (s.drop n).rest = s.rest.drop n := rfl

theorem length_rest_drop (s : Source) (n : Nat) :
    (s.drop n).rest.length = s.rest.length - n := by
  simp [rest_drop]

theorem length_rest_skipWhile_le (s : Source) (p : Char → Bool) :
    (s.skipWhile p).rest.length ≤ s.rest.length := by
  simp [skipWhile, length_rest_drop]

/-! ## Bytes -/

/-- The first byte of a character's encoding, shown as the character of that number. -/
def firstByte (c : Char) : Char :=
  let n := c.toNat
  if n < 0x80 then c
  else if n < 0x800 then Char.ofNat (0xc0 + n / 0x40)
  else if n < 0x10000 then Char.ofNat (0xe0 + n / 0x1000)
  else Char.ofNat (0xf0 + n / 0x40000)

/-- Goes past the first byte of the next character. The other bytes of a longer character stay;
no text starts with them, as none starts with the whole character. -/
def dropByte (s : Source) : Source :=
  match s.rest with
  | [] => s
  | c :: rest => ⟨if c.utf8Size = 1 then rest else s.rest, s.position.afterByte c⟩

/-- Fails after the first byte of the next character, of which more may have been wanted. -/
def failAfterByte {α : Type} (s : Source) (fault : Fault) : Except Failure α :=
  if s.rest.isEmpty then s.fail .endOfText else s.dropByte.fail fault

/-! ## Blanks and comments -/

/-- Whether a character separates the parts of a settings text. -/
def isSeparator (c : Char) : Bool :=
  c == ' ' || c == '\t' || c == '\n' || c == '\r'

/-- How long a block comment goes on at the given depth of nesting, its end included. -/
def blockLength? : Nat → List Char → Option Nat
  | _, [] => none
  | depth, '/' :: '*' :: rest => (blockLength? (depth + 1) rest).map (· + 2)
  | depth, '*' :: '/' :: rest =>
    if depth ≤ 1 then some 2 else (blockLength? (depth - 1) rest).map (· + 2)
  | depth, _ :: rest => (blockLength? depth rest).map (· + 1)

/-- Goes past blanks, line comments and block comments. Tells where that ends, and the fault that
ended it if a comment is not one. -/
def passBlank (s : Source) : Source × Option Fault :=
  let t := s.skipWhile isSeparator
  match _h : t.rest with
  | '/' :: '/' :: _ => passBlank ((t.drop 2).skipWhile (· != '\n'))
  | '/' :: '*' :: rest =>
    match blockLength? 1 rest with
    | some n => passBlank (t.drop (n + 2))
    | none => (t.drop t.rest.length, some .unclosedComment)
  | '/' :: c :: _ => ((t.drop 1).dropByte, some (.unexpectedByte (firstByte c)))
  | ['/'] => (t.drop 1, some .endOfText)
  | _ => (t, none)
termination_by s.rest.length
decreasing_by
  · have h₁ := length_rest_skipWhile_le s isSeparator
    have h₂ := length_rest_skipWhile_le ((s.skipWhile isSeparator).drop 2) (· != '\n')
    rw [length_rest_drop] at h₂
    have h₃ : (s.skipWhile isSeparator).rest.length = _ := congrArg List.length _h
    simp only [List.length_cons] at h₃
    omega
  · have h₁ := length_rest_skipWhile_le s isSeparator
    have h₂ : (s.skipWhile isSeparator).rest.length = _ := congrArg List.length _h
    simp only [List.length_cons] at h₂
    rw [length_rest_drop]
    omega

/-- Goes past blanks, line comments and block comments. -/
def skipBlank : Skipper := fun s =>
  match s.passBlank with
  | (t, none) => .ok t
  | (t, some fault) => t.fail fault

/-- Goes past blanks, and past a comma with the blanks after it; tells whether there was one. -/
def skipComma : Reader Bool := fun s => do
  let s ← s.skipBlank
  match s.consume? "," with
  | some s => pure (true, ← s.skipBlank)
  | none => pure (false, s)

/-! ## Sequences -/

/-- Reads what stands before `close` with commas between, folding each item into `acc`. A comma
may follow the last item. `hadComma` says whether an item may come next. -/
def readItems {σ : Type} (close : Char) (item : σ → Reader σ) (acc : σ) (hadComma : Bool)
    (s : Source) : Except Failure (σ × Source) := do
  let t ← s.skipBlank
  match t.rest with
  | [] => t.fail .endOfText
  | c :: _ =>
    if c = close then pure (acc, t)
    else if !hadComma then t.fail .expectedComma
    else
      let (acc, u) ← item acc t
      let (comma, v) ← u.skipComma
      if v.rest.length < s.rest.length then readItems close item acc comma v
      else v.fail .endOfText
termination_by s.rest.length

/-- Goes past a text that must be there. -/
def skipText (text : String) (fault : Fault) : Skipper := fun s =>
  match s.consume? text with
  | some s => .ok s
  | none => s.fail fault

end Source

end TextAdventure.Settings
