import TextAdventure.Key

/-!
# Keys that are sent as a sequence

A key without a character is sent as a sequence that starts with an escape and a bracket and ends
with a letter or a tilde. Between them may stand numbers with semicolons between: which key it is,
and then the modifiers held, with the action after a colon.
-/

namespace TextAdventure.KeyEvent

/-! ## Numbers -/

/-- The number that a part of a sequence writes, if it is below `limit`. -/
def number? (limit : Nat) (part : String) : Option Nat :=
  let digits :=
    match part.toList with
    | '+' :: rest => rest
    | chars => chars
  if digits.isEmpty || !digits.all Char.isDigit then none
  else
    let n := digits.foldl (fun n c => 10 * n + (c.toNat - '0'.toNat)) 0
    if n < limit then some n else none

/-- The value of each modifier in a sequence, and its bit. -/
def modifierValues : List (Nat × UInt8) :=
  [(1, 1), (2, 4), (4, 2), (8, 8), (16, 16), (32, 32)]

/-- The modifiers that a number stands for: one more than the sum of their values. -/
def modifiersOf (number : Nat) : Modifiers :=
  let held := modifierValues.filter fun (value, _) => (number - 1) / value % 2 == 1
  held.foldl (fun modifiers (_, bit) => modifiers.union ⟨bit⟩) {}

/-- The modifiers and the action in a part of a sequence. Without an action the key is pressed. -/
def chord? (part : String) : Option (Modifiers × KeyAction) := do
  let fields := part.splitOn ":"
  let modifiers ← number? 256 (fields.headD "")
  let action : KeyAction :=
    match fields[1]?.bind (number? 256) with
    | some 2 => .repeat
    | some 3 => .release
    | _ => .press
  pure (modifiersOf modifiers, action)

/-! ## Keys -/

/-- The key that a letter stands for. -/
def letterKey? (letter : Char) : Option KeyCode :=
  [('A', .up), ('B', .down), ('C', .right), ('D', .left), ('F', KeyCode.toEnd), ('H', .home),
    ('P', .function 1), ('Q', .function 2), ('R', .function 3), ('S', .function 4)].lookup letter

/-- The key that a number before a tilde stands for. -/
def numberedKey? (n : Nat) : Option KeyCode :=
  if n = 1 ∨ n = 7 then some .home
  else if n = 2 then some .insert
  else if n = 3 then some .delete
  else if n = 4 ∨ n = 8 then some .toEnd
  else if n = 5 then some .pageUp
  else if n = 6 then some .pageDown
  else if 11 ≤ n ∧ n ≤ 15 then some (.function (n - 10))
  else if 17 ≤ n ∧ n ≤ 21 then some (.function (n - 11))
  else if 23 ≤ n ∧ n ≤ 26 then some (.function (n - 12))
  else if 28 ≤ n ∧ n ≤ 29 then some (.function (n - 15))
  else if 31 ≤ n ∧ n ≤ 34 then some (.function (n - 17))
  else none

/-- The first number of a key that has no character, when keys are sent by their code points. -/
def firstCode : Nat := 57358

/-- The keys with the numbers from `firstCode` on; some numbers have no key. -/
def codedKeys : List (Option KeyCode) :=
  let locks : List KeyCode := [.capsLock, .scrollLock, .numLock, .printScreen, .pause, .menu]
  let functions : List KeyCode := (List.range 23).map fun n => .function (n + 13)
  let keypad : List KeyCode :=
    "0123456789./*-+".toList.map KeyCode.char ++ [.enter, .char '=', .char ',', .left, .right, .up,
      .down, .pageUp, .pageDown, .home, .toEnd, .insert, .delete, .keypadBegin]
  let media : List MediaKey := [.play, .pause, .playPause, .reverse, .stop, .fastForward, .rewind,
    .trackNext, .trackPrevious, .record, .lowerVolume, .raiseVolume, .muteVolume]
  let modifiers : List ModifierKey := [.leftShift, .leftControl, .leftAlt, .leftSuper, .leftHyper,
    .leftMeta, .rightShift, .rightControl, .rightAlt, .rightSuper, .rightHyper, .rightMeta,
    .isoLevel3Shift, .isoLevel5Shift]
  locks.map some ++ List.replicate 12 none ++
    (functions ++ keypad ++ media.map KeyCode.media ++ modifiers.map KeyCode.modifier).map some

/-- The key of a character. -/
def charKey (modifiers : Modifiers) (c : Char) : KeyCode :=
  if c = '\x1b' then .esc
  else if c = '\r' then .enter
  else if c = '\t' then if modifiers.contains .shift then .backTab else .tab
  else if c = '\x7f' then .backspace
  else .char c

/-- The character with this number, if it is the number of one. -/
def codePoint? (n : Nat) : Option Char :=
  if n.isValidChar then some (Char.ofNat n) else none

/-- The key with a code point. -/
def codedKey? (modifiers : Modifiers) (n : Nat) : Option KeyCode :=
  if firstCode ≤ n ∧ (codedKeys[n - firstCode]?.join).isSome then codedKeys[n - firstCode]?.join
  else (codePoint? n).map (charKey modifiers)

/-! ## Sequences -/

/-- A sequence that ends with a letter: the letter is the key. Without a part for the modifiers, the
last digit tells them. -/
def ofLetter? (body : List Char) (letter : Char) : Option KeyEvent := do
  let (modifiers, action) ←
    match ((String.ofList body).splitOn ";")[1]?.bind chord? with
    | some chord => some chord
    | none => do
      let digit ← number? 10 (String.ofList (body.getLast?.toList.filter Char.isDigit))
      pure (modifiersOf digit, KeyAction.press)
  pure { code := ← letterKey? letter, modifiers, action }

/-- A sequence that ends with a tilde: the first number is the key. -/
def ofNumber? (body : List Char) : Option KeyEvent := do
  let parts := (String.ofList body).splitOn ";"
  let n ← number? 256 (parts.headD "")
  let (modifiers, action) := (parts[1]?.bind chord?).getD ({}, .press)
  pure { code := ← numberedKey? n, modifiers, action }

/-- A sequence that ends with `u`: the first number is the code point of the key. With shift, a
second code point after a colon is the character that shift makes of it. -/
def ofCode? (body : List Char) : Option KeyEvent := do
  let parts := (String.ofList body).splitOn ";"
  let codes := (parts.headD "").splitOn ":"
  let limit := 0x100000000
  let n ← number? limit (codes.headD "")
  let (modifiers, action) := (parts[1]?.bind chord?).getD ({}, .press)
  let code ← codedKey? modifiers n
  match codes[1]?.bind (number? limit) |>.bind codePoint? with
  | some shifted =>
    if modifiers.contains .shift then
      pure { code := .char shifted, modifiers := ⟨modifiers.bits &&& 0xfe⟩, action }
    else pure { code, modifiers, action }
  | none => pure { code, modifiers, action }

end TextAdventure.KeyEvent
