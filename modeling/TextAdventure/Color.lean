/-!
# Colour codes

A colour code is six characters, kept as they were written. It names a colour when all six are
hexadecimal digits, two each for red, green and blue; any other code is kept but has no colour.
-/

namespace TextAdventure

/-- The three parts of a colour. -/
structure Rgb where
  red : UInt8
  green : UInt8
  blue : UInt8
deriving DecidableEq, Repr

/-- A colour code: six characters, in the order they were written. -/
structure Color where
  red₁ : Char
  red₀ : Char
  green₁ : Char
  green₀ : Char
  blue₁ : Char
  blue₀ : Char
deriving DecidableEq, Repr

namespace Color

/-- The code of text that no mark has coloured. -/
def white : Color := ⟨'f', 'f', 'f', 'f', 'f', 'f'⟩

/-- The code made of the first six characters, if there are so many. -/
def ofDigits? : List Char → Option Color
  | a :: b :: c :: d :: e :: f :: _ => some ⟨a, b, c, d, e, f⟩
  | _ => none

/-- The six characters. -/
def toList (color : Color) : List Char :=
  [color.red₁, color.red₀, color.green₁, color.green₀, color.blue₁, color.blue₀]

@[simp]
theorem ofDigits?_toList_append (color : Color) (rest : List Char) :
    ofDigits? (color.toList ++ rest) = some color := rfl

/-- There is no code exactly when fewer than six characters are left. -/
theorem ofDigits?_eq_none_iff {digits : List Char} :
    ofDigits? digits = none ↔ digits.length < 6 := by
  obtain _ | ⟨a, _ | ⟨b, _ | ⟨c, _ | ⟨d, _ | ⟨e, _ | ⟨f, rest⟩⟩⟩⟩⟩⟩ := digits <;> simp [ofDigits?]

/-- A code is the characters at the front. -/
theorem eq_append_of_ofDigits? {digits : List Char} {color : Color}
    (h : ofDigits? digits = some color) : ∃ rest, digits = color.toList ++ rest := by
  unfold ofDigits? at h
  split at h
  · rename_i a b c d e f rest
    cases h
    exact ⟨rest, rfl⟩
  · cases h

/-- The value of a hexadecimal digit in either case. -/
def hexValue? (c : Char) : Option Nat :=
  if '0' ≤ c ∧ c ≤ '9' then some (c.toNat - '0'.toNat)
  else if 'a' ≤ c ∧ c ≤ 'f' then some (c.toNat - 'a'.toNat + 10)
  else if 'A' ≤ c ∧ c ≤ 'F' then some (c.toNat - 'A'.toNat + 10)
  else none

/-- The byte written by two hexadecimal digits. -/
def hexByte? (high low : Char) : Option UInt8 := do
  let h ← hexValue? high
  let l ← hexValue? low
  pure (UInt8.ofNat (16 * h + l))

/-- The colour that the code names. -/
def rgb? (color : Color) : Option Rgb := do
  let red ← hexByte? color.red₁ color.red₀
  let green ← hexByte? color.green₁ color.green₀
  let blue ← hexByte? color.blue₁ color.blue₀
  pure ⟨red, green, blue⟩

/-- The written form. -/
def text (color : Color) : String :=
  String.ofList ('#' :: color.toList)

/-- The written form with its kind named. -/
def labelled (color : Color) : String :=
  "Color(" ++ color.text ++ ")"

end Color

end TextAdventure
