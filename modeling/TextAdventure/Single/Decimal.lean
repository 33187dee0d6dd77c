import TextAdventure.Single.Basic

/-!
# Reading decimal numbers

`ofDecimal` gives the number nearest to `coefficient * 10 ^ exponent`. `parse?` reads the usual
written form: a sign, digits with at most one point, an exponent; or one of the words `inf`,
`infinity` and `nan` in any mix of cases.
-/

namespace TextAdventure.Single

/-! ## Value of a decimal -/

/-- The number nearest to `coefficient * 10 ^ exponent`, with a sign. The two outer cases only
spare the powers of ten: with the coefficient's digits before the point, a magnitude of
`10 ^ 40` is infinite and one below `10 ^ (-50)` is zero. -/
def ofDecimal (negative : Bool) (coefficient : Nat) (exponent : Int) : Single :=
  let magnitude := ((Nat.toDigits 10 coefficient).length : Int) + exponent
  if coefficient = 0 then zero negative
  else if 40 < magnitude then .infinite negative
  else if magnitude < -50 then zero negative
  else if 0 ≤ exponent then
    ofRatio negative (coefficient * Nat.pow 10 exponent.toNat * unitsPerOne) 1
  else
    ofRatio negative (coefficient * unitsPerOne) (Nat.pow 10 (-exponent).toNat)

/-! ## Written numbers -/

/-- The value of a run of decimal digits. -/
def digitsValue (digits : List Char) : Nat :=
  digits.foldl (fun n c => 10 * n + (c.toNat - '0'.toNat)) 0

/-- What stands before and after the first place where `p` fails. -/
def splitRun (p : Char → Bool) (text : List Char) : List Char × List Char :=
  (text.takeWhile p, text.dropWhile p)

/-- The value of a text that is at least one digit and nothing else. -/
def parseNat? (text : List Char) : Option Nat :=
  if text ≠ [] ∧ text.all Char.isDigit then some (digitsValue text) else none

/-- The exponent after its mark: an optional sign and at least one digit, to the end. -/
def parseExponent? : List Char → Option Int
  | '-' :: rest => (parseNat? rest).map fun n => -(n : Int)
  | '+' :: rest => (parseNat? rest).map fun n => (n : Int)
  | rest => (parseNat? rest).map fun n => (n : Int)

/-- Digits with at most one point and at least one digit, then nothing or an exponent. -/
def parseDigits? (negative : Bool) (text : List Char) : Option Single :=
  let (whole, rest) := splitRun Char.isDigit text
  let (fraction, rest) :=
    match rest with
    | '.' :: rest => splitRun Char.isDigit rest
    | _ => ([], rest)
  let digits := whole ++ fraction
  let value (exponent : Int) :=
    ofDecimal negative (digitsValue digits) (exponent - (fraction.length : Int))
  if digits = [] then none
  else
    match rest with
    | [] => some (value 0)
    | c :: rest => if c = 'e' ∨ c = 'E' then (parseExponent? rest).map value else none

/-- The words for what is no finite number. -/
def parseWord? (negative : Bool) (text : List Char) : Option Single :=
  let word := text.map Char.toLower
  if word = "inf".toList ∨ word = "infinity".toList then some (.infinite negative)
  else if word = "nan".toList then some .nan
  else none

/-- A written number without its sign. -/
def parseUnsigned? (negative : Bool) (text : List Char) : Option Single :=
  (parseDigits? negative text).or (parseWord? negative text)

/-- A written number. -/
def parse? : List Char → Option Single
  | '-' :: rest => parseUnsigned? true rest
  | '+' :: rest => parseUnsigned? false rest
  | text => parseUnsigned? false text

end TextAdventure.Single
