import TextAdventure.Single.Decimal

/-!
# Shortest decimals

The decimal written for a finite number is taken from the coarsest grid `10 ^ exponent` that has
a point reading back as the number; of the number's two neighbours on that grid the nearer one
that reads back is taken, an exact tie going up. The coarsest grid is the one with the fewest
digits, and the last grid tried, `10 ^ (-149)`, holds every finite number exactly.
-/

namespace TextAdventure.Single

/-- A magnitude in units as a fraction of the grid `10 ^ exponent`. -/
def onGrid (magnitude : Nat) (exponent : Int) : Nat × Nat :=
  if 0 ≤ exponent then (magnitude, unitsPerOne * Nat.pow 10 exponent.toNat)
  else (magnitude * Nat.pow 10 (-exponent).toNat, unitsPerOne)

/-- The coefficient on the grid `10 ^ exponent` that reads back as the positive number of this
magnitude, if one of its two neighbours does. -/
def gridHit? (magnitude : Nat) (exponent : Int) : Option Nat :=
  let (num, den) := onGrid magnitude exponent
  let below := num / den
  let readsBack (coefficient : Nat) : Bool :=
    ofDecimal false coefficient exponent == ofUnits false magnitude
  let order := if 2 * (num % den) < den then [below, below + 1] else [below + 1, below]
  order.find? readsBack

/-- The exponents of the grids, from the coarsest to the one that holds every number. -/
def gridExponents : List Int :=
  (List.range 188).map fun (n : Nat) => (38 : Int) - n

/-- Coefficient and exponent of the shortest decimal of a magnitude in units. -/
def shortest (magnitude : Nat) : Nat × Int :=
  if magnitude = 0 then (0, 0)
  else
    (gridExponents.findSome? fun e => (gridHit? magnitude e).map fun c => (c, e)).getD
      (magnitude * Nat.pow 5 149, -149)

/-- A decimal without an exponent: zeros fill up to the point on either side. -/
def positional (coefficient : Nat) (exponent : Int) : List Char :=
  let digits := Nat.toDigits 10 coefficient
  if 0 ≤ exponent then digits ++ List.replicate exponent.toNat '0'
  else
    let places := (-exponent).toNat
    if places < digits.length then
      digits.take (digits.length - places) ++ '.' :: digits.drop (digits.length - places)
    else
      '0' :: '.' :: List.replicate (places - digits.length) '0' ++ digits

end TextAdventure.Single
