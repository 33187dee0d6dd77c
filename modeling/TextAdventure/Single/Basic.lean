/-!
# Single-precision numbers

Coordinates and sizes are IEEE 754 binary32 numbers. A finite number is kept as its three
fields, sign, exponent and fraction, so that two values are equal exactly when they have the
same bits; there is one `nan`.

Every finite magnitude is a whole number of *units*, a unit being the smallest positive number
`2 ^ (-149)`. Arithmetic is therefore exact arithmetic on `Nat` and `Int`, followed by one
rounding: to 24 significant bits, to nearest, a tie going to the even neighbour
(`roundUnits`). Everything that rounds goes through `ofRatio`.
-/

namespace TextAdventure

/-- A binary32 number. The exponent field 0 is that of zero and the subnormal numbers, the field
255 is taken by `nan` and `infinite`. -/
inductive Single where
  | nan
  | infinite (negative : Bool)
  | finite (negative : Bool) (exponent : Fin 255) (fraction : Fin 8388608)
deriving DecidableEq, Repr

namespace Single

/-! ## Units -/

/-- How many units make `1`. -/
def unitsPerOne : Nat := Nat.pow 2 149

/-- The magnitude, in units, of a finite number with these two fields. -/
def units (exponent : Fin 255) (fraction : Fin 8388608) : Nat :=
  if exponent.val = 0 then fraction.val
  else (8388608 + fraction.val) * Nat.pow 2 (exponent.val - 1)

/-- A magnitude with its sign. -/
def signed (negative : Bool) (magnitude : Nat) : Int :=
  if negative then -(magnitude : Int) else magnitude

/-- The number with this magnitude in units; one too large for the format is infinite. Bits below
the 24 leading ones are cut off, so the magnitude is rounded first. -/
def ofUnits (negative : Bool) (magnitude : Nat) : Single :=
  if magnitude < 8388608 then
    .finite negative 0 (Fin.ofNat _ magnitude)
  else
    let shift := magnitude.log2 - 23
    if h : shift + 1 < 255 then
      .finite negative ⟨shift + 1, h⟩ (Fin.ofNat _ (magnitude / Nat.pow 2 shift - 8388608))
    else
      .infinite negative

/-! ## Rounding -/

/-- The quotient rounded to the nearest whole number, a tie going to the even one. -/
def divNearestEven (num den : Nat) : Nat :=
  let quotient := num / den
  let twice := 2 * (num % den)
  if twice < den then quotient
  else if den < twice then quotient + 1
  else quotient + quotient % 2

/-- The quotient of two magnitudes, in units, rounded to 24 significant bits. -/
def roundUnits (num den : Nat) : Nat :=
  let shift := (num / den).log2 - 23
  divNearestEven num (den * Nat.pow 2 shift) * Nat.pow 2 shift

/-- The number nearest to `num / den` units. -/
def ofRatio (negative : Bool) (num den : Nat) : Single :=
  ofUnits negative (roundUnits num den)

/-- The number nearest to a count. -/
def ofNat (n : Nat) : Single :=
  ofRatio false (n * unitsPerOne) 1

instance (n : Nat) : OfNat Single n where
  ofNat := Single.ofNat n

/-! ## Arithmetic -/

/-- Zero with a sign. -/
def zero (negative : Bool) : Single :=
  .finite negative 0 0

/-- The number with the other sign. -/
def neg : Single → Single
  | .nan => .nan
  | .infinite s => .infinite (!s)
  | .finite s e f => .finite (!s) e f

/-- The rounded sum. A sum of exactly nothing is positive unless both summands are negative. -/
def add : Single → Single → Single
  | .nan, _ => .nan
  | _, .nan => .nan
  | .infinite s, .infinite t => if s = t then .infinite s else .nan
  | .infinite s, .finite _ _ _ => .infinite s
  | .finite _ _ _, .infinite t => .infinite t
  | .finite s e f, .finite t g h =>
    let sum := signed s (units e f) + signed t (units g h)
    if sum = 0 then zero (s && t) else ofRatio (decide (sum < 0)) sum.natAbs 1

/-- The rounded difference. -/
def sub (x y : Single) : Single :=
  add x (neg y)

/-- The rounded product. -/
def mul : Single → Single → Single
  | .nan, _ => .nan
  | _, .nan => .nan
  | .infinite s, .infinite t => .infinite (s != t)
  | .infinite s, .finite t g h => if units g h = 0 then .nan else .infinite (s != t)
  | .finite s e f, .infinite t => if units e f = 0 then .nan else .infinite (s != t)
  | .finite s e f, .finite t g h => ofRatio (s != t) (units e f * units g h) unitsPerOne

/-- The rounded quotient. -/
def div : Single → Single → Single
  | .nan, _ => .nan
  | _, .nan => .nan
  | .infinite _, .infinite _ => .nan
  | .infinite s, .finite t _ _ => .infinite (s != t)
  | .finite s _ _, .infinite t => zero (s != t)
  | .finite s e f, .finite t g h =>
    if units g h = 0 then
      if units e f = 0 then .nan else .infinite (s != t)
    else
      ofRatio (s != t) (units e f * unitsPerOne) (units g h)

instance : Neg Single := ⟨neg⟩
instance : Add Single := ⟨add⟩
instance : Sub Single := ⟨sub⟩
instance : Mul Single := ⟨mul⟩
instance : Div Single := ⟨div⟩

/-! ## Order -/

/-- The place of a number on the line, in units, with the infinities beyond every finite number;
`nan` has none. -/
def place : Single → Option Int
  | .nan => none
  | .infinite s => some (signed s (Nat.pow 2 277))
  | .finite s e f => some (signed s (units e f))

/-- Whether one number is at most another; never with `nan`, and the two zeros are equal. -/
def atMost (x y : Single) : Bool :=
  match x.place, y.place with
  | some a, some b => decide (a ≤ b)
  | _, _ => false

/-- Whether two numbers have the same value: `nan` has none, and the two zeros are equal. -/
def sameValue (x y : Single) : Bool :=
  match x.place, y.place with
  | some a, some b => decide (a = b)
  | _, _ => false

/-! ## Whole numbers -/

/-- The nearest whole number, a half going away from zero, held between `0` and `limit`; `nan`
gives `0`. -/
def nearestNat (limit : Nat) : Single → Nat
  | .nan => 0
  | .infinite true => 0
  | .infinite false => limit
  | .finite true _ _ => 0
  | .finite false e f => min limit ((units e f + unitsPerOne / 2) / unitsPerOne)

/-! ## Bits -/

/-- The 32 bits of a number, as a count; `nan` is the quiet one without a sign. -/
def toBits : Single → Nat
  | .nan => 0x7fc00000
  | .infinite s => s.toNat * 0x80000000 + 0x7f800000
  | .finite s e f => s.toNat * 0x80000000 + e.val * 0x800000 + f.val

/-- The number with these 32 bits. -/
def ofBits (bits : Nat) : Single :=
  let negative := bits / 0x80000000 % 2 == 1
  let exponent := bits / 0x800000 % 256
  let fraction := Fin.ofNat 8388608 bits
  if h : exponent < 255 then .finite negative ⟨exponent, h⟩ fraction
  else if fraction.val = 0 then .infinite negative
  else .nan

/-! ## Examples -/

example : (1 : Single) = .finite false 127 0 := by decide +kernel
example : (ofNat 16777217) = 16777216 := by decide +kernel
example : (3 : Single) / 2 * 2 = 3 := by decide +kernel
example : (1 : Single) - 1 = zero false := by decide +kernel
example : nearestNat 65535 ((5 : Single) / 2) = 3 := by decide +kernel
example : ofBits (toBits 72) = 72 := by decide +kernel

end Single

end TextAdventure
