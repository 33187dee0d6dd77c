/-!
# Sets of characters as ranges

A set of characters is given as an increasing list of ranges of code points, both ends included.
-/

namespace TextAdventure.Text

/-- Whether a character's code point lies in one of the ranges. -/
def inRanges (ranges : List (Nat × Nat)) (c : Char) : Bool :=
  ranges.any fun (first, last) => first ≤ c.toNat && c.toNat ≤ last

/-- What holds of every character below a bound can be checked code point by code point. -/
theorem of_toNat_lt {P : Char → Prop} {bound : Nat} (h : ∀ n < bound, P (Char.ofNat n)) {c : Char}
    (hc : c.toNat < bound) : P c := by
  have hP := h c.toNat hc
  rwa [Char.ofNat_toNat] at hP

end TextAdventure.Text
