import TextAdventure.Text.Ranges

/-!
# Blank characters

The characters that leave the page empty: the Unicode property `White_Space`.
-/

namespace TextAdventure.Text

/-- The code points with the property, in increasing order. -/
def blankRanges : List (Nat × Nat) := [
    (0x9, 0xd), (0x20, 0x20), (0x85, 0x85), (0xa0, 0xa0), (0x1680, 0x1680), (0x2000, 0x200a),
    (0x2028, 0x2029), (0x202f, 0x202f), (0x205f, 0x205f), (0x3000, 0x3000)]

/-- Whether a character leaves the page empty. -/
def isBlank (c : Char) : Bool :=
  inRanges blankRanges c

example : isBlank ' ' ∧ isBlank '\n' ∧ isBlank '\u00a0' ∧ ¬ isBlank '\u200b' := by decide

end TextAdventure.Text
