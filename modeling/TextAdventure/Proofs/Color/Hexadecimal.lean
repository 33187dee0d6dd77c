import TextAdventure.Color
import TextAdventure.Text.Ranges

/-!
# Colour codes in hexadecimal

A code names a colour exactly when its six characters are hexadecimal digits, and then each part of
the colour is the byte that two of them write. A byte is written in one way only, but for the case
of its letters. So a code and the colour that it names determine each other up to case
(`rgb?_eq_some_iff_digits`), and this is what reading, writing and comparing codes come down to.
-/

namespace TextAdventure

namespace Color

/-! ## Digits -/

/-- The hexadecimal digits in small letters, each at the place of its value. -/
def hexDigits : List Char := "0123456789abcdef".toList

/-- The value of a hexadecimal digit. A capital has the value of its small letter. -/
def digitValue (c : Char) : Nat :=
  hexDigits.idxOf c.toLower

theorem isHexDigit_iff (c : Char) :
    c.isHexDigit = true ↔ ('0' ≤ c ∧ c ≤ '9') ∨ ('a' ≤ c ∧ c ≤ 'f') ∨ ('A' ≤ c ∧ c ≤ 'F') := by
  simp [Char.isHexDigit, Char.isDigit, Char.le_def, or_assoc]

/-- What holds of the hexadecimal digits among the ASCII characters holds of all. -/
theorem of_isHexDigit {P : Char → Prop}
    (hascii : ∀ n < 128, (Char.ofNat n).isHexDigit = true → P (Char.ofNat n)) {c : Char}
    (h : c.isHexDigit = true) : P c := by
  have hc : c.toNat < 128 := by
    rcases (isHexDigit_iff c).mp h with ⟨-, hc⟩ | ⟨-, hc⟩ | ⟨-, hc⟩
    · exact Nat.lt_of_le_of_lt hc (by decide)
    · exact Nat.lt_of_le_of_lt hc (by decide)
    · exact Nat.lt_of_le_of_lt hc (by decide)
  exact Text.of_toNat_lt (P := fun c => c.isHexDigit = true → P c) hascii hc h

theorem digitValue_lt {c : Char} (h : c.isHexDigit = true) : digitValue c < 16 :=
  of_isHexDigit (P := fun c => digitValue c < 16) (by decide) h

theorem digitChar_digitValue {c : Char} (h : c.isHexDigit = true) :
    (digitValue c).digitChar = c.toLower :=
  of_isHexDigit (P := fun c => (digitValue c).digitChar = c.toLower) (by decide) h

/-- Only ASCII characters have a small letter of their own, so no other becomes a digit. -/
theorem isHexDigit_of_toLower {c : Char} (h : c.toLower.isHexDigit = true) :
    c.isHexDigit = true := by
  by_cases hc : c.toNat < 128
  · exact Text.of_toNat_lt (P := fun c => c.toLower.isHexDigit = true → c.isHexDigit = true)
      (by decide) hc h
  · have hsame : c.toLower = c :=
      dif_neg fun hupper => hc (Nat.lt_of_le_of_lt hupper.2 (by decide))
    rwa [hsame] at h

/-- The digits of a value are those whose small letter is the one that the library writes for it. -/
theorem toLower_eq_digitChar_iff {c : Char} {n : Nat} (hn : n < 16) :
    c.toLower = n.digitChar ↔ c.isHexDigit = true ∧ digitValue c = n := by
  constructor
  · intro hlower
    have hwritten : ∀ m < 16, m.digitChar.isHexDigit = true ∧ hexDigits.idxOf m.digitChar = m := by
      decide
    rw [digitValue, hlower]
    exact ⟨isHexDigit_of_toLower (hlower ▸ (hwritten n hn).1), (hwritten n hn).2⟩
  · rintro ⟨hdigit, rfl⟩
    exact (digitChar_digitValue hdigit).symm

theorem hexValue?_of_isHexDigit {c : Char} (h : c.isHexDigit = true) :
    hexValue? c = some (digitValue c) :=
  of_isHexDigit (P := fun c => hexValue? c = some (digitValue c)) (by decide) h

theorem isHexDigit_of_hexValue? {c : Char} {n : Nat} (h : hexValue? c = some n) :
    c.isHexDigit = true := by
  rw [isHexDigit_iff]
  unfold hexValue? at h
  split at h
  · exact .inl ‹_›
  · split at h
    · exact .inr (.inl ‹_›)
    · split at h
      · exact .inr (.inr ‹_›)
      · cases h

theorem hexValue?_eq_some_iff {c : Char} {n : Nat} :
    hexValue? c = some n ↔ c.isHexDigit = true ∧ digitValue c = n := by
  constructor
  · intro h
    have hdigit := isHexDigit_of_hexValue? h
    rw [hexValue?_of_isHexDigit hdigit, Option.some_inj] at h
    exact ⟨hdigit, h⟩
  · rintro ⟨hdigit, rfl⟩
    exact hexValue?_of_isHexDigit hdigit

/-! ## Bytes -/

/-- Two digits write the byte that is 16 times the first and the second. -/
structure Writes (high low : Char) (byte : UInt8) : Prop where
  isHexDigit_high : high.isHexDigit = true
  isHexDigit_low : low.isHexDigit = true
  toNat_eq : byte.toNat = 16 * digitValue high + digitValue low

/-- The two digits of a byte, in small letters. -/
def byteDigits (byte : UInt8) : List Char :=
  [(byte.toNat / 16).digitChar, (byte.toNat % 16).digitChar]

/-- Two digits are never too much for a byte. -/
theorem writes_ofNat {high low : Char} (hhigh : high.isHexDigit = true)
    (hlow : low.isHexDigit = true) :
    Writes high low (UInt8.ofNat (16 * digitValue high + digitValue low)) where
  isHexDigit_high := hhigh
  isHexDigit_low := hlow
  toNat_eq := by
    have hhigh := digitValue_lt hhigh
    have hlow := digitValue_lt hlow
    rw [UInt8.toNat_ofNat']
    omega

theorem hexByte?_eq_some_iff {high low : Char} {byte : UInt8} :
    hexByte? high low = some byte ↔ Writes high low byte := by
  constructor
  · intro h
    obtain ⟨m, hm, h⟩ := Option.bind_eq_some_iff.mp h
    obtain ⟨n, hn, h⟩ := Option.bind_eq_some_iff.mp h
    obtain ⟨hhigh, rfl⟩ := hexValue?_eq_some_iff.mp hm
    obtain ⟨hlow, rfl⟩ := hexValue?_eq_some_iff.mp hn
    cases h
    exact writes_ofNat hhigh hlow
  · intro h
    have hbyte : byte = UInt8.ofNat (16 * digitValue high + digitValue low) := by
      rw [← h.toNat_eq, UInt8.ofNat_toNat]
    rw [hexByte?, hexValue?_of_isHexDigit h.isHexDigit_high,
      hexValue?_of_isHexDigit h.isHexDigit_low, hbyte]
    rfl

/-- **A byte is written in one way**, up to the case of its digits. -/
theorem writes_iff {high low : Char} {byte : UInt8} :
    Writes high low byte ↔ [high, low].map Char.toLower = byteDigits byte := by
  have hbyte := byte.toNat_lt
  have hhigh := toLower_eq_digitChar_iff (c := high) (show byte.toNat / 16 < 16 by omega)
  have hlow := toLower_eq_digitChar_iff (c := low) (show byte.toNat % 16 < 16 by omega)
  simp only [List.map_cons, List.map_nil, byteDigits, List.cons.injEq, and_true, hhigh, hlow]
  constructor
  · intro h
    -- the second digit is less than sixteen, so the two values are quotient and remainder
    have hlt := digitValue_lt h.isHexDigit_low
    have hsum := h.toNat_eq
    exact ⟨⟨h.isHexDigit_high, by omega⟩, h.isHexDigit_low, by omega⟩
  · rintro ⟨⟨hdigit, hvalue⟩, hdigit', hvalue'⟩
    exact ⟨hdigit, hdigit', by omega⟩

/-! ## Colours -/

theorem rgb?_eq_some_iff {color : Color} {rgb : Rgb} :
    color.rgb? = some rgb ↔
      Writes color.red₁ color.red₀ rgb.red ∧ Writes color.green₁ color.green₀ rgb.green ∧
        Writes color.blue₁ color.blue₀ rgb.blue := by
  constructor
  · intro h
    obtain ⟨red, hred, h⟩ := Option.bind_eq_some_iff.mp h
    obtain ⟨green, hgreen, h⟩ := Option.bind_eq_some_iff.mp h
    obtain ⟨blue, hblue, h⟩ := Option.bind_eq_some_iff.mp h
    cases h
    exact ⟨hexByte?_eq_some_iff.mp hred, hexByte?_eq_some_iff.mp hgreen,
      hexByte?_eq_some_iff.mp hblue⟩
  · rintro ⟨hred, hgreen, hblue⟩
    rw [rgb?, hexByte?_eq_some_iff.mpr hred, hexByte?_eq_some_iff.mpr hgreen,
      hexByte?_eq_some_iff.mpr hblue]
    rfl

theorem isSome_rgb?_iff {color : Color} :
    color.rgb?.isSome = true ↔ ∀ c ∈ color.toList, c.isHexDigit = true := by
  rw [Option.isSome_iff_exists]
  constructor
  · rintro ⟨rgb, h⟩
    obtain ⟨hred, hgreen, hblue⟩ := rgb?_eq_some_iff.mp h
    simp only [toList, List.forall_mem_cons]
    exact ⟨hred.isHexDigit_high, hred.isHexDigit_low, hgreen.isHexDigit_high,
      hgreen.isHexDigit_low, hblue.isHexDigit_high, hblue.isHexDigit_low, by simp⟩
  · intro h
    simp only [toList, List.forall_mem_cons] at h
    obtain ⟨hred₁, hred₀, hgreen₁, hgreen₀, hblue₁, hblue₀, -⟩ := h
    exact ⟨⟨_, _, _⟩, rgb?_eq_some_iff.mpr
      ⟨writes_ofNat hred₁ hred₀, writes_ofNat hgreen₁ hgreen₀, writes_ofNat hblue₁ hblue₀⟩⟩

/-- The last digit is full-width, and so none. -/
example : rgb? ⟨'1', '2', '3', '4', '5', '６'⟩ = none := by decide

end Color

/-- The six digits of a colour, in small letters. -/
def Rgb.digits (rgb : Rgb) : List Char :=
  Color.byteDigits rgb.red ++ Color.byteDigits rgb.green ++ Color.byteDigits rgb.blue

namespace Color

/-- **A code and its colour determine each other**, up to the case of the digits. -/
theorem rgb?_eq_some_iff_digits {color : Color} {rgb : Rgb} :
    color.rgb? = some rgb ↔ color.toList.map Char.toLower = rgb.digits := by
  simp only [rgb?_eq_some_iff, writes_iff, toList, Rgb.digits, byteDigits, List.map_cons,
    List.map_nil, List.cons_append, List.nil_append, List.cons.injEq, and_true, and_assoc]

theorem rgb?_eq_iff {color other : Color} (hcolor : color.rgb?.isSome = true)
    (hother : other.rgb?.isSome = true) :
    color.rgb? = other.rgb?
      ↔ color.toList.map Char.toLower = other.toList.map Char.toLower := by
  obtain ⟨rgb, hcolor⟩ := Option.isSome_iff_exists.mp hcolor
  obtain ⟨rgb', hother⟩ := Option.isSome_iff_exists.mp hother
  rw [hother, rgb?_eq_some_iff_digits, rgb?_eq_some_iff_digits.mp hother]

/-! ## Texts -/

theorem map_toList_ofDigits? (digits : List Char) :
    (ofDigits? digits).map toList = if 6 ≤ digits.length then some (digits.take 6) else none := by
  cases h : ofDigits? digits with
  | none =>
      rw [if_neg (by have := ofDigits?_eq_none_iff.mp h; omega)]
      rfl
  | some color =>
      obtain ⟨rest, rfl⟩ := eq_append_of_ofDigits? h
      simp [toList]

theorem rgb?_ofDigits?_iff {digits : List Char} {rgb : Rgb} :
    (ofDigits? digits).bind rgb? = some rgb ↔ (digits.take 6).map Char.toLower = rgb.digits := by
  cases h : ofDigits? digits with
  | none =>
      -- a colour has six digits, which are more than there are
      have hshort := ofDigits?_eq_none_iff.mp h
      refine ⟨nofun, fun hdigits => ?_⟩
      have hlength := congrArg List.length hdigits
      simp [Rgb.digits, byteDigits] at hlength
      omega
  | some color =>
      obtain ⟨rest, rfl⟩ := eq_append_of_ofDigits? h
      have htake : (color.toList ++ rest).take 6 = color.toList := List.take_left' rfl
      rw [Option.bind_some, rgb?_eq_some_iff_digits, htake]

theorem text_eq_append (color : Color) : color.text = "#" ++ String.ofList color.toList := by
  rw [text, String.ofList_cons]
  rfl

/-- **Colour codes are hexadecimal and nothing else.** A code has a colour exactly when all six
characters are digits, and each part is then 16 times its first digit and the second, with nothing
cut off. Of a text the first six characters are kept as they are, so a code can be read off its
written form. A text is read as a colour exactly when it starts with the digits of that colour, in
whatever case. Two codes with a colour have the same one exactly when they differ in case at
most. -/
theorem codes_are_hexadecimal (color other : Color) (rgb : Rgb) (text : String) :
    (color.rgb?.isSome = true ↔ ∀ c ∈ color.toList, c.isHexDigit = true) ∧
    (color.rgb? = some rgb ↔
      Writes color.red₁ color.red₀ rgb.red ∧ Writes color.green₁ color.green₀ rgb.green ∧
        Writes color.blue₁ color.blue₀ rgb.blue) ∧
    ((ofDigits? text.toList).map toList
      = if 6 ≤ text.length then some (text.toList.take 6) else none) ∧
    (∃ digits : String, color.text = "#" ++ digits ∧ ofDigits? digits.toList = some color) ∧
    ((ofDigits? text.toList).bind rgb? = some rgb ↔
      (text.toList.take 6).map Char.toLower = rgb.digits) ∧
    (color.rgb?.isSome = true → other.rgb?.isSome = true →
      (color.rgb? = other.rgb? ↔
        color.toList.map Char.toLower = other.toList.map Char.toLower)) := by
  refine ⟨isSome_rgb?_iff, rgb?_eq_some_iff, map_toList_ofDigits? text.toList, ?_,
    rgb?_ofDigits?_iff, rgb?_eq_iff⟩
  refine ⟨String.ofList color.toList, text_eq_append color, ?_⟩
  rw [String.toList_ofList]
  exact ofDigits?_toList_append color []

/-- Two spellings of one colour, with the case of every letter changed. -/
def mixedCode : Color := ⟨'0', 'A', '1', 'b', '2', 'C'⟩

def swappedCode : Color := ⟨'0', 'a', '1', 'B', '2', 'c'⟩

theorem mixedCode_is_hexadecimal :
    mixedCode.rgb?.isSome = true ∧ swappedCode.rgb?.isSome = true ∧
      mixedCode.rgb? = swappedCode.rgb? ∧
      (ofDigits? "0A1b2C@".toList).bind rgb? = some ⟨10, 27, 44⟩ := by
  obtain ⟨hmixed, -, -, -, hread, hsame⟩ :=
    codes_are_hexadecimal mixedCode swappedCode ⟨10, 27, 44⟩ "0A1b2C@"
  have hsome : mixedCode.rgb?.isSome = true := hmixed.mpr (List.all_eq_true.mp (by decide))
  have hswapped : swappedCode.rgb?.isSome = true := by decide
  exact ⟨hsome, hswapped, (hsame hsome hswapped).mpr (by decide), hread.mpr (by decide)⟩

end Color

end TextAdventure
