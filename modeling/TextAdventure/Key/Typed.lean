import TextAdventure.Key

/-!
# Keys that are sent as one character

A terminal in raw mode sends a printable key as its character, and a few keys and the chords with
control as control characters. An escape before a character stands for the alt key.
-/

namespace TextAdventure.KeyEvent

/-- The event for a single character. The controls are the few keys that have one of their own, and
otherwise a letter or digit with control. -/
def ofTyped (c : Char) : KeyEvent :=
  if c = '\r' then { code := .enter }
  else if c = '\t' then { code := .tab }
  else if c = '\x7f' then { code := .backspace }
  else if c = '\x1b' then { code := .esc }
  else if c = '\x00' then { code := .char ' ', modifiers := .control }
  else if c.toNat ≤ 0x1a then
    { code := .char (Char.ofNat (c.toNat - 1 + 'a'.toNat)), modifiers := .control }
  else if c.toNat ≤ 0x1f then
    { code := .char (Char.ofNat (c.toNat - 0x1c + '4'.toNat)), modifiers := .control }
  else if c.isUpper then { code := .char c, modifiers := .shift }
  else { code := .char c }

/-- The same event with alt held as well. -/
def withAlt (event : KeyEvent) : KeyEvent :=
  { event with modifiers := event.modifiers.union .alt }

end TextAdventure.KeyEvent
