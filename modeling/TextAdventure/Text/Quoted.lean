import TextAdventure.Text.Extender
import TextAdventure.Text.Printable

/-!
# Quoted text

A character is written either as itself or as an escape that starts with a backslash: the short
escapes for the usual controls, and `u` with a hexadecimal code point in braces for whatever
would not show or would join the character before it. Which of the two quotes is escaped depends
on what encloses the text.
-/

namespace TextAdventure.Text

/-- Which quotes are escaped. -/
structure QuoteRule where
  single : Bool
  double : Bool
deriving DecidableEq, Repr

/-- Inside double quotes. -/
def QuoteRule.inDouble : QuoteRule := ⟨false, true⟩

/-- Inside single quotes. -/
def QuoteRule.inSingle : QuoteRule := ⟨true, false⟩

/-- Text that can stand inside either. -/
def QuoteRule.both : QuoteRule := ⟨true, true⟩

/-- The escape by code point. -/
def codeEscape (c : Char) : List Char :=
  '\\' :: 'u' :: '\x7b' :: Nat.toDigits 16 c.toNat ++ ['\x7d']

/-- How one character is written. -/
def escapeChar (rule : QuoteRule) (c : Char) : List Char :=
  if c = '\x00' then ['\\', '0']
  else if c = '\t' then ['\\', 't']
  else if c = '\r' then ['\\', 'r']
  else if c = '\n' then ['\\', 'n']
  else if c = '\\' then ['\\', '\\']
  else if c = '"' then if rule.double then ['\\', '"'] else ['"']
  else if c = '\'' then if rule.single then ['\\', '\''] else ['\'']
  else if isExtender c || !isPrintable c then codeEscape c
  else [c]

/-- How a text is written, character by character. -/
def escape (rule : QuoteRule) (text : List Char) : List Char :=
  text.flatMap (escapeChar rule)

/-- A text in double quotes. -/
def quoted (text : String) : String :=
  String.ofList ('"' :: escape .inDouble text.toList ++ ['"'])

/-- A character in single quotes. -/
def quotedChar (c : Char) : String :=
  String.ofList ('\'' :: escapeChar .inSingle c ++ ['\''])

/-- Texts in double quotes between square brackets. -/
def quotedList (texts : List String) : String :=
  "[" ++ ", ".intercalate (texts.map quoted) ++ "]"

end TextAdventure.Text
