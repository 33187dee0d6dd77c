import TextAdventure.Text.Quoted

/-!
# Faults in a settings text

Why a settings text cannot be read, and the wording of each cause.
-/

namespace TextAdventure.Settings

/-! ## Characters of names -/

/-- Whether a character can start a name. -/
def isNameStart (c : Char) : Bool :=
  c.isAlpha || c == '_'

/-- Whether a character can go on with a name. -/
def isNameChar (c : Char) : Bool :=
  isNameStart c || c.isDigit

/-- Whether a character can stand in a raw name, the kind that is written after `r#`. -/
def isRawNameChar (c : Char) : Bool :=
  isNameChar c || c == '.' || c == '+' || c == '-'

/-- Whether a text is a name as it stands. -/
def isPlainName : List Char → Bool
  | [] => false
  | c :: rest => isNameStart c && rest.all isNameChar

/-! ## Faults -/

/-- What can be wrong with an escape. -/
inductive EscapeFault where
  | unknown
  | notHexadecimal
  | noOpeningBrace
  | noDigits
  | noClosingBrace
  | noCharacter
deriving DecidableEq, Repr

/-- The wording of a fault in an escape. -/
def EscapeFault.message : EscapeFault → String
  | .unknown => "Unknown escape character"
  | .notHexadecimal => "Non-hex digit found"
  | .noOpeningBrace => "Missing \x7b in Unicode escape"
  | .noDigits => "Expected 1-6 digits, got 0 digits in Unicode escape"
  | .noClosingBrace => "No \x7d at the end of Unicode escape"
  | .noCharacter => "Not a valid char"

/-- What can be wrong with a settings text. -/
inductive Fault where
  | endOfText
  | unclosedComment
  | unexpectedByte (byte : Char)
  | trailingText
  | expectedAttribute
  | expectedAttributeEnd
  | unknownExtension (name : String)
  | expectedName
  | rawName (name : String)
  | expectedStruct (name : String)
  | otherStruct (expected found : String)
  | expectedOpening
  | expectedClosing
  | expectedListEnd
  | expectedMapEnd
  | expectedComma
  | expectedColon
  | expectedOption
  | expectedString
  | expectedStringEnd
  | expectedChar
  | expectedFloat
  | floatUnderscore
  | escape (fault : EscapeFault)
  | duplicateField (field structName : String)
  | pairTooShort (found : Nat)
  | tooDeep
deriving DecidableEq, Repr

/-- A name between backticks, with the mark of a raw name if it needs one. -/
def shownName (name : String) : String :=
  if isPlainName name.toList then "`" ++ name ++ "`" else "`r#" ++ name ++ "`"

/-- How many elements were found where two were wanted. -/
def shownCount (found : Nat) : String :=
  if found = 0 then "zero elements" else if found = 1 then "one element" else "two elements"

/-- The wording of a fault. -/
def Fault.message : Fault → String
  | .endOfText => "Unexpected end of RON"
  | .unclosedComment => "Unclosed block comment"
  | .unexpectedByte byte => "Unexpected byte " ++ Text.quotedChar byte
  | .trailingText => "Non-whitespace trailing characters"
  | .expectedAttribute => "Expected an `#![enable(...)]` attribute"
  | .expectedAttributeEnd => "Expected closing `)]` after the enable attribute"
  | .unknownExtension name => "No RON extension named " ++ shownName name
  | .expectedName => "Expected identifier"
  | .rawName name =>
    "Found invalid std identifier `" ++ name ++ "`, try the raw identifier `r#" ++ name ++
      "` instead"
  | .expectedStruct name => "Expected opening `(` for struct " ++ shownName name
  | .otherStruct expected found =>
    "Expected struct " ++ shownName expected ++ " but found " ++ shownName found
  | .expectedOpening => "Expected opening `(`"
  | .expectedClosing => "Expected closing `)`"
  | .expectedListEnd => "Expected closing `]`"
  | .expectedMapEnd => "Expected closing `\x7d`"
  | .expectedComma => "Expected comma"
  | .expectedColon => "Expected colon"
  | .expectedOption => "Expected option"
  | .expectedString => "Expected string"
  | .expectedStringEnd => "Expected end of string"
  | .expectedChar => "Expected char"
  | .expectedFloat => "Expected float"
  | .floatUnderscore => "Unexpected underscore in float"
  | .escape fault => fault.message
  | .duplicateField field structName =>
    "Unexpected duplicate field " ++ shownName field ++ " in " ++ shownName structName
  | .pairTooShort found =>
    "Expected a tuple of size 2 but found " ++ shownCount found ++ " instead"
  | .tooDeep =>
    "Exceeded recursion limit, try increasing the limit and using `serde_stacker` to protect " ++
      "against a stack overflow"

end TextAdventure.Settings
