import TextAdventure.Settings.Source
import TextAdventure.Single.Decimal

/-!
# Tokens of a settings text

Names, numbers, strings and characters. A reader that fails before it has gone past anything
fails at the start of its token; the escapes of a string fail right after the byte at fault.
-/

namespace TextAdventure.Settings.Source

/-! ## Names -/

/-- Reads a plain name; it must not go on as a raw one. -/
def readPlainName : Reader String := fun s =>
  let plain := s.rest.takeWhile isNameChar
  let raw := s.rest.takeWhile isRawNameChar
  if plain.length < raw.length then s.fail (.rawName (String.ofList raw))
  else .ok (String.ofList plain, s.drop plain.length)

/-- Reads a name: a plain one, or a raw one after `r#`. What starts a raw string is no name. -/
def readName : Reader String := fun s =>
  match s.rest with
  | [] => s.fail .endOfText
  | 'r' :: [] => s.fail .endOfText
  | 'r' :: '"' :: _ => s.fail .expectedName
  | 'r' :: '#' :: rest =>
    if rest.head?.any isRawNameChar then
      let raw := rest.takeWhile isRawNameChar
      .ok (String.ofList raw, s.drop (raw.length + 2))
    else s.fail .expectedName
  | c :: _ =>
    if isNameStart c then readPlainName s
    else if isRawNameChar c then
      s.fail (.rawName (String.ofList (s.rest.takeWhile isRawNameChar)))
    else s.fail .expectedName

/-! ## Numbers -/

/-- Whether a character can stand in a number with a point or an exponent. -/
def isFloatChar (c : Char) : Bool :=
  c.isDigit || c == 'e' || c == 'E' || c == '.' || c == '+' || c == '-' || c == '_'

/-- Whether a character can stand in a whole number, in any base. -/
def isIntegerChar (c : Char) : Bool :=
  c.isDigit || ('a' ≤ c && c ≤ 'f') || ('A' ≤ c && c ≤ 'F') || c == '_'

/-- The words for what is no finite number. -/
def floatWords : List String := ["inf", "+inf", "-inf", "NaN", "+NaN", "-NaN"]

/-- Reads a number. Underscores are refused where they stand, any other bad number after it. -/
def readFloat : Reader Single := fun s =>
  match floatWords.find? s.startsWithWord with
  | some word => .ok ((Single.parse? word.toList).getD .nan, s.drop word.length)
  | none =>
    let digits := s.rest.takeWhile isFloatChar
    if '_' ∈ digits then (s.skipWhile fun c => isFloatChar c && c != '_').fail .floatUnderscore
    else
      match Single.parse? digits with
      | some x => .ok (x, s.drop digits.length)
      | none => (s.drop digits.length).fail .expectedFloat

/-- The value of a digit in bases up to sixteen. -/
def digitValue (c : Char) : Nat :=
  if c.isDigit then c.toNat - '0'.toNat
  else if 'a' ≤ c ∧ c ≤ 'f' then c.toNat - 'a'.toNat + 10
  else c.toNat - 'A'.toNat + 10

/-- The value of digits in a base, if each is below the base; underscores are passed over. -/
def integerValue? (base : Nat) (digits : List Char) : Option Nat :=
  digits.foldlM
    (fun n c =>
      if c = '_' then some n
      else if digitValue c < base then some (base * n + digitValue c)
      else none) 0

/-- Goes past a sign, if there is one, and tells the largest whole number of 64 bits that may
follow; with a sign it is counted in two's complement. -/
def skipSign (s : Source) : Nat × Source :=
  match s.rest with
  | '-' :: _ => (0x8000000000000000, s.drop 1)
  | '+' :: _ => (0x7fffffffffffffff, s.drop 1)
  | _ => (0xffffffffffffffff, s)

/-- Goes past the mark of a base, if there is one, and tells the base. -/
def skipBase (s : Source) : Nat × Source :=
  match s.rest with
  | '0' :: 'x' :: _ => (16, s.drop 2)
  | '0' :: 'b' :: _ => (2, s.drop 2)
  | '0' :: 'o' :: _ => (8, s.drop 2)
  | _ => (10, s)

/-- A whole number with an optional sign: the source after it, and whether it is one that fits in
64 bits. -/
def skipInteger (s : Source) : Source × Bool :=
  let (limit, s) := s.skipSign
  let (base, s) := s.skipBase
  let digits := s.rest.takeWhile isIntegerChar
  match digits with
  | [] => (s, false)
  | '_' :: _ => (s, false)
  | _ =>
    let fits :=
      match integerValue? base digits with
      | some n => decide (n ≤ limit)
      | none => false
    (s.drop digits.length, fits)

/-- Whether a number has characters that only a point or an exponent explains. -/
def looksLikeFloat (s : Source) : Bool :=
  let digits :=
    match s.rest with
    | '+' :: rest => rest
    | '-' :: rest => rest
    | rest => rest
  (digits.takeWhile isIntegerChar).length < (digits.takeWhile isFloatChar).length

/-- Goes past a number of any kind. What is no whole number is read once more with a point or an
exponent; the columns counted by the first try stay counted. -/
def skipNumber : Skipper := fun s =>
  if s.looksLikeFloat then (·.2) <$> s.readFloat
  else
    match s.skipInteger with
    | (t, true) => .ok t
    | (t, false) => (·.2) <$> readFloat { t with rest := s.rest }

/-! ## Escapes -/

/-- The value of a hexadecimal digit. -/
def hexDigit? (c : Char) : Option Nat :=
  if c.isDigit || ('a' ≤ c && c ≤ 'f') || ('A' ≤ c && c ≤ 'F') then some (digitValue c) else none

/-- Reads one hexadecimal digit. -/
def readHexDigit : Reader Nat := fun s =>
  match s.rest with
  | [] => s.fail .endOfText
  | c :: _ =>
    match hexDigit? c with
    | some n => .ok (n, s.drop 1)
    | none => s.failAfterByte (.escape .notHexadecimal)

/-- Reads up to `count` hexadecimal digits before a closing brace, and tells how many. -/
def readHexDigits (count value read : Nat) : Reader (Nat × Nat) := fun s =>
  match count with
  | 0 => .ok ((value, read), s)
  | count + 1 =>
    match s.rest with
    | '\x7d' :: _ => .ok ((value, read), s)
    | _ => do
      let (digit, s) ← s.readHexDigit
      readHexDigits count (16 * value + digit) (read + 1) s

/-- Goes past one wanted character, failing after the byte found in its place. -/
def expect (wanted : Char) (fault : Fault) : Skipper := fun s =>
  match s.rest with
  | [] => s.fail .endOfText
  | c :: _ => if c = wanted then .ok (s.drop 1) else s.failAfterByte fault

/-- The character with this number, if it is the number of one. -/
def charOfNat? (n : Nat) : Option Char :=
  if n.isValidChar then some (Char.ofNat n) else none

/-- Reads a code point in braces. -/
def readCodePoint : Reader Char := fun s => do
  let s ← s.expect '\x7b' (.escape .noOpeningBrace)
  let ((value, read), s) ← s.readHexDigits 6 0 0
  if read = 0 then s.fail (.escape .noDigits)
  else
    let s ← s.expect '\x7d' (.escape .noClosingBrace)
    match charOfNat? value with
    | some c => pure (c, s)
    | none => s.fail (.escape .noCharacter)

/-- Reads what follows a backslash. -/
def readEscape : Reader Char := fun s =>
  match s.rest with
  | [] => s.fail .endOfText
  | '\'' :: _ => .ok ('\'', s.drop 1)
  | '"' :: _ => .ok ('"', s.drop 1)
  | '\\' :: _ => .ok ('\\', s.drop 1)
  | 'n' :: _ => .ok ('\n', s.drop 1)
  | 'r' :: _ => .ok ('\r', s.drop 1)
  | 't' :: _ => .ok ('\t', s.drop 1)
  | '0' :: _ => .ok ('\x00', s.drop 1)
  | 'x' :: _ => do
    let (high, s) ← (s.drop 1).readHexDigit
    let (low, s) ← s.readHexDigit
    pure (Char.ofNat (16 * high + low), s)
  | 'u' :: _ => (s.drop 1).readCodePoint
  | _ => s.failAfterByte (.escape .unknown)

/-! ## Strings and characters -/

/-- Reads a string after its opening quote, adding to what has been read. Without a closing quote
it fails where its last plain stretch starts. -/
def readQuoted (read : List Char) (s : Source) : Except Failure (String × Source) :=
  let plain := s.rest.takeWhile fun c => c != '"' && c != '\\'
  match s.rest.drop plain.length with
  | [] => s.fail .expectedStringEnd
  | '\\' :: _ =>
    match (s.drop (plain.length + 1)).readEscape with
    | .error e => .error e
    | .ok (c, t) =>
      if t.rest.length < s.rest.length then readQuoted (read ++ plain ++ [c]) t
      else t.fail .endOfText
  | _ => .ok (String.ofList (read ++ plain), s.drop (plain.length + 1))
termination_by s.rest.length

/-- How many characters stand before the first place where a text is found. -/
def indexOf? (text : List Char) : List Char → Option Nat
  | [] => if text = [] then some 0 else none
  | c :: rest =>
    if text.isPrefixOf (c :: rest) then some 0 else (indexOf? text rest).map (· + 1)

/-- Reads a raw string after its `r`: it ends at a quote followed by as many `#` as it had before
its opening quote. -/
def readRawQuoted : Reader String := fun s =>
  let hashes := s.rest.takeWhile (· == '#')
  let s := s.drop hashes.length
  match s.consume? "\"" with
  | none => s.fail .expectedString
  | some s =>
    match indexOf? ('"' :: hashes) s.rest with
    | none => s.fail .expectedStringEnd
    | some n => .ok (String.ofList (s.rest.take n), s.drop (n + 1 + hashes.length))

/-- Reads a string. -/
def readString : Reader String := fun s =>
  match s.consume? "\"" with
  | some s => s.readQuoted []
  | none =>
    match s.consume? "r" with
    | some s => s.readRawQuoted
    | none => s.fail .expectedString

/-- Goes past a character in single quotes. -/
def skipChar : Skipper := fun s =>
  match s.consume? "'" with
  | none => s.fail .expectedChar
  | some s =>
    match s.rest with
    | [] => s.fail .endOfText
    | '\\' :: _ => do
      let (_, s) ← (s.drop 1).readEscape
      s.skipText "'" .expectedChar
    | c :: '\'' :: _ => if c = '\'' then s.fail .expectedChar else .ok (s.drop 2)
    | _ => s.fail .expectedChar

end TextAdventure.Settings.Source
