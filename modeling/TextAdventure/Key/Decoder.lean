import TextAdventure.Key.Sequence
import TextAdventure.Key.Typed

/-!
# Decoding what a terminal sends

A terminal sends text, from which its events are decoded character by character. A character is
the event of its key, and an escape starts a sequence, or stands for alt before a character. An
escape after which nothing has arrived yet is the key itself. What no event starts with is dropped.

A decoder keeps what has been read of an event that goes on, so that a sequence may arrive in
several pieces.
-/

namespace TextAdventure

/-- What a terminal reports: a key, or something that the shell takes no notice of. -/
inductive TerminalEvent where
  | key (event : KeyEvent)
  | other
deriving DecidableEq, Repr

/-- What a text says. -/
inductive Decoded where
  /-- Something is missing. -/
  | incomplete
  /-- Nothing that is reported starts so. -/
  | unknown
  | reported (event : TerminalEvent)
deriving DecidableEq, Repr

namespace Decoded

/-- A key, if there is one. -/
def ofKey? : Option KeyEvent → Decoded
  | some event => .reported (.key event)
  | none => .unknown

/-- A key without modifiers, if there is one. -/
def ofCode? (code : Option KeyCode) : Decoded :=
  ofKey? (code.map fun code => { code := code })

/-! ## Sequences -/

/-- Whether a character ends a sequence. -/
def endsSequence (c : Char) : Bool :=
  64 ≤ c.toNat && c.toNat ≤ 126

/-- What stands before and after a text that is pasted. -/
def pasteMarks : String × String := ("200~", "\x1b[201~")

/-- A sequence that starts with a number: what stands before its last character, and that. -/
def ofNumbered (body : List Char) (last : Char) : Decoded :=
  if !endsSequence last then .incomplete
  else if pasteMarks.1.toList.isPrefixOf (body ++ [last]) then
    if pasteMarks.2.toList.isSuffixOf (body ++ [last]) then .reported .other else .incomplete
  else if last = '~' then ofKey? (KeyEvent.ofNumber? body)
  else if last = 'u' then ofKey? (KeyEvent.ofCode? body)
  else if last = 'M' then .reported .other
  else if last = 'R' then .unknown
  else ofKey? (KeyEvent.ofLetter? body last)

/-- The text after an escape and a bracket. Reports about the terminal itself are dropped. -/
def ofSequence : List Char → Decoded
  | [] => .incomplete
  | first :: rest =>
    if first.isDigit then
      match rest.getLast? with
      | none => .incomplete
      | some last => ofNumbered (first :: rest.dropLast) last
    else if first = '[' then
      match rest with
      | [] => .incomplete
      | c :: _ =>
        if 'A' ≤ c ∧ c ≤ 'E' then ofCode? (some (.function (c.toNat - 'A'.toNat + 1)))
        else .unknown
    else if first = '?' then
      if rest.getLast? = some 'u' ∨ rest.getLast? = some 'c' then .unknown else .incomplete
    else if first = '<' then
      if rest.getLast? = some 'm' ∨ rest.getLast? = some 'M' then .reported .other else .incomplete
    else if first = 'M' then if rest.length < 3 then .incomplete else .reported .other
    else if first = 'I' ∨ first = 'O' then .reported .other
    else if first = 'Z' then ofKey? (some { code := .backTab, modifiers := .shift })
    else if first = 'R' then .unknown
    else ofCode? (KeyEvent.letterKey? first)

/-- The text after an escape and the letter `O`. -/
def ofShort : List Char → Decoded
  | [] => .incomplete
  | letter :: _ => ofCode? (KeyEvent.letterKey? letter)

/-- The text after an escape; `more` says whether something follows it that has arrived already. -/
def ofEscaped (more : Bool) : List Char → Decoded
  | [] => if more then .incomplete else ofCode? (some .esc)
  | first :: rest =>
    if first = '[' then ofSequence rest
    else if first = 'O' then ofShort rest
    else if first = '\x1b' then ofCode? (some .esc)
    else ofKey? (some (KeyEvent.ofTyped first).withAlt)

/-- A text. -/
def ofText (more : Bool) : List Char → Decoded
  | [] => .incomplete
  | first :: rest =>
    if first = '\x1b' then ofEscaped more rest else ofKey? (some (KeyEvent.ofTyped first))

end Decoded

/-! ## Decoders -/

/-- A decoder, with what it has read of an event that goes on. -/
structure Decoder where
  pending : List Char := []
deriving DecidableEq, Repr

namespace Decoder

/-- Reads a character. -/
def read (decoder : Decoder) (c : Char) (more : Bool) : List TerminalEvent × Decoder :=
  let text := decoder.pending ++ [c]
  match Decoded.ofText more text with
  | .incomplete => ([], ⟨text⟩)
  | .unknown => ([], {})
  | .reported event => ([event], {})

/-- Reads a piece of text that has arrived. -/
def readPiece (decoder : Decoder) : List Char → List TerminalEvent × Decoder
  | [] => ([], decoder)
  | c :: rest =>
    let (events, decoder) := decoder.read c (!rest.isEmpty)
    let (later, decoder) := decoder.readPiece rest
    (events ++ later, decoder)

/-- Reads pieces one after the other. -/
def readPieces (decoder : Decoder) : List (List Char) → List TerminalEvent × Decoder
  | [] => ([], decoder)
  | piece :: rest =>
    let (events, decoder) := decoder.readPiece piece
    let (later, decoder) := decoder.readPieces rest
    (events ++ later, decoder)

/-- The events of text that arrives in these pieces. -/
def events (pieces : List (List Char)) : List TerminalEvent :=
  (readPieces {} pieces).1

example : events [['\x1b', '[', 'D']] = [.key { code := .left }] := by decide
example : events [['\x1b', 'x']] = [.key { code := .char 'x', modifiers := .alt }] := by decide
example : events [['\x1b'], ['[']] = [.key { code := .esc }, .key { code := .char '[' }] := by decide
example : events [['\x1b', '['], ['A']] = [.key { code := .up }] := by decide

end Decoder

end TextAdventure
