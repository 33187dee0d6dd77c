import TextAdventure.Screen

/-!
# A terminal that reads painted text

The other side of painting. A terminal reads its input one character at a time and keeps a cursor
and a style; what it sees is a list of events, a cleared screen or a character drawn in a cell. It
knows the escape sequences that clear the screen, move the cursor and set or take back a style.
Whatever it does not know is an event of its own, so a text that gives only the expected events
holds nothing else.

Each piece of text that painting is made of has one lemma, which says where it leads a terminal
that is not inside an escape sequence.
-/

namespace TextAdventure.Screen

/-- Whether a character controls the terminal instead of being drawn: the Unicode category
`Cc`. -/
def isControl (c : Char) : Bool :=
  c.toNat < 0x20 || (0x7f ≤ c.toNat && c.toNat < 0xa0)

/-- What a terminal sees. -/
inductive Event where
  | clear
  | draw (row column : Nat) (style : Style) (c : Char)
  | unknown
deriving DecidableEq, Repr

/-- How far an escape sequence has been read. -/
inductive Reading where
  | ground
  | escape
  /-- Behind the bracket: the numbers so far and the one being read. -/
  | sequence (numbers : List Nat) (number : Nat)
deriving DecidableEq, Repr

/-- A terminal. -/
structure Terminal where
  row : Nat := 0
  column : Nat := 0
  style : Style := {}
  reading : Reading := .ground
  seen : List Event := []
deriving DecidableEq, Repr

namespace Terminal

/-- The terminal after one more event. -/
def see (t : Terminal) (event : Event) : Terminal :=
  { t with seen := t.seen ++ [event] }

/-- The terminal after a character drawn at the cursor. -/
def draw (t : Terminal) (style : Style) (c : Char) : Terminal :=
  { t.see (.draw t.row t.column style c) with column := t.column + 1 }

/-- The terminal after the numbers of a style sequence. -/
def setStyle (t : Terminal) : List Nat → Terminal
  | [0] => { t with style := {} }
  | [1] => { t with style := { t.style with bold := true } }
  | [3] => { t with style := { t.style with italic := true } }
  | [38, 2, red, green, blue] =>
      if red < 256 ∧ green < 256 ∧ blue < 256 then
        { t with style :=
            { t.style with foreground := some ⟨.ofNat red, .ofNat green, .ofNat blue⟩ } }
      else t.see .unknown
  | [39] => { t with style := { t.style with foreground := none } }
  | _ => t.see .unknown

/-- The terminal after a whole escape sequence: its numbers and the letter that ends it. -/
def obey (t : Terminal) (numbers : List Nat) (letter : Char) : Terminal :=
  match letter, numbers with
  | 'J', [2] => t.see .clear
  | 'H', [row + 1, column + 1] => { t with row := row, column := column }
  | 'm', numbers => t.setStyle numbers
  | _, _ => t.see .unknown

/-- The terminal after a character. -/
def step (t : Terminal) (c : Char) : Terminal :=
  match t.reading with
  | .ground =>
      if c = '\x1b' then { t with reading := .escape }
      else if isControl c then t.see .unknown
      else t.draw t.style c
  | .escape =>
      if c = '[' then { t with reading := .sequence [] 0 }
      else { t.see .unknown with reading := .ground }
  | .sequence numbers number =>
      if c.isDigit then
        { t with reading := .sequence numbers (10 * number + (c.toNat - '0'.toNat)) }
      else if c = ';' then { t with reading := .sequence (numbers ++ [number]) 0 }
      else obey { t with reading := .ground } (numbers ++ [number]) c

/-- The terminal after a text. -/
def read (t : Terminal) (text : String) : Terminal :=
  text.toList.foldl step t

theorem read_append (t : Terminal) (a b : String) : t.read (a ++ b) = (t.read a).read b := by
  simp [read]

/-! ## Numbers -/

/-- Digits are gathered into the number being read. -/
theorem foldl_step_digits (t : Terminal) (numbers : List Nat) (number : Nat) {digits : List Char}
    (h : ∀ c ∈ digits, c.isDigit = true) :
    digits.foldl step { t with reading := .sequence numbers number }
      = { t with reading := .sequence numbers (Nat.ofDigitChars 10 digits number) } := by
  induction digits generalizing number with
  | nil => simp
  | cons c digits ih =>
      have hc : c.isDigit = true := h c (by simp)
      have hrest : ∀ d ∈ digits, d.isDigit = true := fun d hd => h d (by simp [hd])
      rw [List.foldl_cons, Nat.ofDigitChars_cons, ← ih _ hrest]
      simp [step, hc]

/-- **A number** written in decimal is read back. -/
theorem read_toString (t : Terminal) (numbers : List Nat) (n : Nat) :
    Terminal.read { t with reading := .sequence numbers 0 } (toString n)
      = { t with reading := .sequence numbers n } := by
  have hdigits : ∀ c ∈ Nat.toDigits 10 n, c.isDigit = true :=
    fun c hc => Nat.isDigit_of_mem_toDigits (by decide) (by decide) hc
  have htext : (toString n).toList = Nat.toDigits 10 n := Nat.toList_repr
  rw [read, htext, foldl_step_digits t numbers 0 hdigits, Nat.ofDigitChars_ten_toDigits]

/-! ## Sequences -/

/-- A separator ends a number. -/
theorem read_separator (t : Terminal) (numbers : List Nat) (n : Nat) :
    Terminal.read { t with reading := .sequence numbers n } ";"
      = { t with reading := .sequence (numbers ++ [n]) 0 } := rfl

theorem read_m (t : Terminal) (numbers : List Nat) (n : Nat) :
    Terminal.read { t with reading := .sequence numbers n } "m"
      = setStyle { t with reading := .ground } (numbers ++ [n]) := rfl

variable {t : Terminal} (ht : t.reading = .ground)
include ht

theorem with_reading_ground : { t with reading := .ground } = t := by
  rw [← ht]

theorem read_escape : t.read escape = { t with reading := .sequence [] 0 } := by
  simp [read, escape, step, ht]

/-- The screen is cleared. -/
theorem read_clearText : t.read clearText = t.see .clear := by
  rw [clearText, read_append, read_escape ht]
  show see { t with reading := .ground } .clear = t.see .clear
  rw [with_reading_ground ht]

/-- **A cursor move** leads to its cell. -/
theorem read_moveText? {column row : Nat} {text : String}
    (htext : moveText? column row = some text) :
    t.read text = { t with row := row, column := column } := by
  unfold moveText? at htext
  split at htext
  · cases htext
    simp only [read_append, read_escape ht, read_toString, read_separator]
    show ({ t with reading := .ground, row := row, column := column } : Terminal) = _
    rw [← ht]
  · cases htext

/-- A style sequence of one number. -/
theorem read_style {n : Nat} {text : String} (htext : text = toString n ++ "m") :
    t.read (escape ++ text) = t.setStyle [n] := by
  rw [htext, read_append, read_append, read_escape ht, read_toString, read_m,
    with_reading_ground ht]
  rfl

/-- **A colour** is read back byte by byte. -/
theorem read_foregroundText (color : Rgb) :
    t.read (foregroundText color)
      = { t with style := { t.style with foreground := some color } } := by
  have h38 : t.read (escape ++ "38;2;") = { t with reading := .sequence [38, 2] 0 } := by
    rw [read_append, read_escape ht]
    rfl
  rw [foregroundText]
  simp only [read_append, h38, read_toString, read_separator, read_m, with_reading_ground ht]
  -- a byte of a colour is below 256, so the terminal takes the three numbers
  have hbytes : color.red.toNat < 256 ∧ color.green.toNat < 256 ∧ color.blue.toNat < 256 :=
    ⟨color.red.toNat_lt, color.green.toNat_lt, color.blue.toNat_lt⟩
  simp [setStyle, hbytes]

/-- **A character that is no control** is drawn at the cursor. -/
theorem read_singleton {c : Char} (hc : isControl c = false) :
    t.read (String.singleton c) = t.draw t.style c := by
  have hescape : c ≠ '\x1b' := by
    rintro rfl
    cases hc
  simp [read, step, ht, hescape, hc]

/-! ## Styled characters -/

theorem read_foreground (hstyle : t.style = {}) (foreground : Option Rgb) :
    t.read ((foreground.map foregroundText).getD "")
      = { t with style := { foreground := foreground } } := by
  cases foreground with
  | none =>
      show t = { t with style := {} }
      rw [← hstyle]
  | some color =>
      show t.read (foregroundText color) = _
      rw [read_foregroundText ht, hstyle]

/-- A style sequence that is written only in one case. -/
theorem read_style_if (b : Bool) {n : Nat} {text : String} (htext : text = toString n ++ "m") :
    t.read (if b then escape ++ text else "") = if b then t.setStyle [n] else t := by
  cases b with
  | false => rfl
  | true => exact read_style ht htext

/-- **The style is taken back**: all of it behind bold or italic, the foreground behind a colour
alone, and nothing if nothing was set. -/
theorem read_reset :
    t.read (if t.style.bold || t.style.italic then escape ++ "0m"
      else if t.style.foreground.isSome then escape ++ "39m" else "")
      = { t with style := {} } := by
  obtain ⟨row, column, ⟨foreground, bold, italic⟩, reading, seen⟩ := t
  by_cases hweight : (bold || italic) = true
  · rw [if_pos hweight, read_style ht (n := 0) (by decide)]
    rfl
  · -- bold and italic are off, so taking back the foreground is enough
    rw [if_neg hweight]
    simp only [Bool.or_eq_true, not_or, Bool.not_eq_true] at hweight
    obtain ⟨rfl, rfl⟩ := hweight
    cases foreground with
    | none => rfl
    | some color =>
        show Terminal.read _ (escape ++ "39m") = _
        rw [read_style ht (n := 39) (by decide)]
        rfl

/-- **A styled character** is drawn in its style, and the terminal is back in the default one. -/
theorem read_styledText (hstyle : t.style = {}) (style : Style) {c : Char}
    (hc : isControl c = false) :
    t.read (styledText style c) = t.draw style c := by
  obtain ⟨foreground, bold, italic⟩ := style
  have hforeground := read_foreground ht hstyle foreground
  have hbold : Terminal.read { t with style := { foreground := foreground } }
      (if bold then escape ++ "1m" else "")
        = { t with style := { foreground := foreground, bold := bold } } := by
    refine Eq.trans (read_style_if (by exact ht) bold (n := 1) (by decide)) ?_
    cases bold <;> rfl
  have hitalic : Terminal.read { t with style := { foreground := foreground, bold := bold } }
      (if italic then escape ++ "3m" else "")
        = { t with style := ⟨foreground, bold, italic⟩ } := by
    refine Eq.trans (read_style_if (by exact ht) italic (n := 3) (by decide)) ?_
    cases italic <;> rfl
  have hdraw := read_singleton (t := { t with style := ⟨foreground, bold, italic⟩ }) ht hc
  have hreset := read_reset
    (t := draw { t with style := ⟨foreground, bold, italic⟩ } ⟨foreground, bold, italic⟩ c) ht
  simp only [styledText, read_append]
  rw [hforeground, hbold, hitalic, hdraw]
  refine Eq.trans hreset ?_
  rw [← hstyle]
  rfl

/-! ## Lines -/

/-- The events of characters drawn side by side. -/
def line (row column : Nat) (style : Style) (text : List Char) : List Event :=
  text.mapIdx fun i c => .draw row (column + i) style c

theorem foldl_step_line {text : List Char} (htext : ∀ c ∈ text, isControl c = false) :
    text.foldl step t
      = { t with column := t.column + text.length,
                 seen := t.seen ++ line t.row t.column t.style text } := by
  induction text generalizing t with
  | nil => simp [line]
  | cons c text ih =>
      have hc := read_singleton ht (htext c (by simp))
      simp only [read, String.toList_singleton, List.foldl_cons, List.foldl_nil] at hc
      have hrest : ∀ d ∈ text, isControl d = false := fun d hd => htext d (by simp [hd])
      rw [List.foldl_cons, hc]
      refine Eq.trans (ih (by exact ht) hrest) ?_
      simp [line, draw, see, List.mapIdx_cons, Nat.add_assoc, Nat.add_comm 1]

/-- **A line** is drawn from the cursor on, in the style that is set. -/
theorem read_line {text : String} (htext : ∀ c ∈ text.toList, isControl c = false) :
    t.read text
      = { t with column := t.column + text.length,
                 seen := t.seen ++ line t.row t.column t.style text.toList } := by
  rw [read, foldl_step_line ht htext, String.length_toList]

end Terminal

end TextAdventure.Screen
