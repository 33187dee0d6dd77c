import Mathlib.Data.List.Find
import TextAdventure.Proofs.Settings.Reading
import TextAdventure.Settings.Token

/-!
# How names, numbers and strings are spelled

The texts that the token readers accept when other text follows. A name or a number needs a
character behind it that it does not go on with; a string ends at its closing quote. A string may
spell any of its characters with an escape, so it has many spellings (`Spelled`).
-/

namespace TextAdventure.Settings.Source

/-! ## Ends of tokens -/

theorem mem_of_endsToken {c : Char} (h : endsToken c = true) :
    c ∈ [' ', '\t', '\n', '\r', '/', ',', ':', '(', ')', ']', '\x7d'] := by
  simpa [endsToken, isSeparator, or_assoc] using h

theorem endsToken_spec {c : Char} (h : endsToken c = true) :
    isRawNameChar c = false ∧ isFloatChar c = false ∧ c ≠ '"' ∧ c ≠ '#' := by
  have hmem := mem_of_endsToken h
  simp only [List.mem_cons, List.not_mem_nil, or_false] at hmem
  rcases hmem with rfl | rfl | rfl | rfl | rfl | rfl | rfl | rfl | rfl | rfl | rfl
  all_goals decide

theorem isIntegerChar_of_endsToken {c : Char} (h : endsToken c = true) :
    isIntegerChar c = false := by
  have hmem := mem_of_endsToken h
  simp only [List.mem_cons, List.not_mem_nil, or_false] at hmem
  rcases hmem with rfl | rfl | rfl | rfl | rfl | rfl | rfl | rfl | rfl | rfl | rfl
  all_goals decide

theorem isNameChar_eq_false {c : Char} (h : isRawNameChar c = false) : isNameChar c = false := by
  simp only [isRawNameChar, Bool.or_eq_false_iff] at h
  exact h.1.1.1

theorem Parted.endsToken {rest : List Char} (h : Parted rest) {c : Char} (hc : c ∈ rest.head?) :
    endsToken c = true := by
  cases rest with
  | nil => cases hc
  | cons d rest =>
      cases hc
      exact h

/-! ## Names -/

theorem reads_readPlainName {name rest : List Char} (hname : ∀ c ∈ name, isNameChar c = true)
    (hrest : Parted rest) : Reads readPlainName name rest (String.ofList name) := by
  have hplain : (name ++ rest).takeWhile isNameChar = name :=
    takeWhile_append hname fun c hc => isNameChar_eq_false (endsToken_spec (hrest.endsToken hc)).1
  have hraw : (name ++ rest).takeWhile isRawNameChar = name := by
    refine takeWhile_append (fun c hc => ?_) fun c hc => (endsToken_spec (hrest.endsToken hc)).1
    simp [isRawNameChar, hname c hc]
  intro p
  simp only [readPlainName, hplain, hraw, Nat.lt_irrefl, if_false, drop_append]

/-- **A plain name** is read as it stands. -/
theorem reads_readName {name rest : List Char} (hname : isPlainName name = true)
    (hrest : Parted rest) : Reads readName name rest (String.ofList name) := by
  cases name with
  | nil => cases hname
  | cons c name =>
      obtain ⟨hstart, hlater⟩ : isNameStart c = true ∧ ∀ d ∈ name, isNameChar d = true := by
        simpa [isPlainName] using hname
      have hall : ∀ d ∈ c :: name, isNameChar d = true := by
        simpa [isNameChar, hstart] using hlater
      -- the second character is neither a quote nor a hash, which after an `r` would start a string
      have hsecond : ∀ d ∈ (name ++ rest).head?, d ≠ '"' ∧ d ≠ '#' := by
        intro d hd
        cases name with
        | nil => exact (endsToken_spec (hrest.endsToken hd)).2.2
        | cons e name =>
            obtain rfl : e = d := Option.some.inj hd
            have he := hlater e (by simp)
            constructor <;> rintro rfl <;> revert he <;> decide
      have hmore : name ++ rest ≠ [] := by
        cases rest with
        | nil => cases hrest
        | cons d rest => simp
      intro p
      have hread := reads_readPlainName hall hrest p
      rw [List.cons_append] at hread ⊢
      unfold readName
      split
      · rename_i heq
        cases heq
      · rename_i heq
        exact absurd (List.cons.inj heq).2 hmore
      · rename_i heq
        exact absurd rfl (hsecond '"' (by rw [(List.cons.inj heq).2]; rfl)).1
      · rename_i heq
        exact absurd rfl (hsecond '#' (by rw [(List.cons.inj heq).2]; rfl)).2
      · rename_i heq
        rw [← (List.cons.inj heq).1, if_pos hstart, hread]

/-! ## Numbers -/

/-- A text that the reader of numbers takes whole for a number. -/
def NumberText (x : Single) (text : List Char) : Prop :=
  ∃ p, readFloat ⟨text, {}⟩ = .ok (x, ⟨[], p⟩)

theorem prefix_append_iff {word text rest : List Char}
    (hword : ∀ c ∈ word, endsToken c = false) (hrest : Parted rest) :
    word <+: text ++ rest ↔ word <+: text := by
  refine ⟨fun h => ?_, fun h => h.trans (List.prefix_append text rest)⟩
  rcases List.prefix_or_prefix_of_prefix h (List.prefix_append text rest) with h' | ⟨tail, rfl⟩
  · exact h'
  · -- a longer word would hold the character that ends the token
    have htail : tail <+: rest := (List.prefix_append_right_inj text).mp h
    cases tail with
    | nil => simp
    | cons c tail =>
        obtain ⟨later, rfl⟩ := htail
        have hends : endsToken c = true := hrest
        rw [hword c (by simp)] at hends
        cases hends

theorem floatWords_spec : ∀ word ∈ floatWords, ∀ c ∈ word.toList, endsToken c = false := by
  have hall : floatWords.all (fun word => word.toList.all fun c => !endsToken c) = true := by decide
  simpa using hall

theorem startsWithWord_append {word : String} (hword : ∀ c ∈ word.toList, endsToken c = false)
    {rest : List Char} (hrest : Parted rest) (text : List Char) (p q : Position) :
    (⟨text ++ rest, p⟩ : Source).startsWithWord word
      = (⟨text, q⟩ : Source).startsWithWord word := by
  have hprefix : word.toList.isPrefixOf (text ++ rest) = word.toList.isPrefixOf text := by
    rw [Bool.eq_iff_iff, List.isPrefixOf_iff_prefix, List.isPrefixOf_iff_prefix]
    exact prefix_append_iff hword hrest
  simp only [startsWithWord, startsWith, hprefix, ← String.length_toList]
  cases hstarts : word.toList.isPrefixOf text with
  | false => rfl
  | true =>
      obtain ⟨tail, rfl⟩ := List.isPrefixOf_iff_prefix.mp hstarts
      rw [List.append_assoc, List.drop_left, List.drop_left]
      cases tail with
      | nil =>
          have hnone : rest.head?.any isNameChar = false := by
            rw [Option.any_eq_false]
            intro c hc
            rw [isNameChar_eq_false (endsToken_spec (hrest.endsToken hc)).1]
          simp [hnone]
      | cons c tail => rfl

/-- **A number** is read the same with something behind it. -/
theorem reads_readFloat {text : List Char} {x : Single} (h : NumberText x text)
    {rest : List Char} (hrest : Parted rest) : Reads readFloat text rest x := by
  obtain ⟨q, h⟩ := h
  intro p
  have hwords : floatWords.find? (⟨text ++ rest, p⟩ : Source).startsWithWord
      = floatWords.find? (⟨text, {}⟩ : Source).startsWithWord :=
    List.find?_congr fun word hword =>
      startsWithWord_append (floatWords_spec word hword) hrest text p {}
  unfold readFloat at h ⊢
  rw [hwords]
  cases hfind : floatWords.find? (⟨text, {}⟩ : Source).startsWithWord with
  | some word =>
      rw [hfind] at h
      obtain ⟨hvalue, hdrop⟩ := Prod.mk.inj (Except.ok.inj h)
      have hstarts := List.find?_some hfind
      simp only [startsWithWord, startsWith, Bool.and_eq_true] at hstarts
      obtain ⟨tail, rfl⟩ := List.isPrefixOf_iff_prefix.mp hstarts.1
      have htail : tail = [] := by
        have hrest := congrArg Source.rest hdrop
        rwa [rest_drop, ← String.length_toList, List.drop_left] at hrest
      subst htail
      simp only [List.append_nil, ← String.length_toList, drop_append, hvalue]
  | none =>
      rw [hfind] at h
      have hdigits : (text ++ rest).takeWhile isFloatChar = text.takeWhile isFloatChar :=
        takeWhile_append_head fun c hc => (endsToken_spec (hrest.endsToken hc)).2.1
      simp only [hdigits] at h ⊢
      split at h
      · cases h
      · rename_i hplain
        rw [if_neg hplain]
        cases hparse : Single.parse? (text.takeWhile isFloatChar) with
        | none =>
            rw [hparse] at h
            cases h
        | some y =>
            rw [hparse] at h
            obtain ⟨rfl, hdrop⟩ := Prod.mk.inj (Except.ok.inj h)
            have hall : text.takeWhile isFloatChar = text := by
              have hrest := congrArg Source.rest hdrop
              rw [rest_drop, List.drop_eq_nil_iff] at hrest
              exact (List.takeWhile_prefix isFloatChar).eq_of_length_le hrest
            simp only [hall, drop_append]

/-- Nothing that ends a token starts a number. -/
theorem readFloat_of_parted {text : List Char} (h : Parted text) (p : Position) :
    readFloat ⟨text, p⟩ = .error ⟨.expectedFloat, p⟩ := by
  have hwords : floatWords.find? (⟨text, p⟩ : Source).startsWithWord
      = floatWords.find? (⟨[], p⟩ : Source).startsWithWord :=
    List.find?_congr fun word hword =>
      startsWithWord_append (floatWords_spec word hword) h [] p p
  have hnone : floatWords.find? (⟨[], p⟩ : Source).startsWithWord = none := by rfl
  have hdigits : text.takeWhile isFloatChar = [] := by
    cases text with
    | nil => rfl
    | cons c text => simp [(endsToken_spec (c := c) h).2.1]
  unfold readFloat
  rw [hwords, hnone]
  simp only [hdigits]
  rfl

theorem opens_of_not_endsToken {c : Char} (h : endsToken c = false) (text : List Char) :
    Opens ')' (c :: text) := by
  refine ⟨?_, ?_, ?_⟩
  · simp only [endsToken, Bool.or_eq_false_iff] at h
    exact h.1
  · rintro rfl
    revert h
    decide
  · rintro rfl
    revert h
    decide

theorem NumberText.opens {text : List Char} {x : Single} (h : NumberText x text) :
    Opens ')' text := by
  obtain ⟨q, h⟩ := h
  cases text with
  | nil => cases h
  | cons c text =>
      cases hends : endsToken c with
      | false => exact opens_of_not_endsToken hends text
      | true =>
          have hparted : Parted (c :: text) := hends
          rw [readFloat_of_parted hparted] at h
          cases h

/-! ## Strings -/

/-- The escapes of one character: what follows the backslash, and what it stands for. -/
def shortEscapes : List (Char × Char) :=
  [('\'', '\''), ('"', '"'), ('\\', '\\'), ('n', '\n'), ('r', '\r'), ('t', '\t'), ('0', '\x00')]

/-- The value of hexadecimal digits behind others whose value is `n`. -/
def hexValue? (n : Nat) (digits : List Char) : Option Nat :=
  digits.foldlM (fun n c => (hexDigit? c).map (16 * n + ·)) n

/-- What may follow a backslash, and the character that it stands for. -/
inductive Escaped : List Char → Char → Prop
  | short {mark c : Char} : (mark, c) ∈ shortEscapes → Escaped [mark] c
  | byte {a b : Char} {high low : Nat} : hexDigit? a = some high → hexDigit? b = some low →
      Escaped ['x', a, b] (Char.ofNat (16 * high + low))
  | code {digits : List Char} {c : Char} : digits ≠ [] → digits.length ≤ 6 →
      hexValue? 0 digits = some c.toNat → Escaped ('u' :: '\x7b' :: (digits ++ ['\x7d'])) c

/-- The spellings of a text between double quotes. -/
inductive Spelled : List Char → List Char → Prop
  | nil : Spelled [] []
  | plain {c : Char} {spelling text : List Char} : c ≠ '"' → c ≠ '\\' → Spelled spelling text →
      Spelled (c :: spelling) (c :: text)
  | escape {c : Char} {escape spelling text : List Char} : Escaped escape c →
      Spelled spelling text → Spelled ('\\' :: (escape ++ spelling)) (c :: text)

theorem readHexDigit_cons {c : Char} {n : Nat} (h : hexDigit? c = some n) (rest : List Char)
    (p : Position) : readHexDigit ⟨c :: rest, p⟩ = .ok (n, ⟨rest, p.after c⟩) := by
  simp [readHexDigit, h, drop_one]

theorem reads_readHexDigits {digits : List Char} {count value total : Nat}
    (hcount : digits.length ≤ count) (hvalue : hexValue? value digits = some total) (read : Nat)
    (rest : List Char) :
    Reads (readHexDigits count value read) digits ('\x7d' :: rest)
      (total, read + digits.length) := by
  intro p
  induction digits generalizing count value read p with
  | nil =>
      cases hvalue
      cases count <;> rfl
  | cons c digits ih =>
      cases count with
      | zero => simp at hcount
      | succ count =>
          rw [hexValue?, List.foldlM_cons] at hvalue
          cases hdigit : hexDigit? c with
          | none => simp [hdigit] at hvalue
          | some n =>
              have hbrace : c ≠ '\x7d' := by
                rintro rfl
                cases hdigit
              simp only [hdigit, Option.map_some, Option.bind_eq_bind, Option.bind_some] at hvalue
              have hlater := ih (by simpa using hcount) hvalue (read + 1) (p.after c)
              rw [List.cons_append, readHexDigits]
              split
              · rename_i heq
                exact absurd (List.cons.inj heq).1 hbrace
              · simp only [readHexDigit_cons hdigit, bind, Except.bind, hlater, List.length_cons,
                  Position.past_cons, Nat.add_assoc, Nat.add_comm 1]

theorem charOfNat?_toNat (c : Char) : charOfNat? c.toNat = some c := by
  have hvalid : c.toNat.isValidChar := c.valid
  rw [charOfNat?, if_pos hvalid, Char.ofNat_toNat]

theorem reads_readCodePoint {digits : List Char} {c : Char} (hne : digits ≠ [])
    (hlength : digits.length ≤ 6) (hvalue : hexValue? 0 digits = some c.toNat)
    (rest : List Char) :
    Reads readCodePoint ('\x7b' :: (digits ++ ['\x7d'])) rest c := by
  intro p
  have hdigits := reads_readHexDigits hlength hvalue 0 rest (p.after '\x7b')
  have hread : 0 + digits.length ≠ 0 := by simpa using hne
  rw [List.cons_append, List.append_assoc]
  simp only [readCodePoint, expect, bind, Except.bind, if_true, drop_one, List.singleton_append,
    hdigits, if_neg hread, charOfNat?_toNat]
  simp
  rfl

/-- **An escape** is read as the character that it stands for. -/
theorem reads_readEscape {escape : List Char} {c : Char} (h : Escaped escape c)
    (rest : List Char) : Reads readEscape escape rest c := by
  intro p
  cases h with
  | short hmem =>
      simp only [shortEscapes, List.mem_cons, Prod.mk.injEq, List.not_mem_nil, or_false] at hmem
      rcases hmem with ⟨rfl, rfl⟩ | ⟨rfl, rfl⟩ | ⟨rfl, rfl⟩ | ⟨rfl, rfl⟩ | ⟨rfl, rfl⟩ | ⟨rfl, rfl⟩ |
        ⟨rfl, rfl⟩
      all_goals rfl
  | byte ha hb =>
      simp only [readEscape, List.cons_append, List.nil_append, drop_one, readHexDigit_cons ha,
        readHexDigit_cons hb, bind, Except.bind]
      rfl
  | code hne hlength hvalue => exact reads_readCodePoint hne hlength hvalue rest (p.after 'u')

theorem readQuoted_quote (read rest : List Char) (p : Position) :
    readQuoted read ⟨'"' :: rest, p⟩ = .ok (String.ofList read, ⟨rest, p.after '"'⟩) := by
  rw [readQuoted]
  simp [drop_one]

theorem readQuoted_escape {escape : List Char} {c : Char} (h : Escaped escape c)
    (read rest : List Char) (p : Position) :
    readQuoted read ⟨'\\' :: (escape ++ rest), p⟩
      = readQuoted (read ++ [c]) ⟨rest, p.past ('\\' :: escape)⟩ := by
  have hescape := reads_readEscape h rest (p.after '\\')
  have hplain : ('\\' :: (escape ++ rest)).takeWhile (fun c => c != '"' && c != '\\') = [] := by
    simp
  have hshorter : rest.length < ('\\' :: (escape ++ rest)).length := by
    rw [List.length_cons, List.length_append]
    omega
  rw [readQuoted]
  simp only [hplain, List.length_nil, List.drop_zero, Nat.zero_add, drop_one, hescape,
    if_pos hshorter, List.append_nil, Position.past_cons]

/-- A plain character joins the stretch that starts behind it. Where no quote follows, the fault
comes to light in another place, so only a string that is read is said to be the same. -/
theorem readQuoted_plain {c : Char} (hquote : c ≠ '"') (hbackslash : c ≠ '\\')
    {read rest : List Char} {p : Position} {r : String × Source}
    (h : readQuoted (read ++ [c]) ⟨rest, p.after c⟩ = .ok r) :
    readQuoted read ⟨c :: rest, p⟩ = .ok r := by
  have hplain : (c :: rest).takeWhile (fun c => c != '"' && c != '\\')
      = c :: rest.takeWhile (fun c => c != '"' && c != '\\') := by
    simp [hquote, hbackslash]
  have hdrop (n : Nat) : (⟨c :: rest, p⟩ : Source).drop (n + 1 + 1)
      = (⟨rest, p.after c⟩ : Source).drop (n + 1) := rfl
  rw [readQuoted] at h ⊢
  simp only [hplain, List.length_cons, List.drop_succ_cons, hdrop, List.append_assoc,
    List.singleton_append] at h ⊢
  split at h
  · cases h
  · split at h
    · cases h
    · split at h
      · rename_i hshorter
        rw [if_pos (by omega)]
        exact h
      · cases h
  · exact h

theorem reads_readQuoted {spelling text : List Char} (h : Spelled spelling text)
    (read rest : List Char) :
    Reads (readQuoted read) (spelling ++ ['"']) rest (String.ofList (read ++ text)) := by
  intro p
  induction h generalizing read p with
  | nil => simpa using readQuoted_quote read rest p
  | @plain c spelling text hquote hbackslash _ ih =>
      have hlater := ih (read ++ [c]) (p.after c)
      have hread := readQuoted_plain hquote hbackslash hlater
      simpa using hread
  | @escape c escape spelling text hescape _ ih =>
      have hlater := ih (read ++ [c]) (p.past ('\\' :: escape))
      have hread := readQuoted_escape hescape read (spelling ++ '"' :: rest) p
      simp only [List.append_assoc, List.singleton_append] at hlater
      rw [hlater] at hread
      simpa using hread

/-- A string in quotes. -/
theorem reads_readString {spelling : List Char} {text : String} (h : Spelled spelling text.toList)
    (rest : List Char) : Reads readString ('"' :: (spelling ++ ['"'])) rest text := by
  intro p
  have hquoted := reads_readQuoted h [] rest (p.after '"')
  rw [List.cons_append, readString, consume?_cons "\"" (c := '"') rfl]
  simpa using hquoted

end TextAdventure.Settings.Source
