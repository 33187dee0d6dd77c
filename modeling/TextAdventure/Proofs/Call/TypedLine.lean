import Mathlib.Data.List.TakeWhile
import TextAdventure.Proofs.Call.FirstWord
import TextAdventure.Proofs.Editor.Slate
import TextAdventure.Proofs.Editor.Wording

/-!
# The call of a typed line

A line that has been typed and committed is taken as words, and the words make a call. Between the
text and the call nothing is lost: the words with single spaces between them are the text in lower
case without the spaces it starts with, and there are no other words of which that is true
(`eq_words_of_intercalate_eq`). Of the words the call looks at the first three and at nothing else
(`ofTokens_eq_ofWords`). Since a line holds only literal characters, what a call asks about is
always written in digits and small letters.
-/

namespace TextAdventure

/-! ## The first three words -/

namespace Call

/-- What a line asks for, by its first three words. -/
def ofWords (first second third : String) : Call :=
  if first = "" then .describeRoom
  else if first = "inventory" then .inventory
  else if first = "help" then .query "HELP" "help"
  else if first = "talk" then .query "TALK" third
  else if first ∈ ["examine", "use", "go", "take"] then
    .query (String.ofList (first.toList.map Char.toUpper)) second
  else .query "MISC" first

theorem ofTokens_eq_ofWords (command : List String) :
    ofTokens command = ofWords (word command 0) (word command 1) (word command 2) := by
  cases firstWord command with
  | blank h => rw [ofTokens_of_blank h, ofWords, if_pos h]
  | verb verb h =>
      rw [ofTokens_of_verb h, h]
      cases verb <;> rfl
  | unknown hword h =>
      have hinventory : word command 0 ≠ "inventory" := h .inventory
      have hhelp : word command 0 ≠ "help" := h .help
      have htalk : word command 0 ≠ "talk" := h .talk
      have hother : word command 0 ∉ ["examine", "use", "go", "take"] := by
        simpa using ⟨h .examine, h .use, h .go, h .take⟩
      rw [ofTokens_of_unknown hword h, ofWords, if_neg hword, if_neg hinventory, if_neg hhelp,
        if_neg htalk, if_neg hother]

variable {command : List String}

theorem ofTokens_eq_describeRoom_iff : ofTokens command = .describeRoom ↔ word command 0 = "" := by
  cases firstWord command with
  | blank h => simp [ofTokens_of_blank h, h]
  | verb verb h =>
      rw [ofTokens_of_verb h, h]
      cases verb <;> simp [Verb.queryName?, Verb.word]
  | unknown hword h => simp [ofTokens_of_unknown hword h, hword]

theorem ofTokens_eq_inventory_iff :
    ofTokens command = .inventory ↔ word command 0 = "inventory" := by
  cases firstWord command with
  | blank h => simp [ofTokens_of_blank h, h]
  | verb verb h =>
      rw [ofTokens_of_verb h, h]
      cases verb <;> simp [Verb.queryName?, Verb.word]
  | unknown hword h =>
      have hinventory : word command 0 ≠ "inventory" := h .inventory
      simp [ofTokens_of_unknown hword h, hinventory]

theorem ofTokens_eq_help_iff :
    ofTokens command = .query "HELP" "help" ↔ word command 0 = "help" := by
  cases firstWord command with
  | blank h => simp [ofTokens_of_blank h, h]
  | verb verb h =>
      rw [ofTokens_of_verb h, h]
      cases verb <;> simp [Verb.queryName?, Verb.word]
  | unknown hword h =>
      have hhelp : word command 0 ≠ "help" := h .help
      simp [ofTokens_of_unknown hword h, hhelp]

/-- What a query is about is a word of the command; help is asked for about itself. -/
theorem exists_word_of_ofTokens_eq_query {verb object : String}
    (h : ofTokens command = .query verb object) : ∃ n, object = word command n := by
  cases firstWord command with
  | blank hblank =>
      rw [ofTokens_of_blank hblank] at h
      cases h
  | verb known hknown =>
      rw [ofTokens_of_verb hknown] at h
      cases known with
      | inventory => cases h
      | help =>
          cases h
          exact ⟨0, hknown.symm⟩
      | examine | use | talk | go | take =>
          cases h
          exact ⟨_, rfl⟩
  | unknown hword hunknown =>
      rw [ofTokens_of_unknown hword hunknown] at h
      cases h
      exact ⟨0, rfl⟩

/-- Only words that are there and are no verbs are asked about as such. -/
theorem of_ofTokens_eq_misc {object : String} (h : ofTokens command = .query "MISC" object) :
    object ≠ "" ∧ ∀ verb : Verb, object ≠ verb.word := by
  cases firstWord command with
  | blank hblank =>
      rw [ofTokens_of_blank hblank] at h
      cases h
  | verb known hknown =>
      rw [ofTokens_of_verb hknown] at h
      cases known <;> simp [Verb.queryName?] at h
  | unknown hword hunknown =>
      rw [ofTokens_of_unknown hword hunknown] at h
      cases h
      exact ⟨hword, hunknown⟩

end Call

/-! ## Words of literal characters -/

/-- In lower case a literal character is a space, a digit or a small letter. -/
theorem Key.toLower_of_isLiteralChar {c : Char} (h : isLiteralChar c = true) :
    c.toLower = ' ' ∨ ('0' ≤ c.toLower ∧ c.toLower ≤ '9') ∨
      ('a' ≤ c.toLower ∧ c.toLower ≤ 'z') :=
  of_isLiteralChar (P := fun c => c.toLower = ' ' ∨ ('0' ≤ c.toLower ∧ c.toLower ≤ '9') ∨
    ('a' ≤ c.toLower ∧ c.toLower ≤ 'z')) (by decide) h

theorem Key.toLower_eq_space_iff {c : Char} (h : isLiteralChar c = true) :
    c.toLower = ' ' ↔ c = ' ' :=
  of_isLiteralChar (P := fun c => c.toLower = ' ' ↔ c = ' ') (by decide) h

theorem Text.space_notMem_of_mem_splitFields {text field : List Char}
    (h : field ∈ splitFields text) : ' ' ∉ field := by
  induction text generalizing field with
  | nil => simp_all [splitFields]
  | cons c rest ih =>
      rw [splitFields] at h
      by_cases hc : c = ' '
      · rw [if_pos hc] at h
        rcases List.mem_cons.mp h with rfl | h
        · simp
        · exact ih h
      · rw [if_neg hc] at h
        cases hrest : splitFields rest with
        | nil =>
            rw [hrest] at h
            simpa [List.mem_singleton.mp h] using Ne.symm hc
        | cons first fields =>
            rw [hrest] at h ih
            -- the character goes in front of the first field, and the others stay
            rcases List.mem_cons.mp h with rfl | h
            · simpa [Ne.symm hc] using ih (List.mem_cons_self ..)
            · exact ih (List.mem_cons_of_mem _ h)

namespace Editor

variable {text : List Char}

theorem space_notMem_of_mem_words {word : String} (h : word ∈ words text) :
    ' ' ∉ word.toList := by
  obtain ⟨field, hfield, rfl⟩ := List.mem_map.mp h
  rw [← Text.splitFields_eq_splitOn] at hfield
  rw [String.toList_ofList]
  exact Text.space_notMem_of_mem_splitFields hfield

/-- A word of a literal text is written in digits and small letters. -/
theorem plain_of_mem_words (hliteral : ∀ c ∈ text, Key.isLiteralChar c = true) {word : String}
    (h : word ∈ words text) :
    ∀ c ∈ word.toList, ('0' ≤ c ∧ c ≤ '9') ∨ ('a' ≤ c ∧ c ≤ 'z') := by
  intro c hc
  have hspace : c ≠ ' ' := fun heq => space_notMem_of_mem_words h (heq ▸ hc)
  obtain ⟨d, hd, rfl⟩ := exists_mem_of_mem_words h hc
  rcases Key.toLower_of_isLiteralChar (hliteral d hd) with hc | hc
  · exact absurd hc hspace
  · exact hc

theorem plain_word (hliteral : ∀ c ∈ text, Key.isLiteralChar c = true) (n : Nat) :
    ∀ c ∈ (Call.word (words text) n).toList, ('0' ≤ c ∧ c ≤ '9') ∨ ('a' ≤ c ∧ c ≤ 'z') := by
  rw [Call.word, List.getD_eq_getElem?_getD]
  cases hword : (words text)[n]? with
  | none => simp
  | some word => exact plain_of_mem_words hliteral (List.mem_of_getElem? hword)

/-- The first word is missing only if there is nothing to read it from. -/
theorem word_zero_eq_empty_iff : Call.word (words text) 0 = "" ↔ wording text = [] := by
  have hwords : words text = (Text.splitFields (wording text)).map String.ofList := by
    rw [words, Text.splitFields_eq_splitOn]
  rw [hwords]
  cases hwording : wording text with
  | nil => simp [Text.splitFields, Call.word]
  | cons c rest =>
      -- the wording does not start with a space
      have hc : c ≠ ' ' := by
        have hhead := List.head?_dropWhile_not (· == ' ') (text.map Char.toLower)
        rw [show (text.map Char.toLower).dropWhile (· == ' ') = c :: rest from hwording] at hhead
        simpa using hhead
      rw [Text.splitFields, if_neg hc]
      cases Text.splitFields rest <;> simp [Call.word]

theorem wording_eq_nil_iff (hliteral : ∀ c ∈ text, Key.isLiteralChar c = true) :
    wording text = [] ↔ ∀ c ∈ text, c = ' ' := by
  rw [wording, List.dropWhile_eq_nil_iff]
  simp only [List.forall_mem_map, beq_iff_eq]
  exact forall₂_congr fun c hc => Key.toLower_eq_space_iff (hliteral c hc)

/-! ## Words put together -/

theorem intercalate_words (text : List Char) :
    " ".intercalate (words text) = String.ofList (wording text) := by
  have hwording : [' '].intercalate (List.splitOn ' ' (wording text)) = wording text :=
    List.intercalate_splitOn ' '
  rw [words, Text.intercalate_map_ofList]
  exact congrArg String.ofList hwording

/-- There is one way to cut a wording into words. -/
theorem eq_words_of_intercalate_eq {others : List String} (hsome : others ≠ [])
    (hspace : ∀ word ∈ others, ' ' ∉ word.toList)
    (h : " ".intercalate others = String.ofList (wording text)) : others = words text := by
  have hlists : [' '].intercalate (others.map String.toList) = wording text := by
    have htoList := congrArg String.toList h
    rw [String.toList_intercalate] at htoList
    exact htoList.trans String.toList_ofList
  have hsplit : List.splitOn ' ' (wording text) = others.map String.toList := by
    rw [← hlists]
    exact List.splitOn_intercalate ' ' (by simpa using hspace) (by simpa using hsome)
  simp [words, hsplit]

end Editor

/-! ## Typing -/

/-- A text typed key by key, and committed. -/
def Act.typing (text : String) : List Act :=
  (text.toList.map Key.char ++ [Key.enter]).map Act.press

theorem Act.all_map_press {σ : Type} (press : σ → Key → σ) (take : σ → Option (List String) × σ)
    (s : σ) (keys : List Key) :
    Act.all press take s (keys.map .press) = ([], keys.foldl press s) := by
  induction keys generalizing s with
  | nil => rfl
  | cons key keys ih => exact ih (press s key)

theorem Slate.foldl_press_char (s : Slate) {text : List Char}
    (hliteral : ∀ c ∈ text, Key.isLiteralChar c = true) :
    (text.map Key.char).foldl Slate.press s = { s with text := s.text ++ text } := by
  induction text generalizing s with
  | nil => simp
  | cons c text ih =>
      have hc : Key.isLiteralChar c = true := hliteral c (by simp)
      rw [List.map_cons, List.foldl_cons, ih _ fun d hd => hliteral d (by simp [hd])]
      simp [Slate.press, hc]

/-- Typing puts a literal text on an empty slate. -/
theorem Slate.acts_typing {text : String}
    (hliteral : ∀ c ∈ text.toList, Key.isLiteralChar c = true) :
    (({} : Slate).acts (Act.typing text)).2 = { text := text.toList, ready := true } := by
  rw [Slate.acts, Act.typing, Act.all_map_press, List.foldl_append,
    Slate.foldl_press_char {} hliteral]
  rfl

/-! ## Committed lines -/

namespace Call

/-- What it means for tokens to be the words of a text, and for their call to be what the text asks
for. -/
structure Asks (text : List Char) (tokens : List String) : Prop where
  tokens_eq : tokens = Editor.words text
  /-- With single spaces between them the tokens are the text in lower case, without the spaces it
  starts with. -/
  joined : " ".intercalate tokens = String.ofList (Editor.wording text)
  /-- There are no other words of which that is true. -/
  only : ∀ others : List String, others ≠ [] → (∀ word ∈ others, ' ' ∉ word.toList) →
    " ".intercalate others = String.ofList (Editor.wording text) → others = tokens
  /-- The call depends on the first three tokens alone. -/
  call : ofTokens tokens = ofWords (word tokens 0) (word tokens 1) (word tokens 2)
  room : ofTokens tokens = .describeRoom ↔ ∀ c ∈ text, c = ' '
  inventory : ofTokens tokens = .inventory ↔ word tokens 0 = "inventory"
  help : ofTokens tokens = .query "HELP" "help" ↔ word tokens 0 = "help"
  /-- What is asked about holds no space and no capital letter. -/
  object : ∀ verb object, ofTokens tokens = .query verb object →
    ∀ c ∈ object.toList, ('0' ≤ c ∧ c ≤ '9') ∨ ('a' ≤ c ∧ c ≤ 'z')
  misc : ∀ object, ofTokens tokens = .query "MISC" object →
    object ≠ "" ∧ ∀ verb : Verb, object ≠ verb.word

theorem asks_words {text : List Char} (hliteral : ∀ c ∈ text, Key.isLiteralChar c = true) :
    Asks text (Editor.words text) where
  tokens_eq := rfl
  joined := Editor.intercalate_words text
  only _ hsome hspace h := Editor.eq_words_of_intercalate_eq hsome hspace h
  call := ofTokens_eq_ofWords _
  room := by
    rw [ofTokens_eq_describeRoom_iff, Editor.word_zero_eq_empty_iff,
      Editor.wording_eq_nil_iff hliteral]
  inventory := ofTokens_eq_inventory_iff
  help := ofTokens_eq_help_iff
  object verb object h := by
    obtain ⟨n, rfl⟩ := exists_word_of_ofTokens_eq_query h
    exact Editor.plain_word hliteral n
  misc _ h := of_ofTokens_eq_misc h

/-- **From a typed line to its call.** Every literal text can be typed and committed behind every
prompt. However a committed line came about, its command can be taken, as the words of its text, and
makes the call that the text asks for. -/
theorem committed_line_asks (prompt : String) :
    (∀ text : String,
      (∀ c ∈ text.toList, c = ' ' ∨ ('0' ≤ c ∧ c ≤ '9') ∨ ('A' ≤ c ∧ c ≤ 'Z') ∨
        ('a' ≤ c ∧ c ≤ 'z')) →
      ((Editor.ofPrompt prompt).acts (Act.typing text)).2.tail = text ∧
        ((Editor.ofPrompt prompt).acts (Act.typing text)).2.ready = true) ∧
    ∀ acts : List Act, ((Editor.ofPrompt prompt).acts acts).2.ready = true →
      ∃ tokens, ((Editor.ofPrompt prompt).acts acts).2.take.1 = some tokens ∧
        Asks ((Editor.ofPrompt prompt).acts acts).2.tail.toList tokens := by
  constructor
  · intro text hliteral
    have hslate := Slate.acts_typing fun c hc => (Key.isLiteralChar_iff c).mpr (hliteral c hc)
    rw [Editor.acts_ofPrompt, Prod.map_snd, hslate]
    exact ⟨by simp [Slate.behind], rfl⟩
  · intro acts hready
    have hliteral : (({} : Slate).acts acts).2.Literal :=
      Slate.Literal.acts (by intro c hc; cases hc) acts
    rw [Editor.acts_ofPrompt, Prod.map_snd] at hready ⊢
    generalize (({} : Slate).acts acts).2 = s at hliteral hready ⊢
    have hcommitted : s.ready = true := hready
    refine ⟨Editor.words s.text, ?_, ?_⟩
    · rw [Slate.take_behind, Slate.take, if_pos hcommitted, Editor.tokens_eq_words]
      rfl
    · rw [Slate.behind, Editor.tail_holding, String.toList_ofList]
      exact asks_words hliteral

/-- A line with a doubled space, corrected before and after it was committed. -/
def correctedActs : List Act :=
  Act.typing " Talk  to " ++ [.press .backspace] ++ Act.typing "X ghost"

theorem correctedActs_ask :
    (∀ c ∈ "2 GO".toList, c = ' ' ∨ ('0' ≤ c ∧ c ≤ '9') ∨ ('A' ≤ c ∧ c ≤ 'Z') ∨
        ('a' ≤ c ∧ c ≤ 'z')) ∧
      ((Editor.ofPrompt "→ ").acts (Act.typing "2 GO")).2.tail = "2 GO" ∧
      ((Editor.ofPrompt "→ ").acts correctedActs).2.ready = true ∧
      ∃ tokens, ((Editor.ofPrompt "→ ").acts correctedActs).2.take.1 = some tokens ∧
        Asks " Talk  toX ghost".toList tokens ∧ ofTokens tokens = .query "TALK" "tox" := by
  obtain ⟨htyping, htaking⟩ := committed_line_asks "→ "
  have hliteral : ∀ c ∈ "2 GO".toList, c = ' ' ∨ ('0' ≤ c ∧ c ≤ '9') ∨ ('A' ≤ c ∧ c ≤ 'Z') ∨
      ('a' ≤ c ∧ c ≤ 'z') := by simp
  have hready : ((Editor.ofPrompt "→ ").acts correctedActs).2.ready = true := by decide
  have htail : ((Editor.ofPrompt "→ ").acts correctedActs).2.tail.toList
      = " Talk  toX ghost".toList := by decide +kernel
  obtain ⟨tokens, htaken, hasks⟩ := htaking correctedActs hready
  rw [htail] at hasks
  refine ⟨hliteral, (htyping "2 GO" hliteral).1, hready, tokens, htaken, hasks, ?_⟩
  rw [hasks.tokens_eq]
  decide +kernel

end Call

end TextAdventure
