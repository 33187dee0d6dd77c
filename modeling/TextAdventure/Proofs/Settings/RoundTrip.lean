import TextAdventure.Proofs.Settings.Escaping
import TextAdventure.Proofs.Settings.Listing
import TextAdventure.Proofs.Single.Shortest
import TextAdventure.Settings.Writer

/-!
# Written settings read back

The written form of settings is a listing of every field (`listing_text`), so it reads as the
settings that were written. A number is read from its shortest decimal, and every character of the
prompt from the escape or the character that stands for it.
-/

namespace TextAdventure.Settings

open Source

/-! ## Numbers -/

/-- Each of the words has a letter that stands in no decimal. -/
theorem exists_not_isFloatChar : ∀ word ∈ floatWords, ∃ c ∈ word.toList, isFloatChar c = false := by
  have hall : floatWords.all (fun word => word.toList.any fun c => !isFloatChar c) = true := by
    decide
  simpa using hall

theorem numberText_of_parse? {text : List Char} {x : Single}
    (hchars : ∀ c ∈ text, isFloatChar c = true) (hplain : '_' ∉ text)
    (hparse : Single.parse? text = some x) : NumberText x text := by
  have hwords : floatWords.find? (⟨text, {}⟩ : Source).startsWithWord = none := by
    rw [List.find?_eq_none]
    intro word hword hstarts
    obtain ⟨c, hc, hfalse⟩ := exists_not_isFloatChar word hword
    simp only [startsWithWord, startsWith, Bool.and_eq_true] at hstarts
    have htext : c ∈ text := (List.isPrefixOf_iff_prefix.mp hstarts.1).subset hc
    rw [hchars c htext] at hfalse
    cases hfalse
  have hdigits : text.takeWhile isFloatChar = text := List.takeWhile_eq_self_iff.mpr hchars
  have hdrop := drop_append text [] {}
  rw [List.append_nil] at hdrop
  refine ⟨Position.past {} text, ?_⟩
  unfold readFloat
  simp only [hwords, hdigits, if_neg hplain, hparse, hdrop]

theorem isFloatChar_of_isDigit {c : Char} (h : c.isDigit = true) : isFloatChar c = true := by
  simp [isFloatChar, h]

/-- **A written number** is read back, with the same bits. -/
theorem numberText_spec (x : Single) : NumberText x (numberText x) := by
  cases x with
  | nan => exact ⟨⟨1, 4⟩, by decide⟩
  | infinite negative =>
      cases negative with
      | false => exact ⟨⟨1, 4⟩, by decide⟩
      | true => exact ⟨⟨1, 5⟩, by decide⟩
  | finite negative e f =>
      obtain ⟨whole, fraction, htext, hne, hwhole, hfraction, hvalue⟩ :=
        Single.exists_pointed_eq (Single.shortest (Single.units e f)).1
          (Single.shortest (Single.units e f)).2
      have hwritten : numberText (.finite negative e f)
          = (if negative then ['-'] else []) ++ (whole ++ '.' :: fraction) := by
        rw [← htext, Single.pointed, ← List.append_assoc]
        rfl
      have hparse := Single.parse?_signed negative hne hwhole hfraction
      rw [hvalue, Single.ofDecimal_shortest_units] at hparse
      -- so no word is found, since each has a letter, and no underscore
      have hmem : ∀ c ∈ (if negative then ['-'] else []) ++ (whole ++ '.' :: fraction),
          c = '-' ∨ c = '.' ∨ c.isDigit = true := by
        intro c hc
        simp only [List.mem_append, List.mem_cons] at hc
        rcases hc with hc | hc | hc | hc
        · left
          cases negative <;> simp_all
        · exact .inr (.inr (hwhole c hc))
        · exact .inr (.inl hc)
        · exact .inr (.inr (hfraction c hc))
      rw [hwritten]
      refine numberText_of_parse? ?_ ?_ hparse
      · intro c hc
        rcases hmem c hc with rfl | rfl | hdigit
        · rfl
        · rfl
        · exact isFloatChar_of_isDigit hdigit
      · intro hc
        rcases hmem '_' hc with h | h | h <;> revert h <;> decide

/-! ## Structures -/

section Rows

variable {ι : Type} {Item : ι → List Char → Prop} {write : ι → List Char}
  (hwrite : ∀ i, Item i (write i))

include hwrite

theorem row_intercalate (is : List ι) : Row Item is ([','].intercalate (is.map write)) := by
  induction is with
  | nil => exact .nil
  | cons i is ih =>
      cases is with
      | nil =>
          have hlast := Row.last (hwrite i) .nil
          simpa using hlast
      | cons j is =>
          have hcons := Row.cons (hwrite i) .nil .nil ih
          simpa using hcons

theorem group_tupleText (is : List ι) : Group Item is (tupleText (is.map write)) :=
  .intro .nil (row_intercalate hwrite is)

theorem struct_tupleText (structName : String) (is : List ι) :
    StructText structName Item is (tupleText (is.map write)) := by
  have hstruct := StructText.intro (.absent : Title structName []) (group_tupleText hwrite is)
  rwa [List.nil_append] at hstruct

end Rows

def BoxEntry.written (entry : BoxEntry) : List Char :=
  fieldText entry.1.name (numberText entry.2)

theorem BoxEntry.text_written (entry : BoxEntry) : entry.Text entry.written :=
  .intro .nil .nil (numberText_spec entry.2)

/-- The written form of an entry's value. -/
def Entry.writtenValue : Entry → List Char
  | .prompt text => stringText text
  | .textBox entries => tupleText (entries.map BoxEntry.written)
  | .promptOrigin x y => tupleText ([x, y].map numberText)

theorem Entry.value_writtenValue (entry : Entry) : entry.Value entry.writtenValue := by
  cases entry with
  | prompt text => exact .prompt (spelled_escape rfl text.toList)
  | textBox entries => exact .textBox (struct_tupleText BoxEntry.text_written "LayoutBox" entries)
  | promptOrigin x y => exact .promptOrigin (group_tupleText numberText_spec [x, y])

def Entry.written (entry : Entry) : List Char :=
  fieldText entry.name entry.writtenValue

theorem Entry.text_written (entry : Entry) : entry.Text entry.written :=
  .intro .nil .nil entry.value_writtenValue

/-- **Any entries** can be listed, in the order in which they are given. -/
theorem listing_written (entries : List Entry) :
    Listing entries (tupleText (entries.map Entry.written)) := by
  have hstruct := struct_tupleText Entry.text_written "ShellConfig" entries
  have hlisting := Listing.intro .nil hstruct .nil
  rwa [List.nil_append, List.append_nil] at hlisting

/-! ## Written settings -/

/-- Every field of a text box. -/
def boxEntries (box : TextBox) : List BoxEntry :=
  [(.originX, box.originX), (.originY, box.originY), (.width, box.width), (.slack, box.slack),
    (.lineHeight, box.lineHeight), (.advance, box.advance)]

/-- Every field of the settings. -/
def entries (settings : Settings) : List Entry :=
  [.prompt settings.prompt, .textBox (boxEntries settings.textBox),
    .promptOrigin settings.promptOrigin.1 settings.promptOrigin.2]

theorem settingsOf_entries (settings : Settings) : settingsOf settings.entries = settings := rfl

theorem distinct_entries (settings : Settings) : Distinct settings.entries := by
  have hnames : settings.entries.map Entry.name = ["prompt", "text_box", "prompt_origin"] := rfl
  have hinner : (boxEntries settings.textBox).map (fun entry => entry.1.name)
      = ["origin_x", "origin_y", "width", "slack", "line_height", "advance"] := rfl
  refine ⟨by rw [hnames]; decide, ?_⟩
  intro entry hentry
  simp only [entries, List.mem_cons, List.not_mem_nil, or_false] at hentry
  rcases hentry with rfl | rfl | rfl
  · exact .nil
  · rw [Entry.innerNames, hinner]
    decide
  · exact .nil

/-- **Written settings** list every field. -/
theorem listing_text (settings : Settings) : Listing settings.entries settings.text.toList := by
  have hwritten : settings.text = String.ofList (tupleText (settings.entries.map Entry.written)) :=
    rfl
  rw [hwritten, String.toList_ofList]
  exact listing_written settings.entries

/-! ## Values -/

/-- The numbers among the settings. -/
def numbers (settings : Settings) : List Single :=
  (boxEntries settings.textBox).map Prod.snd ++
    [settings.promptOrigin.1, settings.promptOrigin.2]

theorem sameValue_self_iff (x : Single) : x.sameValue x = true ↔ .nan ≠ x := by
  cases x with
  | nan => simp [Single.sameValue, Single.place]
  | infinite negative =>
      have hsame : (Single.infinite negative).sameValue (.infinite negative) = true :=
        decide_eq_true rfl
      simp [hsame]
  | finite negative e f =>
      have hsame : (Single.finite negative e f).sameValue (.finite negative e f) = true :=
        decide_eq_true rfl
      simp [hsame]

theorem sameValue_self (settings : Settings) :
    settings.sameValue settings = true ↔ .nan ∉ settings.numbers := by
  simp [sameValue, TextBox.sameValue, sameValue_self_iff, numbers, boxEntries, and_assoc]

/-- **What is written reads back**, with every bit of every number. The settings read therefore have
the values of those written, unless a number has no value. -/
theorem parse_text {settings : Settings} (hprompt : settings.prompt ≠ "") :
    parse settings.text = .ok settings ∧
    (settings.sameValue settings = true ↔ .nan ∉ settings.numbers) := by
  refine ⟨?_, sameValue_self settings⟩
  rw [parse_of_distinct (listing_text settings) (distinct_entries settings), settingsOf_entries,
    if_neg hprompt]

/-- Every kind of escape in the prompt, an accent with and without a letter before it, and numbers
at the ends of the range. -/
def thornySettings : Settings where
  prompt := "\u0301\"\\'\x00\x07\n\r\te\u0301é😀\u202e"
  textBox :=
    { originX := .infinite true, originY := .zero true, width := .ofBits 1,
      slack := .ofBits 0xff7fffff, lineHeight := .infinite false }
  promptOrigin := (Single.ofDecimal true 1 (-1), 16777216)

theorem parse_text_thornySettings :
    thornySettings.prompt ≠ "" ∧ .nan ∉ thornySettings.numbers ∧
    parse thornySettings.text = .ok thornySettings ∧
    thornySettings.sameValue thornySettings = true := by
  have hprompt : thornySettings.prompt ≠ "" := by decide
  have hnumbers : .nan ∉ thornySettings.numbers := by decide +kernel
  obtain ⟨hparse, hvalue⟩ := parse_text hprompt
  exact ⟨hprompt, hnumbers, hparse, hvalue.mpr hnumbers⟩

end TextAdventure.Settings
