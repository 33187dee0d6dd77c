import TextAdventure.Proofs.Editor.Typing

/-!
# The wording of a line

The words of a command are read from its text in lower case, without the spaces it starts with:
the wording of the text. They are the parts of the wording between single spaces.

Every key does to the wording of a text what it does to the text (`wording_edit_congr`), so texts
that differ in their cases and in the spaces they start with go on giving the same commands,
whatever is typed or erased behind them.
-/

namespace TextAdventure

/-- What the words of a command are read from: its text in lower case, without the spaces it starts
with. -/
def Editor.wording (text : List Char) : List Char :=
  (text.map Char.toLower).dropWhile (· == ' ')

theorem Editor.tokens_ofList (text : List Char) :
    tokens (String.ofList text) = (Text.splitFields (wording text)).map String.ofList := by
  simp [tokens, wording]

theorem Text.splitFields_eq_splitOn (text : List Char) :
    splitFields text = List.splitOn ' ' text := by
  induction text with
  | nil => rfl
  | cons c rest ih =>
      rw [splitFields, ih, List.splitOn, List.splitOn, List.splitOnP_cons_eq_if_modifyHead]
      by_cases hc : c = ' '
      · simp [hc]
      · cases hrest : List.splitOnP (· == ' ') rest with
        | nil => exact absurd hrest (List.splitOnP_ne_nil _ _)
        | cons field fields => simp [hc]

/-- The words of a text, which are never none: a blank text has one empty word. -/
def Editor.words (text : List Char) : List String :=
  (List.splitOn ' ' (wording text)).map String.ofList

theorem Editor.tokens_eq_words (text : List Char) : tokens (String.ofList text) = words text := by
  rw [tokens_ofList, Text.splitFields_eq_splitOn]
  rfl

/-! ## Characters of words -/

theorem Text.mem_intercalate_of_mem {separator field : List Char} {fields : List (List Char)}
    (hfield : field ∈ fields) {c : Char} (hc : c ∈ field) : c ∈ separator.intercalate fields := by
  induction fields with
  | nil => cases hfield
  | cons first rest ih =>
      cases rest with
      | nil => simpa [List.mem_singleton.mp hfield] using hc
      | cons second rest =>
          rw [List.intercalate_cons_cons]
          rcases List.mem_cons.mp hfield with rfl | hfield
          · simp [hc]
          · simp [ih hfield]

/-- The characters of a word are characters of the text in lower case. -/
theorem Editor.exists_mem_of_mem_words {text : List Char} {word : String}
    (hword : word ∈ words text) {c : Char} (hc : c ∈ word.toList) :
    ∃ d ∈ text, d.toLower = c := by
  obtain ⟨field, hfield, rfl⟩ := List.mem_map.mp hword
  rw [String.toList_ofList] at hc
  -- the wording is its parts with spaces put back between them
  have hparts : [' '].intercalate (List.splitOn ' ' (wording text)) = wording text :=
    List.intercalate_splitOn ' '
  have hwording : c ∈ wording text := by
    rw [← hparts]
    exact Text.mem_intercalate_of_mem hfield hc
  exact List.mem_map.mp (List.dropWhile_subset _ hwording)

/-! ## Editing -/

theorem dropWhile_dropLast {α : Type} (p : α → Bool) (xs : List α) :
    xs.dropLast.dropWhile p = (xs.dropWhile p).dropLast := by
  induction xs with
  | nil => rfl
  | cons x xs ih =>
      cases xs with
      | nil => cases hx : p x <;> simp [hx]
      | cons y ys =>
          rw [List.dropLast_cons_of_ne_nil (by simp), List.dropWhile_cons, List.dropWhile_cons]
          by_cases hx : p x = true
          · rw [if_pos hx, if_pos hx, ih]
          · rw [if_neg hx, if_neg hx]
            rfl

namespace Editor

theorem wording_dropLast (text : List Char) : wording text.dropLast = (wording text).dropLast := by
  rw [wording, List.map_dropLast, dropWhile_dropLast, wording]

/-- A character goes behind the wording, unless it is another space at the start. -/
theorem wording_append_singleton (text : List Char) (c : Char) :
    wording (text ++ [c])
      = if (wording text).isEmpty then [c.toLower].dropWhile (· == ' ')
        else wording text ++ [c.toLower] := by
  rw [wording, List.map_append, List.dropWhile_append]
  rfl

/-- **One key** does the same to texts of the same wording. -/
theorem wording_edit_congr {a b : List Char} (h : wording a = wording b) (key : Key) :
    wording (key.edit a) = wording (key.edit b) := by
  cases key with
  | char c =>
      by_cases hc : Key.isLiteralChar c = true
      · simp only [Key.edit, hc, if_true, wording_append_singleton, h]
      · simpa only [Key.edit, if_neg hc] using h
  | backspace => simp only [Key.edit, wording_dropLast, h]
  | delete => simp only [Key.edit, wording_dropLast, h]
  | enter => exact h
  | other name => exact h

end Editor

end TextAdventure
