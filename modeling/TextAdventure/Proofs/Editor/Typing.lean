import TextAdventure.Editor

/-!
# Typing behind a prompt

The line of an editor that was filled by keys is its prompt followed by a text, and every
operation can be read off that text: a literal key is appended to it, an erasing key takes its
last character away, and taking the command empties it. `Editor.holding` is the editor with a
given text behind its prompt; the lemmas say that each operation leads from one such editor to
another, so no later proof looks at the line again.
-/

namespace TextAdventure

/-! ## The text of a line -/

/-- What a key leaves of the text typed before it. -/
def Key.edit (text : List Char) : Key → List Char
  | .char c => if isLiteralChar c then text ++ [c] else text
  | .backspace => text.dropLast
  | .delete => text.dropLast
  | .enter => text
  | .other _ => text

/-- What remains of keys typed into an empty line. -/
def Key.typed (keys : List Key) : List Char :=
  keys.foldl Key.edit []

namespace Editor

/-- The editor with a text behind its prompt, committed or not. -/
def holding (prompt : String) (text : List Char) (ready : Bool) : Editor :=
  { prompt := prompt, line := prompt ++ String.ofList text, ready := ready }

variable (prompt : String) (text : List Char) (ready : Bool)

theorem ofPrompt_eq_holding : ofPrompt prompt = holding prompt [] false := by
  simp [ofPrompt, holding]

/-- The line can be cut where its prompt ends. -/
@[simp] theorem cut?_holding :
    (holding prompt text ready).cut? = some (prompt, String.ofList text) := by
  have hcut : Text.cutAt? prompt.utf8ByteSize (prompt.toList ++ text)
      = some (prompt.toList, text) :=
    Text.cutAt?_eq_some_iff.mpr ⟨rfl, by rw [String.ofList_toList]⟩
  simp [cut?, holding, hcut]

@[simp] theorem tail_holding : (holding prompt text ready).tail = String.ofList text := by
  simp [tail]

/-- Erasing stops at the prompt: the text loses its last character if it has one. -/
theorem erase_holding :
    (holding prompt text ready).erase = holding prompt text.dropLast ready := by
  by_cases htext : text = []
  · subst htext
    simp [erase, holding]
  · -- a text that is there has a size, so the line is longer than the prompt
    have hsize : 0 < (String.ofList text).utf8ByteSize := by
      rw [Nat.pos_iff_ne_zero, ne_eq, String.utf8ByteSize_eq_zero_iff]
      simpa using htext
    have hlast : (prompt.toList ++ text).dropLast = prompt.toList ++ text.dropLast :=
      List.dropLast_append_of_ne_nil htext
    simp [erase, holding, hsize, hlast, String.ofList_append]

/-- **One key**: it edits the text behind the prompt, and the enter key commits the line. -/
theorem press_holding (key : Key) :
    (holding prompt text ready).press key
      = holding prompt (key.edit text) (ready || decide (key = .enter)) := by
  cases key with
  | char c =>
      -- only a literal character reaches the line
      by_cases hc : Key.isLiteralChar c = true
      · have hpush : (prompt ++ String.ofList text).push c
            = prompt ++ String.ofList (text ++ [c]) := by
          apply String.toList_inj.mp
          simp
        simp [press, Key.edit, hc, holding, hpush]
      · simp [press, Key.edit, hc]
  | backspace => simp [press, Key.edit, erase_holding]
  | delete => simp [press, Key.edit, erase_holding]
  | enter => simp [press, Key.edit, holding]
  | other name => simp [press, Key.edit]

/-- Of a line that has not been committed there is nothing to take. -/
theorem take_holding_false :
    (holding prompt text false).take = (none, holding prompt text false) := rfl

/-- Taking a committed line gives the words of its text and leaves the bare prompt. -/
theorem take_holding_true :
    (holding prompt text true).take
      = (some (tokens (String.ofList text)), holding prompt [] false) := by
  have hready : (holding prompt text true).ready = true := rfl
  rw [take, if_pos hready, cut?_holding, tail_holding]
  simp [holding]

end Editor

end TextAdventure
