import TextAdventure.Proofs.Editor.Typing
import TextAdventure.Text.Ranges

/-!
# The line without its prompt

A slate is what is left of an editor when the prompt is taken away: a text and whether it has been
committed. Pressing keys and taking commands, in any order, does the same to both
(`acts_ofPrompt`), so what an editor gives does not depend on its prompt, and the prompt outlasts
everything that is done to the line.

The editor finds the end of its prompt by counting bytes. Only literal characters get behind the
prompt and nothing takes a character out of it, so the count always ends between two characters.
-/

namespace TextAdventure

/-! ## Acts -/

/-- What can be done to a line: a key is pressed, or the command is taken. -/
inductive Act where
  | press (key : Key)
  | take
deriving DecidableEq, Repr

/-- Acts one after another on anything with keys and commands: what was taken, and what is there
at the end. -/
def Act.all {σ : Type} (press : σ → Key → σ) (take : σ → Option (List String) × σ) :
    σ → List Act → List (Option (List String)) × σ
  | s, [] => ([], s)
  | s, .press key :: acts => Act.all press take (press s key) acts
  | s, .take :: acts =>
      let (command, s) := take s
      let (commands, s) := Act.all press take s acts
      (command :: commands, s)

/-- **Simulation**: a view that each act respects is respected by all of them together. -/
theorem Act.all_view {σ τ : Type} {press : σ → Key → σ} {take : σ → Option (List String) × σ}
    {press' : τ → Key → τ} {take' : τ → Option (List String) × τ} (view : τ → σ)
    (hpress : ∀ t key, press (view t) key = view (press' t key))
    (htake : ∀ t, take (view t) = Prod.map id view (take' t)) (t : τ) (acts : List Act) :
    Act.all press take (view t) acts = Prod.map id view (Act.all press' take' t acts) := by
  induction acts generalizing t with
  | nil => rfl
  | cons act acts ih =>
      cases act with
      | press key => rw [Act.all, Act.all, hpress, ih]
      | take => simp only [Act.all, htake, Prod.map_fst, Prod.map_snd, id_eq, ih, Prod.map_apply]

/-- What each act keeps is kept by all of them together. -/
theorem Act.all_keeps {σ : Type} {press : σ → Key → σ} {take : σ → Option (List String) × σ}
    {P : σ → Prop} (hpress : ∀ s key, P s → P (press s key)) (htake : ∀ s, P s → P (take s).2)
    {s : σ} (h : P s) (acts : List Act) : P (Act.all press take s acts).2 := by
  induction acts generalizing s with
  | nil => exact h
  | cons act acts ih =>
      cases act with
      | press key => exact ih (hpress s key h)
      | take => exact ih (htake s h)

def Editor.acts : Editor → List Act → List (Option (List String)) × Editor :=
  Act.all Editor.press Editor.take

/-! ## Slates -/

/-- A line without a prompt. -/
structure Slate where
  text : List Char := []
  ready : Bool := false
deriving DecidableEq, Repr

namespace Slate

/-- The slate after a key: a literal key is appended to the text, an erasing key takes its last
character away, and the enter key commits it. -/
def press (s : Slate) : Key → Slate
  | .char c => if Key.isLiteralChar c then { s with text := s.text ++ [c] } else s
  | .backspace => { s with text := s.text.dropLast }
  | .delete => { s with text := s.text.dropLast }
  | .enter => { s with ready := true }
  | .other _ => s

/-- Takes the command of a committed text and wipes the slate. -/
def take (s : Slate) : Option (List String) × Slate :=
  if s.ready then (some (Editor.tokens (String.ofList s.text)), {}) else (none, s)

def acts : Slate → List Act → List (Option (List String)) × Slate :=
  Act.all press take

theorem press_eq_edit (s : Slate) (key : Key) :
    s.press key = ⟨key.edit s.text, s.ready || decide (key = .enter)⟩ := by
  cases key with
  | char c => by_cases hc : Key.isLiteralChar c = true <;> simp [press, Key.edit, hc]
  | backspace => simp [press, Key.edit]
  | delete => simp [press, Key.edit]
  | enter => simp [press, Key.edit]
  | other name => simp [press, Key.edit]

/-- The slate behind a prompt. -/
def behind (prompt : String) (s : Slate) : Editor :=
  .holding prompt s.text s.ready

theorem press_behind (prompt : String) (s : Slate) (key : Key) :
    (s.behind prompt).press key = (s.press key).behind prompt := by
  rw [behind, Editor.press_holding, press_eq_edit]
  rfl

theorem take_behind (prompt : String) (s : Slate) :
    (s.behind prompt).take = Prod.map id (behind prompt) s.take := by
  obtain ⟨text, ready⟩ := s
  cases ready with
  | false => rfl
  | true => exact Editor.take_holding_true prompt text

/-! ## Literal characters -/

def Literal (s : Slate) : Prop :=
  ∀ c ∈ s.text, Key.isLiteralChar c = true

theorem Literal.press {s : Slate} (h : s.Literal) (key : Key) : (s.press key).Literal := by
  rw [press_eq_edit]
  intro c hc
  cases key with
  | char d =>
      by_cases hd : Key.isLiteralChar d = true
      · simp only [Key.edit, hd, if_true, List.mem_append, List.mem_singleton] at hc
        rcases hc with hc | rfl
        · exact h c hc
        · exact hd
      · simp only [Key.edit, hd] at hc
        exact h c hc
  | backspace => exact h c (List.dropLast_subset _ hc)
  | delete => exact h c (List.dropLast_subset _ hc)
  | enter => exact h c hc
  | other name => exact h c hc

theorem Literal.take {s : Slate} (h : s.Literal) : s.take.2.Literal := by
  unfold Slate.take
  split
  · intro c hc
    cases hc
  · exact h

theorem Literal.acts {s : Slate} (h : s.Literal) (acts : List Act) : (s.acts acts).2.Literal :=
  Act.all_keeps (fun _ key hs => hs.press key) (fun _ hs => hs.take) h acts

end Slate

/-- A literal character is a space, an ASCII digit or an ASCII letter. -/
theorem Key.isLiteralChar_iff (c : Char) :
    isLiteralChar c = true ↔ c = ' ' ∨ ('0' ≤ c ∧ c ≤ '9') ∨ ('A' ≤ c ∧ c ≤ 'Z') ∨
      ('a' ≤ c ∧ c ≤ 'z') := by
  have hdigit : c.isDigit = true ↔ '0' ≤ c ∧ c ≤ '9' :=
    Bool.and_eq_true_iff.trans (and_congr decide_eq_true_iff decide_eq_true_iff)
  have hupper : c.isUpper = true ↔ 'A' ≤ c ∧ c ≤ 'Z' := decide_eq_true_iff
  have hlower : c.isLower = true ↔ 'a' ≤ c ∧ c ≤ 'z' :=
    Bool.and_eq_true_iff.trans (and_congr decide_eq_true_iff decide_eq_true_iff)
  have hletter : c.isAlpha = true ↔ ('A' ≤ c ∧ c ≤ 'Z') ∨ ('a' ≤ c ∧ c ≤ 'z') :=
    Bool.or_eq_true_iff.trans (or_congr hupper hlower)
  have halphanum : c.isAlphanum = true ↔ c.isDigit = true ∨ c.isAlpha = true :=
    Bool.or_eq_true_iff.trans or_comm
  rw [isLiteralChar, Bool.or_eq_true_iff, beq_iff_eq, halphanum, hdigit, hletter]

/-- What holds of the literal characters among the ASCII ones holds of all. -/
theorem Key.of_isLiteralChar {P : Char → Prop}
    (hascii : ∀ n < 128, isLiteralChar (Char.ofNat n) = true → P (Char.ofNat n)) {c : Char}
    (h : isLiteralChar c = true) : P c := by
  have hc : c.toNat < 128 := by
    rcases (isLiteralChar_iff c).mp h with rfl | ⟨-, hc⟩ | ⟨-, hc⟩ | ⟨-, hc⟩
    · decide
    · exact Nat.lt_of_le_of_lt hc (by decide)
    · exact Nat.lt_of_le_of_lt hc (by decide)
    · exact Nat.lt_of_le_of_lt hc (by decide)
  exact Text.of_toNat_lt (P := fun c => isLiteralChar c = true → P c) hascii hc h

/-! ## The editor -/

namespace Editor

/-- **Any acts** on an editor do to the text behind its prompt what they do to a slate. -/
theorem acts_ofPrompt (prompt : String) (acts : List Act) :
    (ofPrompt prompt).acts acts = Prod.map id (Slate.behind prompt) (({} : Slate).acts acts) := by
  rw [ofPrompt_eq_holding]
  exact Act.all_view (Slate.behind prompt) (Slate.press_behind prompt) (Slate.take_behind prompt)
    {} acts

/-- What it means for an editor to be a slate behind a prompt. -/
structure Follows (e : Editor) (prompt : String) (s : Slate) : Prop where
  prompt_eq : e.prompt = prompt
  line_eq : e.line = prompt ++ e.tail
  /-- The line can be cut at the byte where the prompt ends, and is cut right there. -/
  cut_eq : e.cut? = some (prompt, e.tail)
  literal : ∀ c ∈ e.tail.toList, c = ' ' ∨ ('0' ≤ c ∧ c ≤ '9') ∨ ('A' ≤ c ∧ c ≤ 'Z') ∨
    ('a' ≤ c ∧ c ≤ 'z')
  tail_eq : e.tail = String.ofList s.text
  ready_eq : e.ready = s.ready

theorem follows_behind (prompt : String) {s : Slate} (h : s.Literal) :
    Follows (s.behind prompt) prompt s where
  prompt_eq := rfl
  line_eq := by rw [Slate.behind, tail_holding]; rfl
  cut_eq := by simp [Slate.behind]
  literal := by
    intro c hc
    rw [Slate.behind, tail_holding, String.toList_ofList] at hc
    exact (Key.isLiteralChar_iff c).mp (h c hc)
  tail_eq := tail_holding prompt s.text s.ready
  ready_eq := rfl

/-- **An editor is a slate behind a prompt**, whatever the prompt is and whatever is done to it:
keys and takings leave the prompt in front and only literal characters behind it, and the text,
the flag and every command taken are those of the slate. So they are the same for any two
prompts. -/
theorem acts_follow_slate (prompt : String) (acts : List Act) :
    Follows ((ofPrompt prompt).acts acts).2 prompt (({} : Slate).acts acts).2 ∧
    ((ofPrompt prompt).acts acts).1 = (({} : Slate).acts acts).1 ∧
    ∀ other : String,
      ((ofPrompt other).acts acts).1 = ((ofPrompt prompt).acts acts).1 ∧
      ((ofPrompt other).acts acts).2.tail = ((ofPrompt prompt).acts acts).2.tail ∧
      ((ofPrompt other).acts acts).2.ready = ((ofPrompt prompt).acts acts).2.ready := by
  have hliteral : (({} : Slate).acts acts).2.Literal :=
    Slate.Literal.acts (by intro c hc; cases hc) acts
  have hfollows (prompt : String) :
      Follows ((ofPrompt prompt).acts acts).2 prompt (({} : Slate).acts acts).2 := by
    rw [acts_ofPrompt]
    exact follows_behind prompt hliteral
  have hcommands (prompt : String) :
      ((ofPrompt prompt).acts acts).1 = (({} : Slate).acts acts).1 := by
    rw [acts_ofPrompt]
    rfl
  refine ⟨hfollows prompt, hcommands prompt, fun other => ⟨?_, ?_, ?_⟩⟩
  · rw [hcommands, hcommands]
  · rw [(hfollows other).tail_eq, (hfollows prompt).tail_eq]
  · rw [(hfollows other).ready_eq, (hfollows prompt).ready_eq]

end Editor

end TextAdventure
