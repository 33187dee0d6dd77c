import TextAdventure.Proofs.Editor.Slate
import TextAdventure.Proofs.Session.Run

/-!
# Lines typed into a session

What a row of keys amounts to is the texts of the lines that it completed and the text of the line
that it leaves unfinished: `Key.lines`. Everything that a session does can be read off these texts.
After the keys it shows the latest reply of the conversation that the completed lines led, with the
unfinished text behind its prompt (`pressAll_eq_showing`), and at each enter key it reports one
exchange of that conversation (`atEnter_pressEach`).

The lines are read from the front, one key at a time, in step with the session.
-/

namespace TextAdventure

/-! ## Lines -/

/-- The texts of the lines that keys completed, and of the one that they leave unfinished. -/
structure Key.Lines where
  completed : List (List Char) := []
  unfinished : List Char := []
deriving DecidableEq, Repr

namespace Key

/-- The lines of keys that are pressed while a text is there already. -/
def linesFrom (text : List Char) : List Key → Lines
  | [] => { unfinished := text }
  | key :: keys =>
      if key = .enter then
        { linesFrom [] keys with completed := text :: (linesFrom [] keys).completed }
      else linesFrom (key.edit text) keys

/-- The lines of keys. -/
def lines (keys : List Key) : Lines := linesFrom [] keys

/-- Later keys go on with the line that the earlier ones leave unfinished. -/
theorem linesFrom_append (text : List Char) (a b : List Key) :
    linesFrom text (a ++ b)
      = { linesFrom (linesFrom text a).unfinished b with
          completed := (linesFrom text a).completed
            ++ (linesFrom (linesFrom text a).unfinished b).completed } := by
  induction a generalizing text with
  | nil => rfl
  | cons key a ih =>
      by_cases hkey : key = .enter
      · simp [linesFrom, hkey, ih]
      · simp [linesFrom, hkey, ih]

theorem linesFrom_of_notMem (text : List Char) {keys : List Key} (hkeys : .enter ∉ keys) :
    linesFrom text keys = { unfinished := keys.foldl edit text } := by
  induction keys generalizing text with
  | nil => rfl
  | cons key keys ih =>
      simp only [List.mem_cons, not_or] at hkeys
      obtain ⟨hkey, hrest⟩ := hkeys
      simp [linesFrom, Ne.symm hkey, ih _ hrest]

theorem lines_concat_enter (keys : List Key) :
    lines (keys ++ [.enter])
      = { completed := (lines keys).completed ++ [(lines keys).unfinished] } := by
  simp [lines, linesFrom_append, linesFrom]

theorem lines_join {done : List (List Key)} {last : List Key}
    (hdone : ∀ segment ∈ done, .enter ∉ segment) (hlast : .enter ∉ last) :
    lines (join done last) = { completed := done.map typed, unfinished := typed last } := by
  induction done with
  | nil => simp [lines, linesFrom_of_notMem _ hlast, typed]
  | cons segment done ih =>
      have hsegment : .enter ∉ segment := hdone segment (by simp)
      have hrest := ih fun s hs => hdone s (by simp [hs])
      rw [lines] at hrest
      simp [lines, join_cons, linesFrom_append, linesFrom_of_notMem _ hsegment, linesFrom, hrest,
        typed]

/-- The lines of keys are what is typed in their segments. -/
theorem lines_eq_typed_segments (keys : List Key) :
    lines keys
      = { completed := (segments keys).1.map typed, unfinished := typed (segments keys).2 } := by
  obtain ⟨hdone, hlast⟩ := enter_notMem_segments keys
  have h := lines_join hdone hlast
  rwa [join_segments] at h

theorem length_completed_linesFrom_le (text : List Char) (keys : List Key) :
    (linesFrom text keys).completed.length ≤ keys.length := by
  induction keys generalizing text with
  | nil => simp [linesFrom]
  | cons key keys ih =>
      by_cases hkey : key = .enter
      · simpa [linesFrom, hkey] using ih []
      · have h := ih (key.edit text)
        simp only [linesFrom, hkey, if_false, List.length_cons]
        omega

theorem isLiteralChar_of_mem_edit {text : List Char} (h : ∀ c ∈ text, isLiteralChar c = true)
    (key : Key) : ∀ c ∈ key.edit text, isLiteralChar c = true := by
  have hslate := Slate.Literal.press (s := ⟨text, false⟩) h key
  rwa [Slate.press_eq_edit] at hslate

theorem isLiteralChar_of_mem_linesFrom {text : List Char} (h : ∀ c ∈ text, isLiteralChar c = true)
    (keys : List Key) :
    ∀ line ∈ (linesFrom text keys).completed, ∀ c ∈ line, isLiteralChar c = true := by
  induction keys generalizing text with
  | nil => simp [linesFrom]
  | cons key keys ih =>
      by_cases hkey : key = .enter
      · simp only [linesFrom, hkey, if_true, List.mem_cons]
        rintro line (rfl | hline)
        · exact h
        · exact ih (by simp) line hline
      · simp only [linesFrom, hkey, if_false]
        exact ih (isLiteralChar_of_mem_edit h key)

end Key

/-! ## Sessions -/

namespace Session

variable {σ : Type} (settings : Settings) (engine : Engine σ) (reply : Reply σ) (text : List Char)

/-- The run that is played: the session shows the latest reply of the conversation that the
completed lines led. -/
theorem pressAll_eq_showing (keys : List Key) :
    ((showing settings engine reply []).pressAll keys).2
      = showing settings engine
          (Exchange.latest reply (transcript engine reply (Key.lines keys).completed))
          (Key.lines keys).unfinished := by
  obtain ⟨hdone, hlast⟩ := Key.enter_notMem_segments keys
  have hplayed := pressAll_showing settings engine reply hdone hlast
  rw [Key.join_segments] at hplayed
  rw [hplayed, Key.lines_eq_typed_segments]

/-- The calls that are made are those of the same conversation. -/
theorem calls_eq_transcript (keys : List Key) :
    (Id.run (StateT.run ((showing settings engine reply []).pressAllWith engine.recorded keys)
        [])).2
      = (transcript engine reply (Key.lines keys).completed).map fun x => (x.call, x.state) := by
  obtain ⟨hdone, hlast⟩ := Key.enter_notMem_segments keys
  have hrecorded := run_pressAllWith_recorded settings engine reply hdone hlast
  rw [Key.join_segments] at hrecorded
  rw [hrecorded, Key.lines_eq_typed_segments]

/-! ## Key by key -/

/-- What each key reports, and the session after it. -/
def pressEach (s : Session σ) : List Key → List (Except CallError Bool × Session σ)
  | [] => []
  | key :: keys => s.press key :: pressEach (s.press key).2 keys

/-- What exchanges are seen as, one after another: a report, and a session that shows the reply
which is then the latest, behind a bare prompt. -/
def moments : Reply σ → List (Exchange σ) → List (Except CallError Bool × Session σ)
  | _, [] => []
  | reply, x :: exchanges =>
      (x.result, showing settings engine (x.reply?.getD reply) [])
        :: moments (x.reply?.getD reply) exchanges

theorem press_showing_of_ne_enter {key : Key} (hkey : key ≠ .enter) :
    (showing settings engine reply text).press key
      = (.ok false, showing settings engine reply (key.edit text)) := by
  rw [press, pressWith_showing_of_ne_enter _ _ _ _ _ hkey]
  rfl

theorem press_showing_enter :
    (showing settings engine reply text).press .enter
      = ((engine.exchange reply text).result,
          showing settings engine ((engine.exchange reply text).reply?.getD reply) []) := by
  rw [press, pressWith_showing_enter]
  rfl

/-- **At the enter keys** a session reports the conversation of the completed lines, exchange by
exchange. -/
theorem atEnter_pressEach (keys : List Key) :
    Key.atEnter keys ((showing settings engine reply text).pressEach keys)
      = moments settings engine reply
          (transcript engine reply (Key.linesFrom text keys).completed) := by
  induction keys generalizing reply text with
  | nil => rfl
  | cons key keys ih =>
      by_cases hkey : key = .enter
      · subst hkey
        -- the line is complete: its exchange comes first, and the rest goes on from its reply
        rw [pressEach, press_showing_enter, Key.atEnter_cons_enter, ih]
        simp [Key.linesFrom, transcript_cons, moments]
      · rw [pressEach, press_showing_of_ne_enter _ _ _ _ hkey, Key.atEnter_cons_of_ne hkey, ih]
        simp [Key.linesFrom, hkey]

end Session

end TextAdventure
