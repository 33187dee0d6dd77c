import TextAdventure.Job
import TextAdventure.Preview
import TextAdventure.Text.Fields

/-!
# The narrative in a file

A narrative is read as lines and joined by spaces. What that makes of a file can be said without
lines, one character at a time with a look at the next (`shown?`): line ends become single spaces,
the one at the very end of the file goes away, and everything else stays where it is. So a narrative
has no newline, and blank lines are seen as spaces in a row (`joinLines_lines`).
-/

namespace TextAdventure.Text

/-! ## Line ends -/

/-- What is left of a character in front of another, or at the end if there is no other. A newline
becomes a space, unless it is at the end; a carriage return goes with the newline behind it; every
other character stays. -/
def shown? (c : Char) (next : Option Char) : Option Char :=
  if c = '\n' then next.map fun _ => ' '
  else if c = '\r' ∧ next = some '\n' then none
  else some c

/-- What is left of all characters. -/
def unbroken : List Char → List Char
  | [] => []
  | c :: rest => (shown? c rest.head?).toList ++ unbroken rest

/-- The narrative in a text. -/
def narrative (text : String) : String :=
  String.ofList (unbroken text.toList)

/-- A character that is no part of a line end stays, whatever comes behind it. -/
theorem shown?_of_ne {c : Char} (hnewline : c ≠ '\n') (hreturn : c ≠ '\r') (next : Option Char) :
    shown? c next = some c := by
  simp [shown?, hnewline, hreturn]

theorem shown?_ne_newline (c : Char) (next : Option Char) : shown? c next ≠ some '\n' := by
  unfold shown?
  split
  · cases next with
    | none => simp
    | some d => simp
  · rename_i hnewline
    split
    · simp
    · simpa using hnewline

theorem newline_notMem_unbroken (text : List Char) : '\n' ∉ unbroken text := by
  induction text with
  | nil => simp [unbroken]
  | cons c rest ih =>
      rw [unbroken, List.mem_append, not_or]
      refine ⟨fun h => ?_, ih⟩
      exact shown?_ne_newline c rest.head? (Option.mem_toList.mp h)

/-! ## Lines put together -/

theorem splitLines_eq_nil_iff {text : List Char} : splitLines text = [] ↔ text = [] := by
  fun_cases splitLines text <;> simp_all

/-- An empty line in front of others is a space, and nothing if there are no others. -/
theorem intercalate_nil_cons_splitLines (rest : List Char) :
    [' '].intercalate ([] :: splitLines rest)
      = (shown? '\n' rest.head?).toList ++ [' '].intercalate (splitLines rest) := by
  cases rest with
  | nil => rfl
  | cons c rest =>
      have hlines : splitLines (c :: rest) ≠ [] := by simp [splitLines_eq_nil_iff]
      rw [List.intercalate_cons_of_ne_nil hlines]
      rfl

/-- **Lines joined by spaces** are the text without its line ends. -/
theorem intercalate_splitLines (text : List Char) :
    [' '].intercalate (splitLines text) = unbroken text := by
  -- the cases are those of the scanner: a line end of either kind, or a character of a line
  fun_induction splitLines text with
  | case1 => rfl
  | case2 rest ih =>
      rw [intercalate_nil_cons_splitLines, ih]
      rfl
  | case3 rest _ ih =>
      rw [intercalate_nil_cons_splitLines, ih]
      rfl
  | case4 c rest hlone hnewline hlines ih =>
      obtain rfl := splitLines_eq_nil_iff.mp hlines
      have hshown : shown? c none = some c := by simp [shown?, hnewline]
      simp [unbroken, hshown]
  | case5 c rest hlone hnewline line lines hlines ih =>
      have hreturn : ¬ (c = '\r' ∧ rest.head? = some '\n') := by
        rintro ⟨hc, hhead⟩
        obtain ⟨behind, hrest⟩ := List.head?_eq_some_iff.mp hhead
        exact hlone behind hc hrest
      have hshown : shown? c rest.head? = some c := by simp [shown?, hnewline, hreturn]
      rw [unbroken, hshown, ← ih, hlines]
      cases lines with
      | nil => simp
      | cons next lines => simp [List.intercalate_cons_cons]

theorem joinLines_lines_eq_narrative (text : String) : joinLines (lines text) = narrative text := by
  rw [joinLines, lines, intercalate_map_ofList]
  exact congrArg String.ofList (intercalate_splitLines text.toList)

/-! ## Blank lines -/

/-- A text that does not end in a part of a line end is left alone by what comes behind it. -/
theorem unbroken_append {a : List Char} (hopen : ∀ c ∈ a.getLast?, c ≠ '\n' ∧ c ≠ '\r')
    (b : List Char) : unbroken (a ++ b) = unbroken a ++ unbroken b := by
  induction a with
  | nil => rfl
  | cons c a ih =>
      cases a with
      | nil =>
          obtain ⟨hnewline, hreturn⟩ := hopen c rfl
          simp [unbroken, shown?_of_ne hnewline hreturn]
      | cons d a =>
          rw [List.getLast?_cons_cons] at hopen
          have hfirst (rest : List Char) :
              unbroken (c :: d :: rest) = (shown? c (some d)).toList ++ unbroken (d :: rest) := rfl
          rw [hfirst, List.append_assoc, ← ih hopen]
          exact hfirst (a ++ b)

/-- One line end in front of a text is one space. -/
theorem unbroken_ending_append {ending b : List Char}
    (hending : ending = ['\n'] ∨ ending = ['\r', '\n']) (hb : b ≠ []) :
    unbroken (ending ++ b) = ' ' :: unbroken b := by
  obtain ⟨c, b, rfl⟩ := List.exists_cons_of_ne_nil hb
  rcases hending with rfl | rfl <;> rfl

/-- So many line ends in a row are so many spaces. -/
theorem unbroken_flatten_append {endings : List (List Char)} {b : List Char}
    (hendings : ∀ ending ∈ endings, ending = ['\n'] ∨ ending = ['\r', '\n']) (hb : b ≠ []) :
    unbroken (endings.flatten ++ b) = List.replicate endings.length ' ' ++ unbroken b := by
  induction endings with
  | nil => rfl
  | cons ending endings ih =>
      have hrest : endings.flatten ++ b ≠ [] := by simp [hb]
      rw [List.flatten_cons, List.append_assoc,
        unbroken_ending_append (hendings ending (by simp)) hrest,
        ih fun other hother => hendings other (by simp [hother])]
      rfl

theorem narrative_append {a b : String} {endings : List String}
    (hopen : ∀ c ∈ a.toList.getLast?, c ≠ '\n' ∧ c ≠ '\r')
    (hendings : ∀ ending ∈ endings, ending = "\n" ∨ ending = "\r\n") (hb : b ≠ "") :
    narrative (a ++ String.join endings ++ b)
      = narrative a ++ String.ofList (List.replicate endings.length ' ') ++ narrative b := by
  have hlists : ∀ ending ∈ endings.map String.toList, ending = ['\n'] ∨ ending = ['\r', '\n'] := by
    intro ending hending
    obtain ⟨text, htext, rfl⟩ := List.mem_map.mp hending
    rcases hendings text htext with rfl | rfl
    · exact .inl rfl
    · exact .inr rfl
  have hrest : b.toList ≠ [] := by simpa using hb
  have hunbroken := unbroken_flatten_append hlists hrest
  rw [List.length_map] at hunbroken
  apply String.toList_inj.mp
  simp only [narrative, String.toList_append, String.toList_ofList, String.toList_join,
    List.append_assoc, unbroken_append hopen, List.flatMap_def, hunbroken]

/-! ## Narratives -/

/-- The frame of a preview, if its lines can be counted, holds the joined lines laid out. -/
theorem text_of_frame_eq_ok {box : TextBox} {source : String} {frame : Frame}
    (h : Preview.frame box source = .ok frame) :
    frame.text = Layout.place box (Markup.lex (joinLines (lines source))) := by
  simp only [Preview.frame] at h
  cases hcount : Layout.lineCount box
      (Layout.place box (Markup.lex (joinLines (lines source)))) with
  | error overflow =>
      rw [hcount] at h
      cases h
  | ok count =>
      rw [hcount] at h
      cases h
      rfl

/-- **From a file to its narrative.** Lines read and joined are the text with its line ends made
spaces, except for the one at its very end, which goes away. So there is no newline in it, and line
ends in a row, which are blank lines, are as many spaces in a row. That is what a job that reads the
file leads to, and what a preview of it lays out. -/
theorem joinLines_lines (text : String) :
    joinLines (lines text) = narrative text ∧
    '\n' ∉ (narrative text).toList ∧
    (∀ (a b : String) (endings : List String), text = a ++ String.join endings ++ b →
      (∀ c ∈ a.toList.getLast?, c ≠ '\n' ∧ c ≠ '\r') →
      (∀ ending ∈ endings, ending = "\n" ∨ ending = "\r\n") → b ≠ "" →
      narrative text
        = narrative a ++ String.ofList (List.replicate endings.length ' ') ++ narrative b) ∧
    (∀ (read : FileReader) (path : String), read path = .ok text →
      ∃ rows, loadLines read path = .ok rows ∧ joinLines rows = narrative text) ∧
    ∀ (box : TextBox) (frame : Frame), Preview.frame box text = .ok frame →
      frame.text = Layout.place box (Markup.lex (narrative text)) := by
  have hjoined := joinLines_lines_eq_narrative text
  refine ⟨hjoined, ?_, ?_, ?_, ?_⟩
  · rw [narrative, String.toList_ofList]
    exact newline_notMem_unbroken text.toList
  · rintro a b endings rfl hopen hendings hb
    exact narrative_append hopen hendings hb
  · intro read path hread
    exact ⟨lines text, by rw [loadLines, hread], hjoined⟩
  · intro box frame hframe
    rw [← hjoined]
    exact text_of_frame_eq_ok hframe

/-- Line ends of both kinds, with a blank line between them, a carriage return of its own, and a
line end at the end. -/
def brokenText : String := "A\rdark\r\n\ncellar.\r\r\n"

theorem brokenText_joined :
    brokenText = "A\rdark" ++ String.join ["\r\n", "\n"] ++ "cellar.\r\r\n" ∧
      (∀ c ∈ "A\rdark".toList.getLast?, c ≠ '\n' ∧ c ≠ '\r') ∧
      (∀ ending ∈ ["\r\n", "\n"], ending = "\n" ∨ ending = "\r\n") ∧
      (∃ rows, loadLines (fun _ => .ok brokenText) "story.txt" = .ok rows ∧
        joinLines rows = "A\rdark  cellar.\r") ∧
      ∃ frame, Preview.frame {} brokenText = .ok frame ∧
        frame.text = Layout.place {} (Markup.lex "A\rdark  cellar.\r") := by
  obtain ⟨-, -, hblank, hloaded, hframe⟩ := joinLines_lines brokenText
  have hparts : brokenText = "A\rdark" ++ String.join ["\r\n", "\n"] ++ "cellar.\r\r\n" := by
    decide
  have hopen : ∀ c ∈ "A\rdark".toList.getLast?, c ≠ '\n' ∧ c ≠ '\r' := by simp
  have hendings : ∀ ending ∈ ["\r\n", "\n"], ending = "\n" ∨ ending = "\r\n" := by simp
  have hnarrative : narrative brokenText = "A\rdark  cellar.\r" := by
    rw [hblank _ _ _ hparts hopen hendings (by decide)]
    decide
  rw [hnarrative] at hloaded hframe
  obtain ⟨frame, hpreview⟩ : ∃ frame, Preview.frame {} brokenText = .ok frame := ⟨_, rfl⟩
  exact ⟨hparts, hopen, hendings, hloaded (fun _ => .ok brokenText) "story.txt" rfl, frame,
    hpreview, hframe {} frame hpreview⟩

end TextAdventure.Text
