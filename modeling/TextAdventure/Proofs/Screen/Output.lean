import TextAdventure.Screen

/-!
# What painting adds to a sink

A painter that succeeds has added one text to what its sink had accepted, and which text that is
does not depend on the sink: on a sink that takes everything the painter succeeds too, and adds the
same (`Appends`). So what a frame adds wherever it is painted is what it writes on its own
(`written_of_paintFrame_eq_ok`), and frames painted one after another add what each of them does.
-/

namespace TextAdventure.Screen

theorem exists_of_bind_eq_ok {p q : Painter Unit} {sink sink' : Sink}
    (h : (do p; q : Painter Unit) sink = .ok () sink') :
    ∃ between, p sink = .ok () between ∧ q between = .ok () sink' := by
  cases hp : p sink with
  | error e between => simp [Bind.bind, EStateM.bind, hp] at h
  | ok _ between => exact ⟨between, rfl, by simpa [Bind.bind, EStateM.bind, hp] using h⟩

/-- The text of a frame painted on its own. -/
def painted (frame : Frame) : String :=
  (run (paintFrame frame) {}).1.written

/-- A painter that, where it succeeds, adds a text that it adds to every sink without a limit. -/
def Appends (painter : Painter Unit) : Prop :=
  ∀ sink sink', painter sink = .ok () sink' →
    ∃ text, sink'.written = sink.written ++ text ∧
      ∀ written, painter { written := written } = .ok () { written := written ++ text }

namespace Appends

theorem pure : Appends (Pure.pure ()) := by
  rintro sink sink' ⟨⟩
  exact ⟨"", by simp, fun written => by simp [Pure.pure, EStateM.pure]⟩

theorem flush : Appends Screen.flush := by
  intro sink sink' h
  unfold Screen.flush at h
  split at h
  · cases h
    exact ⟨"", by simp, fun written => by simp [Screen.flush]⟩
  · cases h

theorem put (text : String) : Appends (Screen.put text) := by
  intro sink sink' h
  refine ⟨text, ?_, fun written => rfl⟩
  obtain ⟨written, room, flushes, torn⟩ := sink
  cases room with
  | none =>
      cases h
      rfl
  | some room =>
      -- a text that does not fit fails, so this one was accepted whole
      simp only [Screen.put] at h
      split at h
      · cases h
        rfl
      · cases h

theorem moveTo (column row : Nat) : Appends (Screen.moveTo column row) := by
  unfold Screen.moveTo
  cases moveText? column row with
  | some text => exact put text
  | none =>
      intro sink sink' h
      cases h

theorem bind {p q : Painter Unit} (hp : Appends p) (hq : Appends q) : Appends (do p; q) := by
  intro sink sink' h
  obtain ⟨between, hfirst, hsecond⟩ := exists_of_bind_eq_ok h
  obtain ⟨a, ha, hpa⟩ := hp sink between hfirst
  obtain ⟨b, hb, hqb⟩ := hq between sink' hsecond
  refine ⟨a ++ b, by rw [hb, ha, String.append_assoc], fun written => ?_⟩
  simp only [Bind.bind, EStateM.bind, hpa, hqb, String.append_assoc]

end Appends

theorem appends_paintGlyph (placed : PlacedGlyph) : Appends (paintGlyph placed) := by
  unfold paintGlyph
  split
  · exact .pure
  · exact (Appends.moveTo _ _).bind (.put _)

theorem appends_paintGlyphs (glyphs : List PlacedGlyph) : Appends (paintGlyphs glyphs) := by
  induction glyphs with
  | nil => exact .pure
  | cons placed rest ih => exact (appends_paintGlyph placed).bind ih

theorem appends_paintFrame (frame : Frame) : Appends (paintFrame frame) :=
  (Appends.put clearText).bind ((appends_paintGlyphs frame.text).bind
    ((Appends.moveTo _ _).bind ((Appends.put _).bind ((Appends.moveTo _ _).bind .flush))))

/-- **A frame** adds to any sink that takes it what it writes on its own. -/
theorem written_of_paintFrame_eq_ok {frame : Frame} {sink sink' : Sink}
    (h : paintFrame frame sink = .ok () sink') :
    sink'.written = sink.written ++ painted frame := by
  obtain ⟨text, hwritten, hpaint⟩ := appends_paintFrame frame sink sink' h
  have hpainted : painted frame = text := by
    have hempty := hpaint ""
    rw [String.empty_append] at hempty
    rw [painted, run, hempty]
  rw [hwritten, hpainted]

theorem written_of_forM_paintFrame_eq_ok {frames : List Frame} {sink sink' : Sink}
    (h : forM frames paintFrame sink = .ok () sink') :
    sink'.written = sink.written ++ String.join (frames.map painted) := by
  induction frames generalizing sink with
  | nil =>
      cases h
      simp
  | cons frame frames ih =>
      rw [List.forM_cons] at h
      obtain ⟨between, hfirst, hlater⟩ := exists_of_bind_eq_ok h
      rw [ih hlater, written_of_paintFrame_eq_ok hfirst, List.map_cons, String.join_cons,
        String.append_assoc]

end TextAdventure.Screen
