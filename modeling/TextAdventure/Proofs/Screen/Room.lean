import TextAdventure.Proofs.Screen.Written

/-!
# Painting into a sink with little room

A sink may run out of room at any byte of a frame, in the middle of an escape sequence or of a
character, and it may fail to flush. Since a frame is one text and a flush, it is enough to know
what becomes of one text: the sink takes its bytes up to the last one that there is room for
(`bytes_fitting_append_tornPart`), and reports what it does not take. `EndsIn` says this of a
painter, and a flush after it adds the flush's own answer (`EndsIn.bind_flush`).
-/

namespace TextAdventure.Screen

/-! ## Accepted bytes -/

/-- Every byte that a sink has accepted. -/
def Sink.bytes (sink : Sink) : List UInt8 :=
  Text.bytes sink.written ++ sink.torn

theorem fitting_isPrefix (room : Nat) (text : List Char) : fitting room text <+: text := by
  induction text generalizing room with
  | nil => exact List.prefix_rfl
  | cons c text ih =>
      rw [fitting]
      split
      · exact List.cons_prefix_cons.mpr ⟨rfl, ih _⟩
      · exact List.nil_prefix

theorem utf8ByteSize_fitting_le (room : Nat) (text : List Char) :
    (String.ofList (fitting room text)).utf8ByteSize ≤ room := by
  induction text generalizing room with
  | nil => exact Nat.zero_le _
  | cons c text ih =>
      rw [fitting]
      split
      · rename_i hc
        have hrest := ih (room - c.utf8Size)
        rw [Text.utf8ByteSize_ofList_cons]
        omega
      · exact Nat.zero_le _

/-- **What fits and what is torn** are together as many bytes as there is room for. -/
theorem bytes_fitting_append_tornPart (room : Nat) (text : String) :
    Text.bytes (String.ofList (fitting room text.toList)) ++ tornPart room text
      = (Text.bytes text).take room := by
  obtain ⟨rest, hrest⟩ := fitting_isPrefix room text.toList
  have hsize := utf8ByteSize_fitting_le room text.toList
  rw [tornPart]
  generalize fitting room text.toList = part at hrest hsize ⊢
  have htext : text = String.ofList part ++ String.ofList rest := by
    rw [← String.ofList_append, hrest, String.ofList_toList]
  have hpart : (Text.bytes (String.ofList part)).take room = Text.bytes (String.ofList part) :=
    List.take_of_length_le hsize
  rw [htext, Text.bytes_append, List.take_append, hpart, List.drop_left' (Text.length_bytes _)]

/-! ## Painters in a sink -/

/-- How a painter ends that has an output to write into a sink with so much room, and has `finish`
for an answer once everything is written. -/
structure EndsIn (painter : Painter Unit) (output : List UInt8) (finish : Except PaintError Unit)
    (sink : Sink) (room : Nat) : Prop where
  /-- It succeeds exactly if there is room for everything and its end succeeds. -/
  ok_iff : (run painter sink).2 = .ok () ↔ output.length ≤ room ∧ finish = .ok ()
  /-- Output that there is no room for is reported. -/
  full : room < output.length → (run painter sink).2 = .error .sinkFull
  /-- So is a failure at the end. -/
  fits : output.length ≤ room → (run painter sink).2 = finish
  /-- The sink has accepted the output from its start to the last byte there was room for. -/
  accepted : (run painter sink).1.bytes = sink.bytes ++ output.take room

section

variable {sink : Sink} {room : Nat}

/-- **One text**, into a sink that is still whole. -/
theorem endsIn_put (hroom : sink.room = some room) (hwhole : sink.torn = []) (text : String) :
    EndsIn (put text) (Text.bytes text) (.ok ()) sink room := by
  by_cases hfits : text.utf8ByteSize ≤ room
  · have hrun : run (put text) sink
        = ({ sink with
              written := sink.written ++ text
              room := some (room - text.utf8ByteSize) }, .ok ()) := by
      simp only [run, put, hroom, if_pos hfits]
    have htake : (Text.bytes text).take room = Text.bytes text := List.take_of_length_le hfits
    rw [← Text.length_bytes] at hfits
    exact {
      ok_iff := by simp only [hrun, hfits, and_self]
      full := fun h => absurd hfits (Nat.not_le.mpr h)
      fits := fun _ => by rw [hrun]
      accepted := by
        simp only [hrun, Sink.bytes, hwhole, Text.bytes_append, List.append_nil, htake] }
  · have hrun : run (put text) sink
        = ({ sink with
              written := sink.written ++ String.ofList (fitting room text.toList)
              room := some 0
              torn := sink.torn ++ tornPart room text }, .error .sinkFull) := by
      simp only [run, put, hroom, if_neg hfits]
    rw [← Text.length_bytes] at hfits
    exact {
      ok_iff := by simp only [hrun, hfits, false_and, reduceCtorEq]
      full := fun _ => by rw [hrun]
      fits := fun h => absurd h hfits
      accepted := by
        simp only [hrun, Sink.bytes, hwhole, Text.bytes_append, List.nil_append, List.append_nil,
          List.append_assoc, bytes_fitting_append_tornPart] }

theorem flushes_run_put (text : String) (sink : Sink) :
    (run (put text) sink).1.flushes = sink.flushes := by
  simp only [run, put]
  cases sink.room with
  | none => rfl
  | some room => by_cases h : text.utf8ByteSize ≤ room <;> simp only [h, if_true, if_false]

theorem run_bind_of_ok {p q : Painter Unit} (h : (run p sink).2 = .ok ()) :
    run (do p; q) sink = run q (run p sink).1 := by
  cases hp : p sink with
  | ok _ after => simp only [run, Bind.bind, EStateM.bind, hp]
  | error e after =>
      rw [run, hp] at h
      cases h

theorem run_bind_of_error {p q : Painter Unit} {e : PaintError} (h : (run p sink).2 = .error e) :
    run (do p; q) sink = run p sink := by
  cases hp : p sink with
  | ok _ after =>
      rw [run, hp] at h
      cases h
  | error e after => simp only [run, Bind.bind, EStateM.bind, hp]

theorem run_flush (sink : Sink) :
    run flush sink = (sink, if sink.flushes then .ok () else .error .flushFailed) := by
  cases h : sink.flushes <;> simp [run, flush, h]

/-- **A flush at the end** gives its own answer if everything before it was accepted, and is not
reached otherwise. -/
theorem EndsIn.bind_flush {painter : Painter Unit} {output : List UInt8}
    (h : EndsIn painter output (.ok ()) sink room)
    (hflushes : (run painter sink).1.flushes = sink.flushes) :
    EndsIn (do painter; flush) output (run flush sink).2 sink room := by
  by_cases hroom : output.length ≤ room
  · have hrun : run (do painter; flush) sink = ((run painter sink).1, (run flush sink).2) := by
      rw [run_bind_of_ok (h.fits hroom), run_flush, run_flush, hflushes]
    exact {
      ok_iff := by simp only [hrun, hroom, true_and]
      full := fun hfull => absurd hroom (Nat.not_le.mpr hfull)
      fits := fun _ => by rw [hrun]
      accepted := by rw [hrun, h.accepted] }
  · have hfull := h.full (Nat.not_le.mp hroom)
    have hrun : run (do painter; flush) sink = run painter sink := run_bind_of_error hfull
    exact {
      ok_iff := by simp only [hrun, hfull, hroom, false_and, reduceCtorEq]
      full := fun _ => by rw [hrun, hfull]
      fits := fun hfits => absurd hfits hroom
      accepted := by rw [hrun, h.accepted] }

end

/-! ## Frames and glyphs -/

/-- **A painter that does not overflow** has a text. -/
theorem Paints.exists_text {painter : Painter Unit} {text? : Option String}
    (h : Paints painter text?) (hpaints : (run painter {}).2 ≠ .error .overflow) :
    ∃ text, text? = some text := by
  cases text? with
  | some text => exact ⟨text, rfl⟩
  | none =>
      obtain ⟨sink', hsink'⟩ := h {} rfl
      refine absurd ?_ hpaints
      rw [run, hsink']

/-- **Failures end painting and are reported.** Take what a frame, or a list of glyphs, writes into
a sink that takes everything. A sink with less room for it accepts its bytes as far as there is
room; painting succeeds exactly if that is all of them and, for a frame, the flush at its end
succeeds. Glyphs are not flushed. -/
theorem painting_reports_failures {sink : Sink} {room : Nat} (hroom : sink.room = some room)
    (hwhole : sink.torn = []) :
    (∀ frame, (run (paintFrame frame) {}).2 ≠ .error .overflow →
      EndsIn (paintFrame frame) (run (paintFrame frame) {}).1.bytes (run flush sink).2 sink room) ∧
    (∀ glyphs, (run (paintGlyphs glyphs) {}).2 ≠ .error .overflow →
      EndsIn (paintGlyphs glyphs) (run (paintGlyphs glyphs) {}).1.bytes (.ok ()) sink room) := by
  have houtput : ∀ text, ({ written := text } : Sink).bytes = Text.bytes text :=
    fun text => List.append_nil _
  constructor
  · intro frame hpaints
    obtain ⟨text, htext⟩ := exists_frameText? rfl hpaints
    rw [run_paintFrame htext, houtput, paintFrame_eq_put htext]
    exact (endsIn_put hroom hwhole text).bind_flush (flushes_run_put text sink)
  · intro glyphs hpaints
    obtain ⟨text, htext⟩ := (paints_paintGlyphs glyphs).exists_text hpaints
    have hglyphs : Paints (paintGlyphs glyphs) (some text) := htext ▸ paints_paintGlyphs glyphs
    rw [hglyphs.run_eq, houtput, show paintGlyphs glyphs = put text from hglyphs]
    exact endsIn_put hroom hwhole text

/-- An accented letter and the prompt below it. -/
def accentFrame : Frame where
  text := [{ glyph := { char := 'é' }, x := 0, y := 0 }]
  commandLine := "> é"
  commandOrigin := (0, 1)

/-- Thirty bytes end inside the letter, which is torn; with room for everything the flush still
fails, and for the glyphs alone it does not matter. -/
theorem accentFrame_reports_failures :
    (run (paintFrame accentFrame) {}).2 ≠ .error .overflow ∧
      (run (paintGlyphs accentFrame.text) {}).2 ≠ .error .overflow ∧
      (run (paintFrame accentFrame) { room := some 30 }).2 = .error .sinkFull ∧
      (run (paintFrame accentFrame) { room := some 30 }).1.torn = [0xc3] ∧
      (run (paintFrame accentFrame) { room := some 30 }).1.bytes
        = (run (paintFrame accentFrame) {}).1.bytes.take 30 ∧
      (run (paintFrame accentFrame) { room := some 100, flushes := false }).2
        = .error .flushFailed ∧
      (run (paintGlyphs accentFrame.text) { room := some 100, flushes := false }).2 = .ok () := by
  have hframe : (run (paintFrame accentFrame) {}).2 ≠ .error .overflow := by
    have hok : (run (paintFrame accentFrame) {}).2 = .ok () := rfl
    rw [hok]
    nofun
  have hglyphs : (run (paintGlyphs accentFrame.text) {}).2 ≠ .error .overflow := by
    have hok : (run (paintGlyphs accentFrame.text) {}).2 = .ok () := rfl
    rw [hok]
    nofun
  have hlength : (run (paintFrame accentFrame) {}).1.bytes.length = 52 := by decide +kernel
  have hfewer : (run (paintGlyphs accentFrame.text) {}).1.bytes.length = 32 := by decide +kernel
  let small : Sink := { room := some 30 }
  let stuck : Sink := { room := some 100, flushes := false }
  have hsmall := (painting_reports_failures (show small.room = some 30 from rfl) rfl).1 _ hframe
  obtain ⟨hstuck, hstuckGlyphs⟩ :=
    painting_reports_failures (show stuck.room = some 100 from rfl) rfl
  exact ⟨hframe, hglyphs, hsmall.full (by omega), by decide +kernel, hsmall.accepted,
    (hstuck _ hframe).fits (by omega), (hstuckGlyphs _ hglyphs).fits (by omega)⟩

end TextAdventure.Screen
