import Mathlib.Data.List.Infix
import TextAdventure.Play
import TextAdventure.Proofs.Echo.History
import TextAdventure.Proofs.Screen.Output

/-!
# The loop of the shell

The loop paints the session, reads an event, and goes on with the session after it. Only a press
does something: it asks to leave, or its key goes to the session (`step_eq`). So the session at any
time is the one that the keys pressed so far have led to (`after`), and the loop paints these
sessions one after another until it leaves or waits (`play_eq_forM_frames`). While it waits, the
frame painted last is that of the session it waits with.

Events come in pieces. The shell stands at a stage between two of them, and the pieces lead from
stage to stage as all their events at once would (`foldlM_advance`), so that nothing depends on
where a piece ends. What is painted for a session that begins is what the loop paints
(`perform_of_session?_eq_ok`).
-/

namespace TextAdventure

theorem Session.pressAll_append {σ : Type} (s : Session σ) (a b : List Key) :
    (s.pressAll (a ++ b)).2 = ((s.pressAll a).2.pressAll b).2 := by
  induction a generalizing s with
  | nil => rfl
  | cons key a ih => exact ih (s.press key).2

theorem Modifiers.atMostShift_iff (m : Modifiers) : m.atMostShift = true ↔ m = {} ∨ m = shift := by
  -- checked for each of the sets of eight bits
  obtain ⟨⟨bits⟩⟩ := m
  revert bits
  decide +kernel

theorem KeyEvent.exists_key_eq_other {m : Modifiers} (hsome : m ≠ {}) (hshift : m ≠ .shift)
    (c : Char) (action : KeyAction) : ∃ name, key ⟨.char c, m, action⟩ = .other name := by
  have hchord : m.atMostShift = false := by
    rw [← Bool.not_eq_true, Modifiers.atMostShift_iff]
    simp [hsome, hshift]
  exact ⟨_, by simp only [key, hchord, Bool.false_eq_true, if_false]; rfl⟩

namespace Play

open Screen (painted)

/-! ## Events -/

/-- The key of a press. A repeat, a release and whatever is no key have none. -/
def pressed? : TerminalEvent → Option Key
  | .other => none
  | .key event => if event.action = .press then some event.key else none

/-- Whether an event is a press that asks to leave. -/
def leaves : TerminalEvent → Bool
  | .other => false
  | .key event => event.action = .press && event.quits

/-- The session after the presses among events. -/
def after (session : Session Echo.State) (events : List TerminalEvent) : Session Echo.State :=
  (session.pressAll (events.filterMap pressed?)).2

theorem after_append (session : Session Echo.State) (a b : List TerminalEvent) :
    after session (a ++ b) = after (after session a) b := by
  rw [after, List.filterMap_append, Session.pressAll_append]
  rfl

theorem step_eq (session : Session Echo.State) (event : TerminalEvent) :
    step session event = if leaves event then none else some (after session [event]) := by
  cases event with
  | other => rfl
  | key event =>
      by_cases hpress : event.action = .press
      · by_cases hquits : event.quits = true
        · simp [step, leaves, hpress, hquits]
        · simp [step, leaves, hpress, hquits, after, pressed?, Session.pressAll]
      · simp [step, leaves, hpress, after, pressed?, Session.pressAll]

/-! ## The loop -/

/-- The frames of the session as it is before each of some events, and behind the last of them. -/
def frames (session : Session Echo.State) (events : List TerminalEvent) : List Frame :=
  events.inits.map fun seen => (after session seen).frame

theorem frames_nil (session : Session Echo.State) : frames session [] = [session.frame] := rfl

theorem frames_cons (session : Session Echo.State) (event : TerminalEvent)
    (events : List TerminalEvent) :
    frames session (event :: events) = session.frame :: frames (after session [event]) events := by
  have hlater (seen : List TerminalEvent) :
      (after session (event :: seen)).frame = (after (after session [event]) seen).frame :=
    congrArg Session.frame (after_append session [event] seen)
  simp only [frames, List.inits_cons, List.map_cons, List.map_map, Function.comp_def, hlater]
  rfl

theorem exists_frames_eq_concat (session : Session Echo.State) (events : List TerminalEvent) :
    ∃ earlier, frames session events = earlier ++ [(after session events).frame] := by
  induction events generalizing session with
  | nil => exact ⟨[], rfl⟩
  | cons event events ih =>
      obtain ⟨earlier, hearlier⟩ := ih (after session [event])
      refine ⟨session.frame :: earlier, ?_⟩
      rw [frames_cons, hearlier, ← after_append]
      rfl

/-- How far the loop has come with a session when the first of these events, if there is one, asks
to leave. -/
def ended (session : Session Echo.State) : List TerminalEvent → Progress
  | [] => .waiting session
  | _ :: unread => .left session unread

/-- **The loop** reads up to the first press that asks to leave, and nothing behind it. -/
theorem play_eq_forM_frames (session : Session Echo.State) {before rest : List TerminalEvent}
    (hbefore : ∀ event ∈ before, leaves event = false)
    (hrest : ∀ event ∈ rest.head?, leaves event = true) :
    play session (before ++ rest) = (do
      forM (frames session before) Screen.paintFrame
      pure (ended (after session before) rest)) := by
  induction before generalizing session with
  | nil =>
      have hafter : after session [] = session := rfl
      cases rest with
      | nil => simp [play, frames_nil, hafter, ended]
      | cons quit unread =>
          have hquit : leaves quit = true := hrest quit rfl
          simp [play, step_eq, hquit, frames_nil, hafter, ended]
  | cons event before ih =>
      -- the loop goes on from the session after this event, and so do the frames
      have hevent : leaves event = false := hbefore event (by simp)
      have hlater := ih (after session [event]) fun e he => hbefore e (by simp [he])
      have hafter : after session (event :: before) = after (after session [event]) before :=
        after_append session [event] before
      rw [List.cons_append, play, step_eq, hevent, frames_cons, List.forM_cons, hafter]
      simp [hlater]

/-! ## Pieces -/

/-- The first frame comes before the first event is read. -/
theorem play_eq_resume (session : Session Echo.State) (events : List TerminalEvent) :
    play session events = (do
      Screen.paintFrame session.frame
      resume session events) := by
  cases events <;> rfl

theorem resume_append (session : Session Echo.State) (first later : List TerminalEvent) :
    resume session (first ++ later) = (do
      match ← resume session first with
      | .waiting session => resume session later
      | .left session unread => pure (.left session (unread ++ later))) := by
  induction first generalizing session with
  | nil => simp [resume]
  | cons event first ih =>
      rw [List.cons_append, resume, resume]
      cases step session event with
      | none => simp
      | some next => simp [play_eq_resume, ih]

namespace Stage

theorem advance_nil (stage : Stage) : stage.advance [] = pure stage := by
  cases stage with
  | idle => rfl
  | playing session => simp [advance, resume, Progress.stage]
  | finished error => rfl

theorem advance_append (stage : Stage) (first later : List TerminalEvent) :
    stage.advance (first ++ later) = (do
      let stage ← stage.advance first
      stage.advance later) := by
  cases stage with
  | idle =>
      by_cases hleave : first.any asksToLeave = true
      · simp [advance, hleave]
      · simp [advance, hleave]
  | playing session =>
      simp only [advance, resume_append, map_bind, bind_map_left]
      congr 1
      funext progress
      cases progress with
      | left session unread => simp [Progress.stage]
      | waiting session => simp [Progress.stage]
  | finished error => simp [advance]

/-- **Events in pieces** lead where they lead all at once, and paint the same on the way. -/
theorem foldlM_advance (stage : Stage) (pieces : List (List TerminalEvent)) :
    pieces.foldlM advance stage = stage.advance pieces.flatten := by
  induction pieces generalizing stage with
  | nil => simp [advance_nil]
  | cons piece pieces ih => simp [advance_append, ih]

/-- Behind the end nothing is looked at, so that nothing is lost by reading no more of it. -/
theorem foldlM_advance_of_isFinished {stage : Stage} (h : stage.isFinished = true)
    (pieces : List (List TerminalEvent)) : pieces.foldlM advance stage = pure stage := by
  rw [foldlM_advance]
  cases stage with
  | idle => cases h
  | playing session => cases h
  | finished error => rfl

end Stage

/-- The whole performance, with the events as they come. -/
theorem perform_flatten (loaded : Option (Resources Asset)) (pieces : List (List TerminalEvent)) :
    perform loaded pieces.flatten = (do
      let stage ← begin loaded
      let stage ← pieces.foldlM Stage.advance stage
      pure stage.error?) := by
  simp only [perform, Stage.foldlM_advance]

/-- A session that begins is played, and the end of playing is no error. -/
theorem perform_of_session?_eq_ok {loaded : Option (Resources Asset)}
    {session : Session Echo.State} (hbegin : session? loaded = some (.ok session))
    (events : List TerminalEvent) :
    perform loaded events = (do
      let _ ← play session events
      pure none) := by
  have hnone (progress : Progress) : progress.stage.error? = none := by cases progress <;> rfl
  have hopening : begin loaded = (do
      Screen.paintFrame session.frame
      pure (.playing session)) := by
    simp [begin, hbegin, play, Progress.stage]
  rw [perform, hopening, play_eq_resume]
  simp [Stage.advance, hnone]

/-! ## Sessions -/

/-- Whatever happened, some reply is shown and behind the prompt stands what was typed since the
last command. -/
theorem exists_after_opened_eq_showing (narrative : List String) (settings : Settings)
    (events : List TerminalEvent) :
    ∃ engine reply, after (Echo.opened narrative settings) events
      = .showing settings engine reply (Key.lines (events.filterMap pressed?)).unfinished :=
  ⟨_, _, Session.pressAll_eq_showing ..⟩

/-- The frame of a session shows its text, placed in the box, and its command line. -/
theorem frame_after_opened (narrative : List String) (settings : Settings)
    (events : List TerminalEvent) :
    (after (Echo.opened narrative settings) events).frame =
      { text := Layout.place settings.textBox
          (after (Echo.opened narrative settings) events).display
        commandLine := (after (Echo.opened narrative settings) events).editor.line
        commandOrigin := settings.promptOrigin } := by
  obtain ⟨engine, reply, hshowing⟩ := exists_after_opened_eq_showing narrative settings events
  rw [hshowing]
  rfl

/-- The command line is the prompt and what was typed since the last command. -/
theorem line_after_opened (narrative : List String) (settings : Settings)
    (events : List TerminalEvent) :
    (after (Echo.opened narrative settings) events).editor.line =
      settings.prompt ++ String.ofList (Key.lines (events.filterMap pressed?)).unfinished := by
  obtain ⟨engine, reply, hshowing⟩ := exists_after_opened_eq_showing narrative settings events
  rw [hshowing]
  rfl

theorem after_concat_chord (narrative : List String) (settings : Settings)
    (seen : List TerminalEvent) {m : Modifiers} (hsome : m ≠ {}) (hshift : m ≠ .shift) (c : Char)
    (action : KeyAction) :
    after (Echo.opened narrative settings) (seen ++ [.key ⟨.char c, m, action⟩])
      = after (Echo.opened narrative settings) seen := by
  obtain ⟨name, hname⟩ := KeyEvent.exists_key_eq_other hsome hshift c action
  rw [after_append]
  cases action with
  | press =>
      -- what was reached shows some reply and some text, and the chord edits nothing in the text
      obtain ⟨engine, reply, hshowing⟩ := exists_after_opened_eq_showing narrative settings seen
      rw [hshowing]
      simp [after, pressed?, hname, Session.pressAll, Session.press_showing_of_ne_enter, Key.edit]
  | «repeat» => rfl
  | release => rfl

/-- Each turn takes a command, and each command an event. -/
theorem turn_after_le (narrative : List String) (settings : Settings)
    (events : List TerminalEvent) :
    (after (Echo.opened narrative settings) events).story.state.turn ≤ events.length := by
  rw [after, Echo.state_pressAll_opened]
  calc (Echo.remembered (Key.commands (events.filterMap pressed?))).turn
      ≤ (Key.commands (events.filterMap pressed?)).length := Echo.turn_remembered_le _
    _ = (Key.lines (events.filterMap pressed?)).completed.length := List.length_map _
    _ ≤ (events.filterMap pressed?).length := Key.length_completed_linesFrom_le [] _
    _ ≤ events.length := List.length_filterMap_le _ _

/-- What the loop does with a session and events of which one, `quit`, is the first to ask to
leave. -/
structure Follows (settings : Settings) (session : Session Echo.State)
    (before : List TerminalEvent) (quit : TerminalEvent) (unread : List TerminalEvent) :
    Prop where
  stops : play session (before ++ quit :: unread) = (do
    forM (frames session before) Screen.paintFrame
    pure (.left (after session before) unread))
  waits : ∀ seen, seen <+: before → play session seen = (do
    forM (frames session seen) Screen.paintFrame
    pure (.waiting (after session seen)))
  /-- What is written if no painting fails. -/
  output : ∀ seen, seen <+: before → ∀ sink sink',
    forM (frames session seen) Screen.paintFrame sink = .ok () sink' →
      sink'.written = sink.written ++ String.join ((frames session seen).map painted)
  /-- The frame that was painted last is the one of the session as it is. -/
  current : ∀ seen, seen <+: before →
    ∃ earlier, frames session seen = earlier ++ [(after session seen).frame]
  /-- It holds the text on display, placed in the box, and the command line. -/
  shows : ∀ seen, seen <+: before → (after session seen).frame =
    { text := Layout.place settings.textBox (after session seen).display
      commandLine := (after session seen).editor.line
      commandOrigin := settings.promptOrigin }
  line : ∀ seen, seen <+: before → (after session seen).editor.line =
    settings.prompt ++ String.ofList (Key.lines (seen.filterMap pressed?)).unfinished
  chords : ∀ seen, seen <+: before → ∀ m : Modifiers, m ≠ {} → m ≠ .shift → ∀ c action,
    after session (seen ++ [.key ⟨.char c, m, action⟩]) = after session seen
  turn_lt : (after session before).story.state.turn < Echo.turnLimit

/-- **Playing** an echo story goes on up to the first press that asks to leave, and the session
there is the one that the earlier presses led to. -/
theorem play_stops_at_quit (narrative : List String) (settings : Settings)
    (session : Session Echo.State)
    (hsession : Session.ofNarrative Echo.compile narrative settings = .ok session)
    (events : List TerminalEvent) (hfew : events.length < Echo.turnLimit)
    (hquits : ∃ event ∈ events, leaves event = true) :
    ∃ before quit unread, events = before ++ quit :: unread ∧
      (∀ event ∈ before, leaves event = false) ∧ leaves quit = true ∧
      Follows settings session before quit unread := by
  obtain rfl : Echo.opened narrative settings = session := by
    simpa [Echo.ofNarrative_eq_opened] using hsession
  obtain ⟨quit, hfound⟩ := Option.isSome_iff_exists.mp (List.find?_isSome.mpr hquits)
  obtain ⟨hquit, before, unread, hevents, hstay⟩ := List.find?_eq_some_iff_append.mp hfound
  have hbefore : ∀ event ∈ before, leaves event = false := fun event he => by
    simpa using hstay event he
  refine ⟨before, quit, unread, hevents, hbefore, hquit, ?_⟩
  constructor
  case stops => exact play_eq_forM_frames _ hbefore (by simp [hquit])
  case waits =>
    intro seen hseen
    have hstays : ∀ event ∈ seen, leaves event = false := fun e he => hbefore e (hseen.subset he)
    have hnone : ∀ event ∈ ([] : List TerminalEvent).head?, leaves event = true := by simp
    have hplay := play_eq_forM_frames (Echo.opened narrative settings) hstays hnone
    rwa [List.append_nil] at hplay
  case output => exact fun seen _ sink sink' h => Screen.written_of_forM_paintFrame_eq_ok h
  case current => exact fun seen _ => exists_frames_eq_concat _ seen
  case shows => exact fun seen _ => frame_after_opened narrative settings seen
  case line => exact fun seen _ => line_after_opened narrative settings seen
  case chords =>
    exact fun seen _ m hsome hshift c action =>
      after_concat_chord narrative settings seen hsome hshift c action
  case turn_lt =>
    have hbeforeFew : before.length ≤ events.length := by simp [hevents]
    exact Nat.lt_of_le_of_lt ((turn_after_le narrative settings before).trans hbeforeFew) hfew

/-- A chord, a key that comes up, a letter, a key that is held, no key at all, and enter; then an
escape that comes up, one that goes down, and a letter behind it. -/
def busyEvents : List TerminalEvent :=
  [.key { code := .char 'w', modifiers := .control },
    .key { code := .char 'g', action := .release },
    .key { code := .char 'G', modifiers := .shift },
    .key { code := .char 'o', action := .repeat },
    .other,
    .key { code := .enter },
    .key { code := .esc, action := .release },
    .key { code := .esc },
    .key { code := .char 'x' }]

theorem play_stops_at_quit_busyEvents :
    (∃ before quit unread, busyEvents = before ++ quit :: unread ∧
      (∀ event ∈ before, leaves event = false) ∧ leaves quit = true ∧
      Follows {} (Echo.opened ["A cellar."] {}) before quit unread) ∧
    (Screen.run (play (Echo.opened ["A cellar."] {}) busyEvents) {}).2.isOk = true := by
  have hsession := Echo.ofNarrative_eq_opened ["A cellar."] {}
  have hfew : busyEvents.length < Echo.turnLimit := by decide
  have hquits : ∃ event ∈ busyEvents, leaves event = true := by decide
  exact ⟨play_stops_at_quit ["A cellar."] {} _ hsession busyEvents hfew hquits, by decide +kernel⟩

end Play

end TextAdventure
