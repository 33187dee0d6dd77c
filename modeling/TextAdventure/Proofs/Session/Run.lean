import TextAdventure.Session
import TextAdventure.Proofs.Editor.Typing
import TextAdventure.Proofs.Engine.Conversation
import TextAdventure.Proofs.Session.Segments

/-!
# Runs of a session

A session that keys have brought about shows the reply of the latest call that succeeded and
holds the text of an unfinished command: `Session.showing` is the session with that reply and
that text. One key leads from one such session to another (`pressWith_showing_of_ne_enter`,
`pressWith_showing_enter`), and a whole row of keys is the conversation that its completed
segments lead with the engine (`pressAllWith_join`).

The equations hold for every way of asking the engine. Asking the engine itself gives the run
that is played, and asking it with a record gives the calls that were made.
-/

namespace TextAdventure

variable {σ : Type}

/-! ## One key -/

namespace Session

/-- The session that shows a reply, with a text behind the prompt. -/
def showing (settings : Settings) (engine : Engine σ) (reply : Reply σ) (text : List Char) :
    Session σ where
  settings := settings
  editor := .holding settings.prompt text false
  story := ⟨engine, reply.state⟩
  display := Markup.lex reply.text

variable {m : Type → Type} [Monad m] [LawfulMonad m] (ask : Asking m σ)
variable (settings : Settings) (engine : Engine σ) (reply : Reply σ) (text : List Char)

/-- A session begins by showing its opening. -/
theorem begin_eq_showing {opening : Reply σ} (hstart : engine.start = .ok opening) :
    begin settings engine = .ok (showing settings engine opening []) := by
  simp [begin, Story.start, hstart, showing, Editor.ofPrompt_eq_holding]

omit [LawfulMonad m] in
/-- A key other than enter edits the text, and nothing is asked. -/
theorem pressWith_showing_of_ne_enter {key : Key} (hkey : key ≠ .enter) :
    (showing settings engine reply text).pressWith ask key
      = pure (.ok false, showing settings engine reply (key.edit text)) := by
  have htake : ((Editor.holding settings.prompt text false).press key).take
      = (none, .holding settings.prompt (key.edit text) false) := by
    simp [Editor.press_holding, hkey, Editor.take_holding_false]
  simp [pressWith, showing, htake]

/-- **The enter key** asks once, for the call of the text and in the state shown; a reply is shown
in place of the old one, and a failure leaves it. -/
theorem pressWith_showing_enter :
    (showing settings engine reply text).pressWith ask .enter = (do
      let answer ← ask (Call.ofText text) reply.state
      pure (Exchange.result ⟨Call.ofText text, reply.state, answer⟩,
        showing settings engine (answer.toOption.getD reply) [])) := by
  have htake : ((Editor.holding settings.prompt text false).press .enter).take
      = (some (Editor.tokens (String.ofList text)), .holding settings.prompt [] false) := by
    simp [Editor.press_holding, Key.edit, Editor.take_holding_true]
  simp only [pressWith, showing, htake, Story.commandWith, Engine.dispatchWith, Call.ofText,
    bind_assoc]
  congr 1
  funext answer
  cases answer with
  | ok next => simp [Exchange.result, Except.toOption]
  | error reason => simp [Exchange.result, Except.toOption]

/-! ## Several keys -/

theorem pressAllWith_append (s : Session σ) (a b : List Key) :
    s.pressAllWith ask (a ++ b) = (do
      let first ← s.pressAllWith ask a
      let second ← first.2.pressAllWith ask b
      pure (first.1 ++ second.1, second.2)) := by
  induction a generalizing s with
  | nil => simp [pressAllWith]
  | cons key a ih => simp [pressAllWith, ih]

/-- Keys without an enter key only edit the text. -/
theorem pressAllWith_showing_typing {keys : List Key} (hkeys : .enter ∉ keys) :
    (showing settings engine reply text).pressAllWith ask keys
      = pure (List.replicate keys.length (.ok false),
          showing settings engine reply (keys.foldl Key.edit text)) := by
  induction keys generalizing text with
  | nil => rfl
  | cons key keys ih =>
      simp only [List.mem_cons, not_or] at hkeys
      obtain ⟨hkey, hrest⟩ := hkeys
      simp [pressAllWith, pressWith_showing_of_ne_enter _ _ _ _ _ (Ne.symm hkey), ih _ hrest,
        List.replicate_succ]

/-- **A completed segment**: its keys report no command, its enter key reports the exchange, and
the rest goes on from the reply that is then the latest, with an empty text. -/
theorem pressAllWith_segment {segment : List Key} (hsegment : .enter ∉ segment)
    (keys : List Key) :
    (showing settings engine reply []).pressAllWith ask (segment ++ .enter :: keys) = (do
      let answer ← ask (Call.ofText (Key.typed segment)) reply.state
      let rest ← (showing settings engine (answer.toOption.getD reply) []).pressAllWith ask keys
      pure (List.replicate segment.length (.ok false)
          ++ Exchange.result ⟨Call.ofText (Key.typed segment), reply.state, answer⟩ :: rest.1,
        rest.2)) := by
  rw [pressAllWith_append, pressAllWith_showing_typing _ _ _ _ _ hsegment]
  simp [pressAllWith, pressWith_showing_enter, Key.typed]

/-- What completed segments and the exchanges they led to report, key by key. -/
def reports (done : List (List Key)) (exchanges : List (Exchange σ)) :
    List (Except CallError Bool) :=
  (List.zipWith (fun segment x => List.replicate segment.length (.ok false) ++ [x.result])
    done exchanges).flatten

/-- **A whole run** is the conversation of its completed segments. -/
theorem pressAllWith_join {done : List (List Key)} {last : List Key}
    (hdone : ∀ segment ∈ done, .enter ∉ segment) (hlast : .enter ∉ last) :
    (showing settings engine reply []).pressAllWith ask (Key.join done last) = (do
      let exchanges ← converse ask reply (done.map Key.typed)
      pure (reports done exchanges ++ List.replicate last.length (.ok false),
        showing settings engine (Exchange.latest reply exchanges) (Key.typed last))) := by
  induction done generalizing reply with
  | nil =>
      simp [converse, reports, pressAllWith_showing_typing _ _ _ _ _ hlast, Key.typed]
  | cons segment done ih =>
      have hsegment : .enter ∉ segment := hdone segment (by simp)
      have hrest : ∀ s ∈ done, .enter ∉ s := fun s hs => hdone s (by simp [hs])
      -- the first exchange settles which reply the rest goes on from
      rw [Key.join_cons, pressAllWith_segment _ _ _ _ hsegment]
      simp [ih _ hrest, converse, reports, Exchange.latest_cons, Exchange.reply?]

/-! ## The run that is played -/

/-- A key leaves the engine as it is. -/
theorem engine_press (s : Session σ) (key : Key) :
    (s.press key).2.story.engine = s.story.engine := by
  rw [press_eq]
  split
  · rfl
  · rename_i tokens editor htake
    have hengine := s.story.engine_command tokens
    split
    · rename_i text story hcommand
      rwa [hcommand] at hengine
    · rename_i e story hcommand
      rwa [hcommand] at hengine

/-- Keys pressed one by one are keys that ask the engine itself. -/
theorem pressAll_eq_pressAllWith (s : Session σ) (keys : List Key) :
    s.pressAll keys = Id.run (s.pressAllWith s.story.engine.ask keys) := by
  induction keys generalizing s with
  | nil => rfl
  | cons key keys ih =>
      have hpress : Id.run (s.pressWith s.story.engine.ask key) = s.press key := rfl
      simp [pressAll, pressAllWith, ih, engine_press, hpress]

/-- A completed segment of the run that is played. -/
theorem pressAll_segment {segment : List Key} (hsegment : .enter ∉ segment) (keys : List Key) :
    (showing settings engine reply []).pressAll (segment ++ .enter :: keys)
      = (List.replicate segment.length (.ok false)
            ++ (engine.exchange reply (Key.typed segment)).result
            :: ((showing settings engine
                ((engine.exchange reply (Key.typed segment)).reply?.getD reply) []).pressAll
                keys).1,
          ((showing settings engine
            ((engine.exchange reply (Key.typed segment)).reply?.getD reply) []).pressAll
            keys).2) := by
  have hengine (reply : Reply σ) : (showing settings engine reply []).story.engine = engine := rfl
  rw [pressAll_eq_pressAllWith, pressAll_eq_pressAllWith, hengine, hengine,
    pressAllWith_segment _ _ _ _ hsegment]
  rfl

/-- The run that is played. -/
theorem pressAll_showing {done : List (List Key)} {last : List Key}
    (hdone : ∀ segment ∈ done, .enter ∉ segment) (hlast : .enter ∉ last) :
    (showing settings engine reply []).pressAll (Key.join done last)
      = (reports done (transcript engine reply (done.map Key.typed))
            ++ List.replicate last.length (.ok false),
          showing settings engine
            (Exchange.latest reply (transcript engine reply (done.map Key.typed)))
            (Key.typed last)) := by
  have hengine : (showing settings engine reply []).story.engine = engine := rfl
  rw [pressAll_eq_pressAllWith, hengine, pressAllWith_join _ _ _ _ hdone hlast]
  rfl

/-- Asking with a record changes nothing about the run, and leaves the calls. -/
theorem run_pressAllWith_recorded {done : List (List Key)} {last : List Key}
    (hdone : ∀ segment ∈ done, .enter ∉ segment) (hlast : .enter ∉ last) :
    Id.run (StateT.run ((showing settings engine reply []).pressAllWith engine.recorded
        (Key.join done last)) [])
      = ((showing settings engine reply []).pressAll (Key.join done last),
          (transcript engine reply (done.map Key.typed)).map fun x => (x.call, x.state)) := by
  rw [pressAll_showing _ _ _ hdone hlast, pressAllWith_join _ _ _ _ hdone hlast, StateT.run_bind,
    Id.run_bind, run_converse_recorded]
  rfl

/-- What it means for a session to have led a conversation by keys, if it began with an opening. -/
structure Agrees (engine : Engine σ) (opening : Reply σ) (settings : Settings) (keys : List Key)
    (s : Session σ) (exchanges : List (Exchange σ)) : Prop where
  /-- Each completed segment leads to one exchange. -/
  converses : Converses engine opening ((Key.segments keys).1.map Key.typed) exchanges
  /-- The engine is asked for these exchanges, each once and in order, and for nothing else. -/
  calls : Id.run (StateT.run (s.pressAllWith engine.recorded keys) [])
    = (s.pressAll keys, exchanges.map fun x => (x.call, x.state))
  /-- An enter key reports its exchange, and any other key that there was no command. -/
  results : (s.pressAll keys).1 = reports (Key.segments keys).1 exchanges
    ++ List.replicate (Key.segments keys).2.length (.ok false)
  state : (s.pressAll keys).2.story.state = (Exchange.latest opening exchanges).state
  display : (s.pressAll keys).2.display = Markup.lex (Exchange.latest opening exchanges).text
  line : (s.pressAll keys).2.editor.line
    = settings.prompt ++ String.ofList (Key.typed (Key.segments keys).2)

/-- An engine that counts its turns and fails when it is asked about a crash. -/
def countingEngine : Engine Nat where
  start := .ok ⟨"A cellar.", 0⟩
  query verb object turn :=
    if object = "crash" then .error (verb ++ " cannot handle crash")
    else .ok ⟨"#" ++ verb ++ "# " ++ object, turn + 1⟩
  describeRoom turn := .ok ⟨"A cellar.", turn + 1⟩
  inventory turn := .ok ⟨"Nothing.", turn + 1⟩

end Session

end TextAdventure
