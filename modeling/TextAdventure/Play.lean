import TextAdventure.Engine.Echo
import TextAdventure.Exit
import TextAdventure.Files.Folder
import TextAdventure.Key.Decoder
import TextAdventure.Loader
import TextAdventure.Screen
import TextAdventure.Session

/-!
# The shell program

Plays a narrative with the echo engine. The narrative and the settings are loaded first; then the
session is painted before every key is awaited, until a key asks to leave. If loading failed the
screen is cleared once, and nothing but leaving is possible.
-/

namespace TextAdventure.Play

/-! ## Arguments -/

/-- What the arguments ask for. -/
structure Options where
  settings : Option String := none
  logDirectory : String := "."
deriving DecidableEq, Repr

/-- Reads the flags and their values; an argument that is not a flag with a value is refused. -/
def readOptions (options : Options) : List String → Except String Options
  | [] => .ok options
  | [argument] => .error argument
  | flag :: value :: rest =>
    if flag = "--config" then readOptions { options with settings := some value } rest
    else if flag = "--log-dir" then readOptions { options with logDirectory := value } rest
    else .error flag

/-- The file that the log is written to. -/
def Options.logFile (options : Options) : String :=
  if options.logDirectory.isEmpty ∨ options.logDirectory.endsWith "/" then
    options.logDirectory ++ "shell.log"
  else options.logDirectory ++ "/shell.log"

/-! ## Texts -/

/-- How to call the program. -/
def usage : String :=
  "Usage: shell <narrative-file> [--config <path>] [--log-dir <path>]\n\n" ++
    "Commands: examine, use, talk to <who>, go, take, help, inventory\n" ++
    "Press Enter on an empty line to look around; Esc quits.\n"

/-- Enters the terminal's second screen. -/
def enterText : String := Screen.escape ++ "?1049h"

/-- Goes back to the terminal's first screen. -/
def leaveText : String := Screen.escape ++ "?1049l"

/-! ## Loading -/

/-- What the program loads. -/
inductive Asset where
  | lines (lines : List String)
  | settings (settings : Settings)

/-- The name under which the narrative is loaded. -/
def narrativeName : String := "narrative"

/-- The name under which the settings are loaded. -/
def settingsName : String := "config"

/-- The jobs that load the narrative, and the settings if a file for them is given. -/
def jobs (read : FileReader) (narrative : String) (options : Options) : List (Job Asset) :=
  { name := narrativeName, result := (loadLines read narrative).map Asset.lines } ::
    match options.settings with
    | none => []
    | some path =>
      [{ name := settingsName, result := (loadSettings read path).map Asset.settings }]

/-- What there is to play with, once that is settled: the program waits at the gate, and if that is
open, until the loader has come to its end. -/
def awaited? (loader : Loader Asset) : Option (Option (Resources Asset)) :=
  match loader.gate.answer? with
  | none => none
  | some false => some none
  | some true => loader.result?

/-- What there is to play with. -/
def loaded? (loader : Loader Asset) : Option (Resources Asset) :=
  (awaited? loader).join

/-- The settings among what was loaded, or the defaults. -/
def loadedSettings (loaded : Resources Asset) : Settings :=
  match loaded.get? settingsName with
  | some (.settings settings) => settings
  | _ => {}

/-- The narrative among what was loaded. -/
def loadedLines (loaded : Resources Asset) : List String :=
  match loaded.get? narrativeName with
  | some (.lines lines) => lines
  | _ => []

/-! ## The loop -/

/-- The session after an event, or none if the event asks to leave. Only key presses count. -/
def step (session : Session Echo.State) : TerminalEvent → Option (Session Echo.State)
  | .other => some session
  | .key event =>
    if event.action ≠ .press then some session
    else if event.quits then none
    else some (session.press event.key).2

/-- What an event leaves in the log. -/
def stepLog (session : Session Echo.State) : TerminalEvent → List Log.Entry
  | .other => []
  | .key event =>
    if event.action ≠ .press ∨ event.quits then []
    else
      session.pressLog event.key ++
        match (session.press event.key).1 with
        | .ok true => [⟨.debug, "command dispatched"⟩]
        | _ => []

/-- How far playing has come. -/
inductive Progress where
  /-- An event asked to leave; the events behind it have not been read. -/
  | left (session : Session Echo.State) (unread : List TerminalEvent)
  /-- All events have been read, and the next one is awaited. -/
  | waiting (session : Session Echo.State)

/-- Plays until an event asks to leave or there are no more events, painting before each. -/
def play (session : Session Echo.State) : List TerminalEvent → Screen.Painter Progress
  | [] => do
    Screen.paintFrame session.frame
    pure (.waiting session)
  | event :: rest => do
    Screen.paintFrame session.frame
    match step session event with
    | some next => play next rest
    | none => pure (.left session rest)

/-- Goes on playing when there are more events. The session has been painted before it waited. -/
def resume (session : Session Echo.State) : List TerminalEvent → Screen.Painter Progress
  | [] => pure (.waiting session)
  | event :: rest =>
    match step session event with
    | some next => play next rest
    | none => pure (.left session rest)

/-- What events leave in the log until one of them asks to leave. -/
def playLog (session : Session Echo.State) : List TerminalEvent → List Log.Entry
  | [] => []
  | event :: rest =>
    match step session event with
    | some next => stepLog session event ++ playLog next rest
    | none => []

/-! ## Stages -/

/-- Where the shell stands between events. -/
inductive Stage where
  /-- There is nothing to play, and all that can be done is to leave. -/
  | idle
  | playing (session : Session Echo.State)
  /-- The end, with the error if the session could not begin. -/
  | finished (error : Option SessionError)

/-- Where playing has led. -/
def Progress.stage : Progress → Stage
  | .left _ _ => .finished none
  | .waiting session => .playing session

/-- The screen while nothing can be played. -/
def waitToLeave : Screen.Painter Unit := do
  Screen.put Screen.clearText
  Screen.flush

/-- Whether an event asks to leave while nothing can be played; here it need not be a press. -/
def asksToLeave : TerminalEvent → Bool
  | .other => false
  | .key event => event.quits

/-- The session to play, or why it could not begin. There is none if nothing was loaded. -/
def session? (loaded : Option (Resources Asset)) :
    Option (Except SessionError (Session Echo.State)) :=
  loaded.map fun loaded =>
    Session.ofNarrative Echo.compile (loadedLines loaded) (loadedSettings loaded)

/-- What is painted before the first event. -/
def begin (loaded : Option (Resources Asset)) : Screen.Painter Stage :=
  match session? loaded with
  | none => do
    waitToLeave
    pure .idle
  | some (.error error) => pure (.finished (some error))
  | some (.ok session) => Progress.stage <$> play session []

/-- What that leaves in the log. -/
def beginLog : Option (Resources Asset) → List Log.Entry
  | none => []
  | some loaded => Session.ofNarrativeLog Echo.compile (loadedLines loaded)

namespace Stage

/-- What is painted for more events. -/
def advance (stage : Stage) (events : List TerminalEvent) : Screen.Painter Stage :=
  match stage with
  | .idle => pure (if events.any asksToLeave then .finished none else .idle)
  | .playing session => Progress.stage <$> resume session events
  | .finished error => pure (.finished error)

/-- What more events leave in the log. -/
def log (stage : Stage) (events : List TerminalEvent) : List Log.Entry :=
  match stage with
  | .playing session => playLog session events
  | _ => []

/-- Whether no more events are awaited. -/
def isFinished : Stage → Bool
  | .finished _ => true
  | _ => false

/-- The error to end with. -/
def error? : Stage → Option SessionError
  | .finished error => error
  | _ => none

end Stage

/-- What is painted for what was loaded. -/
def perform (loaded : Option (Resources Asset)) (events : List TerminalEvent) :
    Screen.Painter (Option SessionError) := do
  let stage ← begin loaded
  let stage ← stage.advance events
  pure stage.error?

/-- Enters the second screen. -/
def enter : Screen.Painter Unit := do
  Screen.put enterText
  Screen.flush

/-- Goes back to the first screen and ends as the painting did, also where it failed to write. An
overflow ends everything at once. -/
def leave : Except Screen.PaintError (Option SessionError) → Screen.Painter (Option SessionError)
  | .error .overflow => throw .overflow
  | .error error => do
    Screen.put leaveText
    Screen.flush
    throw error
  | .ok error => do
    Screen.put leaveText
    Screen.flush
    pure error

/-- The whole screen, from entering it to leaving it. -/
def screen (loaded : Option (Resources Asset)) (events : List TerminalEvent) :
    Screen.Painter (Option SessionError) := do
  enter
  let result ← Screen.outcome (perform loaded events)
  leave result

/-! ## The program -/

/-- An error output with a cause. -/
def errorText (message : String) (cause : Option String) : String :=
  "Error: " ++ message ++ "\n" ++
    match cause with
    | none => ""
    | some cause => "\nCaused by:\n    " ++ cause ++ "\n"

/-- The narrative's path and the options, or how the program ends without them. -/
def readArguments : List String → Except Exit (String × Options)
  | [] => .error { output := usage }
  | narrative :: rest =>
    if narrative = "--help" ∨ narrative = "-h" then .error { output := usage }
    else
      match readOptions {} rest with
      | .ok options => .ok (narrative, options)
      | .error argument =>
        .error
          { code := 1
            output := usage
            errors := some (errorText ("unknown argument: " ++ argument) none) }

/-- How the program ends if the directory of its log cannot be made. -/
def noLogDirectory (options : Options) (fault : FileFault) : Exit where
  code := 1
  errors := some (errorText ("creating log directory " ++ options.logDirectory) fault.message)

/-- How the program ends if its log cannot be written. -/
def noLogFile : Exit where
  code := Exit.crashCode
  errors := none

/-- What making the log ready leaves in it. -/
def openLogEntries (options : Options) : List Log.Entry :=
  [⟨.info, "Log file: " ++ options.logDirectory ++ "/shell.log"⟩]

/-- Makes the log ready to be written to, or ends the program. -/
def openLog (folder : Folder) (options : Options) : Except Exit Folder :=
  match folder.makeDirectory options.logDirectory with
  | .error fault => .error (noLogDirectory options fault)
  | .ok folder =>
    match folder.createFile options.logFile with
    | .error _ => .error noLogFile
    | .ok folder => .ok folder

/-- What happens before the terminal is needed. -/
def prepare (folder : Folder) (args : List String) :
    Except Exit (String × Options × Folder) := do
  let (narrative, options) ← readArguments args
  let folder ← openLog folder options
  pure (narrative, options, folder)

/-- How the program ends after its screen was painted. -/
def exitOf (sink : Screen.Sink) : Except Screen.PaintError (Option SessionError) → Exit
  | .ok none => { output := sink.written }
  | .ok (some error) =>
    { code := 1, output := sink.written, errors := some (errorText error.message none) }
  | .error .overflow => { code := Exit.crashCode, output := sink.written, errors := none }
  | .error error =>
    { code := 1, output := sink.written, errors := some (errorText error.message none) }

/-- The program, in a folder and with the events that the terminal will report. -/
def run (folder : Folder) (args : List String) (events : List TerminalEvent) : Exit :=
  match prepare folder args with
  | .error exit => exit
  | .ok (narrative, options, folder) =>
    let loaded := loaded? (Loader.start true (jobs folder.read narrative options))
    let (sink, result) := Screen.run (screen loaded events) {}
    exitOf sink result

end TextAdventure.Play
