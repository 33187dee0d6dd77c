import TextAdventure.Key.Decoder
import TextAdventure.Play
import TextAdventure.Preview

/-!
# Command line

Two programs under one name: `preview` paints a file of markup, `shell` plays a narrative. This
module only fetches what they ask for, files and keys, and puts out what they answer; the terminal
is expected to be in raw mode while the shell runs.
-/

namespace TextAdventure.CommandLine

/-! ## Files -/

/-- The fault that an error of the system stands for. -/
def faultOf : IO.Error → FileFault
  | .noFileOrDirectory _ _ _ => .notFound
  | .noSuchThing _ _ _ => .notFound
  | .alreadyExists _ _ _ => .alreadyThere
  | .inappropriateType _ code _ => if code = 20 then .notDirectory else .isDirectory
  | error => .other (toString error)

/-- Makes a request and gives its fault if it fails. -/
def attempt {α : Type} (request : IO α) : IO (Except FileFault α) := do
  match ← request.toBaseIO with
  | .ok value => pure (.ok value)
  | .error error => pure (.error (faultOf error))

/-- Reads a file as text. -/
def readText (path : String) : IO (Except FileFault String) := do
  match ← attempt (IO.FS.readBinFile path) with
  | .error fault => pure (.error fault)
  | .ok bytes =>
    match String.fromUTF8? bytes with
    | some text => pure (.ok text)
    | none => pure (.error .notText)

/-- Reads the files at some paths; others are not found. -/
def readAll (paths : List String) : IO FileReader := do
  let texts ← paths.mapM fun path => do pure (path, ← readText path)
  pure fun path => (texts.lookup path).getD (.error .notFound)

/-! ## Output -/

/-- Puts out a text at once. -/
def putOut (text : String) : IO Unit := do
  let output ← IO.getStdout
  output.putStr text
  output.flush

/-- Ends a program. -/
def leave (exit : Exit) : IO UInt32 := do
  putOut exit.output
  (← IO.getStderr).putStr (exit.errors.getD "")
  pure (UInt32.ofNat exit.code)

/-- Paints on the terminal and gives what the painter gives. -/
def paint {α : Type} (painter : Screen.Painter α) : IO (Except Screen.PaintError α) := do
  let (sink, result) := Screen.run painter {}
  putOut sink.written
  pure result

/-- Writes the entries of a log. -/
def writeLog (log : IO.FS.Handle) (entries : List Log.Entry) : IO Unit := do
  for entry in Log.written entries do
    log.putStr entry.text
  log.flush

/-! ## Keys -/

/-- The most bytes that are read at once. -/
def pieceLimit : USize := 1024

/-- The next events, and the decoder after them; none at the end of the input. -/
def nextEvents (decoder : Decoder) : IO (Option (List TerminalEvent × Decoder)) := do
  let bytes ← (← IO.getStdin).read pieceLimit
  if bytes.isEmpty then pure none
  else pure (some (decoder.readPiece ((String.fromUTF8? bytes).getD "").toList))

/-- Goes on from a stage, one piece of the input after another, until it is finished or the input
ends. -/
partial def drive (log : IO.FS.Handle) (stage : Play.Stage) (decoder : Decoder) :
    IO (Except Screen.PaintError Play.Stage) := do
  if stage.isFinished then pure (.ok stage)
  else
    match ← nextEvents decoder with
    | none => pure (.ok stage)
    | some (events, decoder) =>
      writeLog log (stage.log events)
      match ← paint (stage.advance events) with
      | .error error => pure (.error error)
      | .ok stage => drive log stage decoder

/-! ## Programs -/

/-- The program that paints a file of markup. -/
def preview (args : List String) : IO UInt32 := do
  leave (Preview.run (← readAll args) args)

/-- What happens between entering the second screen and leaving it. -/
def perform (log : IO.FS.Handle) (loaded : Option (Resources Play.Asset)) :
    IO (Except Screen.PaintError (Option SessionError)) := do
  writeLog log (Play.beginLog loaded)
  match ← paint (Play.begin loaded) with
  | .error error => pure (.error error)
  | .ok stage => pure ((← drive log stage {}).map Play.Stage.error?)

/-- The program that plays a narrative. -/
def shell (args : List String) : IO UInt32 := do
  match Play.readArguments args with
  | .error exit => leave exit
  | .ok (narrative, options) =>
    match ← attempt (IO.FS.createDirAll options.logDirectory) with
    | .error fault => leave (Play.noLogDirectory options fault)
    | .ok () =>
      match ← attempt (IO.FS.Handle.mk options.logFile .append) with
      | .error _ => leave Play.noLogFile
      | .ok log =>
        writeLog log (Play.openLogEntries options)
        let read ← readAll (narrative :: options.settings.toList)
        let loader := Loader.start true (Play.jobs read narrative options)
        writeLog log loader.log
        match ← paint Play.enter with
        | .error error => leave (Play.exitOf {} (.error error))
        | .ok () =>
          let result ← perform log (Play.loaded? loader)
          leave (Play.exitOf {} (← paint (Play.leave result)))

/-- How to call either program. -/
def usage : String := Preview.usage ++ "\n" ++ Play.usage

end TextAdventure.CommandLine

/-- The first argument names the program, the others are its own. -/
def main (args : List String) : IO UInt32 :=
  match args with
  | "preview" :: rest => TextAdventure.CommandLine.preview rest
  | "shell" :: rest => TextAdventure.CommandLine.shell rest
  | _ => do
    TextAdventure.CommandLine.putOut TextAdventure.CommandLine.usage
    pure 1
