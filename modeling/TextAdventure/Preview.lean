import TextAdventure.Exit
import TextAdventure.Markup
import TextAdventure.Screen
import TextAdventure.Settings.Reader
import TextAdventure.Text.Lines

/-!
# The preview program

Lays out a file of markup and paints it, with a line below that counts glyphs and lines. The
arguments are the file and then pairs of a flag and its value: settings to load, and a width and
a slack that override those of the settings wherever they stand. A size that is no number counts
as not given.
-/

namespace TextAdventure.Preview

/-! ## Arguments -/

/-- What the arguments ask for. -/
structure Options where
  settings : Settings := {}
  width : Option Single := none
  slack : Option Single := none
deriving DecidableEq, Repr

/-- Why the arguments are refused. -/
inductive ArgumentError where
  | unknown (argument : String)
  | settings (path : String) (error : Settings.Error)
deriving DecidableEq, Repr

/-- Reads the flags and their values. Settings are loaded as they are met. -/
def readOptions (read : FileReader) (options : Options) :
    List String → Except ArgumentError Options
  | [] => .ok options
  | [argument] => .error (.unknown argument)
  | flag :: value :: rest =>
    if flag = "--config" then
      match Settings.load read value with
      | .error error => .error (.settings value error)
      | .ok settings => readOptions read { options with settings := settings } rest
    else if flag = "--width" then
      readOptions read { options with width := Single.parse? value.toList } rest
    else if flag = "--slack" then
      readOptions read { options with slack := Single.parse? value.toList } rest
    else .error (.unknown flag)

/-- The box to lay out in: that of the settings, with the sizes given. -/
def Options.textBox (options : Options) : TextBox :=
  let box := options.settings.textBox
  { box with
    width := options.width.getD box.width
    slack := options.slack.getD box.slack }

/-! ## Texts -/

/-- How to call the program. -/
def usage : String :=
  "Usage: preview <markup-file> [--config <path>] [--width <n>] [--slack <n>]\n\n" ++
    "Markup:\n" ++
    "  #text#          bold\n" ++
    "  ~text~          italic\n" ++
    "  @rrggbbtext@    coloured\n"

/-! ## The program -/

/-- The frame for a text of markup: the text, and its counts below it. -/
def frame (box : TextBox) (source : String) : Except Overflow Frame := do
  let glyphs := Markup.lex (Text.joinLines (Text.lines source))
  let placed := Layout.place box glyphs
  let lines ← Layout.lineCount box placed
  let below := box.originY + Single.ofNat lines * box.lineHeight + 1
  pure
    { text := placed
      commandLine := toString glyphs.length ++ " glyphs, " ++ toString lines ++ " lines"
      commandOrigin := (box.originX, below) }

/-- Paints a text of markup. -/
def display (box : TextBox) (source : String) : Exit :=
  match frame box source with
  | .error _ => { code := Exit.crashCode, errors := none }
  | .ok frame =>
    match Screen.run (Screen.paintFrame frame) {} with
    | (sink, .ok ()) => { output := sink.written ++ "\n" }
    | (sink, .error .overflow) =>
      { code := Exit.crashCode, output := sink.written, errors := none }
    | (sink, .error error) =>
      { code := 1
        output := sink.written
        errors := some ("Error painting: " ++ error.message ++ "\n") }

/-- The program. -/
def run (read : FileReader) : List String → Exit
  | [] => { output := usage }
  | path :: rest =>
    if path = "--help" ∨ path = "-h" then { output := usage }
    else
      match readOptions read {} rest with
      | .error (.unknown argument) =>
        { code := 1, output := usage, errors := some ("Unknown argument: " ++ argument ++ "\n") }
      | .error (.settings path error) =>
        { code := 1
          errors := some ("Error loading config " ++ path ++ ": " ++ error.message ++ "\n") }
      | .ok options =>
        match read path with
        | .error fault =>
          { code := 1, errors := some ("Error reading " ++ path ++ ": " ++ fault.message ++ "\n") }
        | .ok source => display options.textBox source

end TextAdventure.Preview
