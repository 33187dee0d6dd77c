import TextAdventure.Settings.Basic
import TextAdventure.Single.Shortest
import TextAdventure.Text.Quoted

/-!
# Writing settings

Settings are written without blanks, every field in a fixed order. A number is written with the
fewest digits that read back, without an exponent, and with `.0` when it is whole; in the prompt
both quotes are escaped.
-/

namespace TextAdventure.Settings

/-- The written form of a number. -/
def numberText : Single → List Char
  | .nan => "NaN".toList
  | .infinite negative => if negative then "-inf".toList else "inf".toList
  | .finite negative exponent fraction =>
    let (coefficient, power) := Single.shortest (Single.units exponent fraction)
    (if negative then ['-'] else []) ++ Single.positional coefficient power ++
      (if 0 ≤ power then ['.', '0'] else [])

/-- The written form of a string. -/
def stringText (text : String) : List Char :=
  '"' :: Text.escape .both text.toList ++ ['"']

/-- The written form of a field. -/
def fieldText (name : String) (value : List Char) : List Char :=
  name.toList ++ ':' :: value

/-- Items in parentheses with commas between them. -/
def tupleText (items : List (List Char)) : List Char :=
  '(' :: [','].intercalate items ++ [')']

/-- The written form of a text box. -/
def boxText (box : TextBox) : List Char :=
  tupleText
    [ fieldText "origin_x" (numberText box.originX),
      fieldText "origin_y" (numberText box.originY),
      fieldText "width" (numberText box.width),
      fieldText "slack" (numberText box.slack),
      fieldText "line_height" (numberText box.lineHeight),
      fieldText "advance" (numberText box.advance) ]

/-- The written form of settings. -/
def text (settings : Settings) : String :=
  String.ofList <| tupleText
    [ fieldText "prompt" (stringText settings.prompt),
      fieldText "text_box" (boxText settings.textBox),
      fieldText "prompt_origin"
        (tupleText [numberText settings.promptOrigin.1, numberText settings.promptOrigin.2]) ]

end TextAdventure.Settings
