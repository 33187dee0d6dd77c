import TextAdventure.Text.Quoted

/-!
# Keys

A terminal reports a key as an event: a key code, the modifiers held down and whether the key
went down, repeated or came up. The command line only tells a few keys apart, `Key`: a typed
character, the two keys that erase, the one that commits, and any other, which is known by its
name alone. A character with a modifier other than shift is a chord, not a typed character.
-/

namespace TextAdventure

/-- A key as the command line sees it. -/
inductive Key where
  | char (c : Char)
  | backspace
  | delete
  | enter
  | other (name : String)
deriving DecidableEq, Repr

namespace Key

/-- Whether a character may stand in a command line: a space, an ASCII digit or letter. -/
def isLiteralChar (c : Char) : Bool :=
  c == ' ' || c.isAlphanum

/-- Whether the key types itself into the command line. -/
def isLiteral : Key → Bool
  | .char c => isLiteralChar c
  | _ => false

/-- The name of the key for the log. -/
def label : Key → String
  | .char c => "Char(" ++ Text.quotedChar c ++ ")"
  | .backspace => "Backspace"
  | .delete => "Delete"
  | .enter => "Enter"
  | .other name => "Other(" ++ Text.quoted name ++ ")"

end Key

/-! ## Key codes -/

/-- Keys for playing media. -/
inductive MediaKey where
  | play
  | pause
  | playPause
  | reverse
  | stop
  | fastForward
  | rewind
  | trackNext
  | trackPrevious
  | record
  | lowerVolume
  | raiseVolume
  | muteVolume
deriving DecidableEq, Repr

/-- The name of a media key. -/
def MediaKey.label : MediaKey → String
  | .play => "Play"
  | .pause => "Pause"
  | .playPause => "PlayPause"
  | .reverse => "Reverse"
  | .stop => "Stop"
  | .fastForward => "FastForward"
  | .rewind => "Rewind"
  | .trackNext => "TrackNext"
  | .trackPrevious => "TrackPrevious"
  | .record => "Record"
  | .lowerVolume => "LowerVolume"
  | .raiseVolume => "RaiseVolume"
  | .muteVolume => "MuteVolume"

/-- Keys that modify others, pressed by themselves. -/
inductive ModifierKey where
  | leftShift
  | leftControl
  | leftAlt
  | leftSuper
  | leftHyper
  | leftMeta
  | rightShift
  | rightControl
  | rightAlt
  | rightSuper
  | rightHyper
  | rightMeta
  | isoLevel3Shift
  | isoLevel5Shift
deriving DecidableEq, Repr

/-- The name of a modifier key. -/
def ModifierKey.label : ModifierKey → String
  | .leftShift => "LeftShift"
  | .leftControl => "LeftControl"
  | .leftAlt => "LeftAlt"
  | .leftSuper => "LeftSuper"
  | .leftHyper => "LeftHyper"
  | .leftMeta => "LeftMeta"
  | .rightShift => "RightShift"
  | .rightControl => "RightControl"
  | .rightAlt => "RightAlt"
  | .rightSuper => "RightSuper"
  | .rightHyper => "RightHyper"
  | .rightMeta => "RightMeta"
  | .isoLevel3Shift => "IsoLevel3Shift"
  | .isoLevel5Shift => "IsoLevel5Shift"

/-- What a key of the keyboard is. -/
inductive KeyCode where
  | backspace
  | enter
  | left
  | right
  | up
  | down
  | home
  | toEnd
  | pageUp
  | pageDown
  | tab
  | backTab
  | delete
  | insert
  | function (n : Nat)
  | char (c : Char)
  | null
  | esc
  | capsLock
  | scrollLock
  | numLock
  | printScreen
  | pause
  | menu
  | keypadBegin
  | media (key : MediaKey)
  | modifier (key : ModifierKey)
deriving DecidableEq, Repr

/-- The name of a key code. -/
def KeyCode.label : KeyCode → String
  | .backspace => "Backspace"
  | .enter => "Enter"
  | .left => "Left"
  | .right => "Right"
  | .up => "Up"
  | .down => "Down"
  | .home => "Home"
  | .toEnd => "End"
  | .pageUp => "PageUp"
  | .pageDown => "PageDown"
  | .tab => "Tab"
  | .backTab => "BackTab"
  | .delete => "Delete"
  | .insert => "Insert"
  | .function n => "F(" ++ toString n ++ ")"
  | .char c => "Char(" ++ Text.quotedChar c ++ ")"
  | .null => "Null"
  | .esc => "Esc"
  | .capsLock => "CapsLock"
  | .scrollLock => "ScrollLock"
  | .numLock => "NumLock"
  | .printScreen => "PrintScreen"
  | .pause => "Pause"
  | .menu => "Menu"
  | .keypadBegin => "KeypadBegin"
  | .media key => "Media(" ++ key.label ++ ")"
  | .modifier key => "Modifier(" ++ key.label ++ ")"

/-! ## Modifiers -/

/-- A set of modifiers, one bit each; the two highest bits have no name. -/
structure Modifiers where
  bits : UInt8 := 0
deriving DecidableEq, Repr

namespace Modifiers

/-- The shift key. -/
def shift : Modifiers := ⟨1⟩

/-- The control key. -/
def control : Modifiers := ⟨2⟩

/-- The alt key. -/
def alt : Modifiers := ⟨4⟩

/-- The modifiers of both sets. -/
def union (a b : Modifiers) : Modifiers := ⟨a.bits ||| b.bits⟩

/-- Whether all of `b` are among `a`. -/
def contains (a b : Modifiers) : Bool := a.bits &&& b.bits == b.bits

/-- Whether nothing but shift is held. -/
def atMostShift (m : Modifiers) : Bool := m.bits &&& 0xfe == 0

/-- The bits that have a name. -/
def named : List (UInt8 × String) :=
  [(1, "SHIFT"), (2, "CONTROL"), (4, "ALT"), (8, "SUPER"), (16, "HYPER"), (32, "META")]

/-- The names of the modifiers held, and the bits without a name as one hexadecimal number. -/
def label (m : Modifiers) : String :=
  let names := (named.filter fun (bit, _) => m.bits &&& bit != 0).map Prod.snd
  let rest := m.bits &&& 0xc0
  let number := "0x" ++ String.ofList (Nat.toDigits 16 rest.toNat)
  let parts := if rest == 0 && !names.isEmpty then names else names ++ [number]
  "KeyModifiers(" ++ " | ".intercalate parts ++ ")"

end Modifiers

/-! ## Events -/

/-- Whether a key went down, is held down or came up. -/
inductive KeyAction where
  | press
  | repeat
  | release
deriving DecidableEq, Repr

/-- What a terminal reports about a key. -/
structure KeyEvent where
  code : KeyCode
  modifiers : Modifiers := {}
  action : KeyAction := .press
deriving DecidableEq, Repr

namespace KeyEvent

/-- The key as the command line sees it. -/
def key (event : KeyEvent) : Key :=
  match event.code with
  | .char c =>
    if event.modifiers.atMostShift then .char c
    else .other (event.modifiers.label ++ "+" ++ event.code.label)
  | .backspace => .backspace
  | .delete => .delete
  | .enter => .enter
  | code => .other (event.modifiers.label ++ "+" ++ code.label)

/-- Whether the key asks to leave: escape, or `c` with control. -/
def quits (event : KeyEvent) : Bool :=
  event.code == .esc || (event.code == .char 'c' && event.modifiers.contains .control)

end KeyEvent

end TextAdventure
