import TextAdventure.Call
import TextAdventure.Color
import TextAdventure.Editor
import TextAdventure.Engine
import TextAdventure.Engine.Echo
import TextAdventure.Exit
import TextAdventure.Files.Basic
import TextAdventure.Files.Folder
import TextAdventure.Frame
import TextAdventure.Glyph
import TextAdventure.Job
import TextAdventure.Key
import TextAdventure.Key.Decoder
import TextAdventure.Key.Sequence
import TextAdventure.Key.Typed
import TextAdventure.Layout
import TextAdventure.Loader
import TextAdventure.Log
import TextAdventure.Main
import TextAdventure.Markup
import TextAdventure.Overflow
import TextAdventure.Play
import TextAdventure.Preview
import TextAdventure.Resources
import TextAdventure.Screen
import TextAdventure.Session
import TextAdventure.Settings.Basic
import TextAdventure.Settings.Fault
import TextAdventure.Settings.Reader
import TextAdventure.Settings.Skip
import TextAdventure.Settings.Source
import TextAdventure.Settings.Token
import TextAdventure.Settings.Writer
import TextAdventure.Single.Basic
import TextAdventure.Single.Decimal
import TextAdventure.Single.Shortest
import TextAdventure.Text.Blank
import TextAdventure.Text.Bytes
import TextAdventure.Text.Extender
import TextAdventure.Text.Fields
import TextAdventure.Text.Lines
import TextAdventure.Text.Printable
import TextAdventure.Text.Quoted
import TextAdventure.Text.Ranges
import TextAdventure.Verb
import TextAdventure.Proofs.Editor.Slate
import TextAdventure.Proofs.Editor.Typing
import TextAdventure.Proofs.Session.Run
import TextAdventure.Proofs.Session.Failure
import TextAdventure.Proofs.Markup.History
import TextAdventure.Proofs.Markup.Image
import TextAdventure.Proofs.Screen.Decoding
import TextAdventure.Proofs.Loader.Stages
import TextAdventure.Proofs.Loader.Readiness
import TextAdventure.Proofs.Session.Lines
import TextAdventure.Proofs.Editor.Wording
import TextAdventure.Proofs.Session.Retyping
import TextAdventure.Proofs.Markup.Spans
import TextAdventure.Proofs.Echo.History
import TextAdventure.Proofs.Echo.Display
import TextAdventure.Proofs.Play.Loop
import TextAdventure.Proofs.Single.Rounding
import TextAdventure.Proofs.Single.Whole
import TextAdventure.Proofs.Layout.Columns
import TextAdventure.Proofs.Layout.Margin
import TextAdventure.Proofs.Settings.Reading
import TextAdventure.Proofs.Settings.Spelling
import TextAdventure.Proofs.Single.Shortest
import TextAdventure.Proofs.Settings.Listing
import TextAdventure.Proofs.Settings.RoundTrip
import TextAdventure.Proofs.Layout.LineCount
import TextAdventure.Proofs.Markup.Composition
import TextAdventure.Proofs.Screen.Cursor
import TextAdventure.Proofs.Layout.Appending
import TextAdventure.Proofs.Loader.Handover
import TextAdventure.Proofs.Text.Narrative
import TextAdventure.Proofs.Call.TypedLine
import TextAdventure.Proofs.Call.WrittenForm
import TextAdventure.Proofs.Arguments.Flags
import TextAdventure.Proofs.Screen.Room
import TextAdventure.Proofs.Settings.Values
import TextAdventure.Proofs.Settings.UnknownFields
import TextAdventure.Proofs.Color.Hexadecimal
