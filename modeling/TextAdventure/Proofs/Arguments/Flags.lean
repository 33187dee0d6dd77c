import Mathlib.Data.List.Induction
import TextAdventure.Play
import TextAdventure.Preview
import TextAdventure.Proofs.Arguments.Pairs
import TextAdventure.Proofs.Settings.RoundTrip

/-!
# The arguments of the two programs

Behind the file, both programs take pairs of a flag and its value. They differ in their flags and in
what a pair does: the shell notes its value, and the preview loads a file of settings at once and
can be refused it. So the shell accepts all pairs with its flags, and the preview those whose files
load; each then goes by the last value of each flag (`programs_honour_flags`).
-/

namespace TextAdventure.Arguments

/-! ## The shell -/

/-- The flags of the shell. -/
def shellFlags : List String := ["--config", "--log-dir"]

/-- The options of the shell with one more pair. -/
def shellPut (options : Play.Options) (pair : Pair) : Play.Options :=
  if pair.1 = "--config" then { options with settings := some pair.2 }
  else { options with logDirectory := pair.2 }

/-- Takes a pair; the shell refuses no value. -/
def shellTake (options : Play.Options) (pair : Pair) : Except String Play.Options :=
  .ok (shellPut options pair)

/-- The options of the shell that the last values give. -/
def shellOptions (pairs : List Pair) : Play.Options where
  settings := last? "--config" pairs
  logDirectory := (last? "--log-dir" pairs).getD "."

theorem readOptions_eq_readPairs (options : Play.Options) : ∀ args,
    Play.readOptions options args
      = readPairs shellFlags shellTake id options args
  | [] => rfl
  | [_] => rfl
  | flag :: value :: rest => by
      rw [Play.readOptions, readPairs]
      by_cases hconfig : flag = "--config"
      · subst hconfig
        exact readOptions_eq_readPairs _ rest
      by_cases hlog : flag = "--log-dir"
      · subst hlog
        exact readOptions_eq_readPairs _ rest
      have hflag : flag ∉ shellFlags := by simp [shellFlags, hconfig, hlog]
      rw [if_neg hconfig, if_neg hlog, if_neg hflag]
      rfl

theorem foldlM_shellTake (pairs : List Pair) (options : Play.Options) :
    pairs.foldlM shellTake options = .ok (pairs.foldl shellPut options) := by
  induction pairs generalizing options with
  | nil => rfl
  | cons pair pairs ih => exact ih (shellPut options pair)

theorem foldl_shellPut {pairs : List Pair} (hknown : Known shellFlags pairs) :
    pairs.foldl shellPut {} = shellOptions pairs := by
  induction pairs using List.reverseRecOn with
  | nil => rfl
  | append_singleton pairs pair ih =>
      obtain ⟨hearlier, hflag⟩ := known_concat.mp hknown
      rw [List.foldl_append, List.foldl_cons, List.foldl_nil, ih hearlier]
      simp only [shellFlags, List.mem_cons, List.not_mem_nil, or_false] at hflag
      rcases hflag with hflag | hflag
      · simp [shellPut, shellOptions, last?_concat, hflag]
      · simp [shellPut, shellOptions, last?_concat, hflag]

/-- How the shell ends at an argument that it does not know. -/
def shellRefusal (argument : String) : Exit where
  code := 1
  output := Play.usage
  errors := some ("Error: unknown argument: " ++ argument ++ "\n")

theorem readArguments_eq {path : String} (hpath : path ∉ ["--help", "-h"]) (rest : List String) :
    Play.readArguments (path :: rest) =
      match Play.readOptions {} rest with
      | .ok options => .ok (path, options)
      | .error argument => .error (shellRefusal argument) := by
  have hhelp : ¬ (path = "--help" ∨ path = "-h") := by simpa using hpath
  rw [Play.readArguments, if_neg hhelp]
  have hword : "Error: " ++ "unknown argument: " = "Error: unknown argument: " := by decide
  have htext (argument : String) : Play.errorText ("unknown argument: " ++ argument) none
      = "Error: unknown argument: " ++ argument ++ "\n" := by
    rw [Play.errorText, String.append_empty, ← String.append_assoc, hword]
  cases Play.readOptions {} rest with
  | ok options => rfl
  | error argument => simp only [shellRefusal, htext]

theorem honours_shell {path : String} (hpath : path ∉ ["--help", "-h"]) (rest : List String) :
    Honours shellFlags rest
      (∃ options, Play.readArguments (path :: rest) = .ok (path, options))
      (fun pairs => Play.readArguments (path :: rest) = .ok (path, shellOptions pairs))
      (fun argument => Play.readArguments (path :: rest) = .error (shellRefusal argument)) := by
  rw [readArguments_eq hpath, readOptions_eq_readPairs]
  refine (honours_readPairs shellTake id {} fun pairs _ _ _ => ⟨_, foldlM_shellTake pairs {}⟩).imp
    ?_ ?_ ?_
  · cases readPairs shellFlags shellTake id {} rest with
    | ok options => simp
    | error argument => simp
  · rintro pairs hknown - ⟨options, htaken, hok⟩
    rw [foldlM_shellTake, foldl_shellPut hknown] at htaken
    cases htaken
    rw [hok]
  · intro argument herror
    rw [herror]
    rfl

/-! ## The preview -/

/-- The flags of the preview. -/
def previewFlags : List String := ["--config", "--width", "--slack"]

/-- Takes a pair; the preview refuses a file of settings that cannot be loaded. -/
def previewTake (read : FileReader) (options : Preview.Options) (pair : Pair) :
    Except Preview.ArgumentError Preview.Options :=
  if pair.1 = "--config" then
    match Settings.load read pair.2 with
    | .error error => .error (.settings pair.2 error)
    | .ok settings => .ok { options with settings := settings }
  else if pair.1 = "--width" then .ok { options with width := Single.parse? pair.2.toList }
  else .ok { options with slack := Single.parse? pair.2.toList }

/-- Pairs whose files of settings can all be loaded. -/
def Loadable (read : FileReader) (pairs : List Pair) : Prop :=
  ∀ pair ∈ pairs, pair.1 = "--config" → ∃ settings, Settings.load read pair.2 = .ok settings

/-- Arguments that name no file of settings that cannot be loaded: among the pairs that they start
with there is none. -/
def NamesLoadable (read : FileReader) (args : List String) : Prop :=
  ∀ pairs behind, Known previewFlags pairs → args = spelled pairs ++ behind → Loadable read pairs

/-- The settings of the file named last, or the defaults. -/
def Loads (read : FileReader) (pairs : List Pair) (settings : Settings) : Prop :=
  match last? "--config" pairs with
  | none => settings = {}
  | some path => Settings.load read path = .ok settings

/-- The size given last for a flag, if it is a number. -/
def size? (flag : String) (pairs : List Pair) : Option Single :=
  (last? flag pairs).bind fun value => Single.parse? value.toList

/-- A box with the sizes given for it. -/
def sizedBox (pairs : List Pair) (box : TextBox) : TextBox :=
  { box with
    width := (size? "--width" pairs).getD box.width
    slack := (size? "--slack" pairs).getD box.slack }

theorem readOptions_eq_readPairs_preview (read : FileReader) (options : Preview.Options) : ∀ args,
    Preview.readOptions read options args
      = readPairs previewFlags (previewTake read) .unknown options args
  | [] => rfl
  | [_] => rfl
  | flag :: value :: rest => by
      rw [Preview.readOptions, readPairs]
      by_cases hconfig : flag = "--config"
      · subst hconfig
        have hflag : "--config" ∈ previewFlags := by decide
        rw [if_pos rfl, if_pos hflag, previewTake, if_pos rfl]
        cases Settings.load read value with
        | error error => rfl
        | ok settings => exact readOptions_eq_readPairs_preview read _ rest
      by_cases hwidth : flag = "--width"
      · subst hwidth
        exact readOptions_eq_readPairs_preview read _ rest
      by_cases hslack : flag = "--slack"
      · subst hslack
        exact readOptions_eq_readPairs_preview read _ rest
      have hflag : flag ∉ previewFlags := by simp [previewFlags, hconfig, hwidth, hslack]
      rw [if_neg hconfig, if_neg hwidth, if_neg hslack, if_neg hflag]

theorem exists_previewTake {read : FileReader} {pair : Pair}
    (h : pair.1 = "--config" → ∃ settings, Settings.load read pair.2 = .ok settings)
    (options : Preview.Options) : ∃ options', previewTake read options pair = .ok options' := by
  unfold previewTake
  split
  · rename_i hconfig
    obtain ⟨settings, hload⟩ := h hconfig
    exact ⟨_, by rw [hload]⟩
  · split
    · exact ⟨_, rfl⟩
    · exact ⟨_, rfl⟩

theorem exists_foldlM_previewTake {read : FileReader} {pairs : List Pair}
    (h : Loadable read pairs) (options : Preview.Options) :
    ∃ options', pairs.foldlM (previewTake read) options = .ok options' := by
  induction pairs generalizing options with
  | nil => exact ⟨options, rfl⟩
  | cons pair pairs ih =>
      obtain ⟨hpair, hlater⟩ := List.forall_mem_cons.mp h
      obtain ⟨between, htake⟩ := exists_previewTake hpair options
      obtain ⟨options', hrest⟩ := ih hlater between
      refine ⟨options', ?_⟩
      rw [List.foldlM_cons, htake]
      exact hrest

/-- Options that go by the last value of each flag. -/
structure GoesBy (read : FileReader) (pairs : List Pair) (options : Preview.Options) : Prop where
  settings : Loads read pairs options.settings
  width : options.width = size? "--width" pairs
  slack : options.slack = size? "--slack" pairs

theorem GoesBy.previewTake {read : FileReader} {pairs : List Pair} {pair : Pair}
    {options options' : Preview.Options} (h : GoesBy read pairs options)
    (hflag : pair.1 ∈ previewFlags) (htake : previewTake read options pair = .ok options') :
    GoesBy read (pairs ++ [pair]) options' := by
  obtain ⟨hloads, hwidth, hslack⟩ := h
  simp only [previewFlags, List.mem_cons, List.not_mem_nil, or_false] at hflag
  obtain ⟨flag, value⟩ := pair
  rcases hflag with rfl | rfl | rfl
  · rw [Arguments.previewTake, if_pos rfl] at htake
    cases hload : Settings.load read value with
    | error error =>
        rw [hload] at htake
        cases htake
    | ok settings =>
        rw [hload] at htake
        cases htake
        refine ⟨?_, ?_, ?_⟩
        · simpa [Loads, last?_concat] using hload
        · simpa [size?, last?_concat] using hwidth
        · simpa [size?, last?_concat] using hslack
  · cases htake
    refine ⟨?_, ?_, ?_⟩
    · simpa [Loads, last?_concat] using hloads
    · simp [size?, last?_concat]
    · simpa [size?, last?_concat] using hslack
  · cases htake
    refine ⟨?_, ?_, ?_⟩
    · simpa [Loads, last?_concat] using hloads
    · simpa [size?, last?_concat] using hwidth
    · simp [size?, last?_concat]

/-- **What the pairs of the preview come to**: of each flag the last value, wherever it stands. -/
theorem goesBy_of_foldlM {read : FileReader} {pairs : List Pair} (hknown : Known previewFlags pairs)
    {options : Preview.Options} (h : pairs.foldlM (previewTake read) {} = .ok options) :
    GoesBy read pairs options := by
  induction pairs using List.reverseRecOn generalizing options with
  | nil =>
      cases h
      exact ⟨rfl, rfl, rfl⟩
  | append_singleton pairs pair ih =>
      obtain ⟨hearlier, hflag⟩ := known_concat.mp hknown
      rw [List.foldlM_append] at h
      cases hfirst : pairs.foldlM (previewTake read) {} with
      | error e =>
          rw [hfirst] at h
          cases h
      | ok between =>
          rw [hfirst] at h
          have hlast : (previewTake read between pair >>= pure) = .ok options := h
          rw [bind_pure] at hlast
          exact (ih hearlier hfirst).previewTake hflag hlast

/-- How the preview ends at an argument that it does not know. -/
def previewRefusal (argument : String) : Exit where
  code := 1
  output := Preview.usage
  errors := some ("Unknown argument: " ++ argument ++ "\n")

/-- How the preview ends for a file and a box to lay it out in. -/
def previewOf (read : FileReader) (path : String) (box : TextBox) : Exit :=
  match read path with
  | .error fault =>
    { code := 1, errors := some ("Error reading " ++ path ++ ": " ++ fault.message ++ "\n") }
  | .ok source => Preview.display box source

theorem run_eq {path : String} (hpath : path ∉ ["--help", "-h"]) (read : FileReader)
    (rest : List String) :
    Preview.run read (path :: rest) =
      match Preview.readOptions read {} rest with
      | .error (.unknown argument) => previewRefusal argument
      | .error (.settings file error) =>
        { code := 1
          errors := some ("Error loading config " ++ file ++ ": " ++ error.message ++ "\n") }
      | .ok options => previewOf read path options.textBox := by
  have hhelp : ¬ (path = "--help" ∨ path = "-h") := by simpa using hpath
  rw [Preview.run, if_neg hhelp]
  rfl

theorem textBox_of_foldlM {read : FileReader} {pairs : List Pair}
    (hknown : Known previewFlags pairs) {options : Preview.Options}
    (h : pairs.foldlM (previewTake read) {} = .ok options) :
    Loads read pairs options.settings ∧
      options.textBox = sizedBox pairs options.settings.textBox := by
  have hgoes := goesBy_of_foldlM hknown h
  exact ⟨hgoes.settings, by rw [Preview.Options.textBox, hgoes.width, hgoes.slack, sizedBox]⟩

theorem honours_preview {path : String} (hpath : path ∉ ["--help", "-h"]) {read : FileReader}
    {rest : List String} (hload : NamesLoadable read rest) :
    Honours previewFlags rest
      (∃ options, Preview.readOptions read {} rest = .ok options)
      (fun pairs => ∃ settings, Loads read pairs settings ∧
        Preview.run read (path :: rest) = previewOf read path (sizedBox pairs settings.textBox))
      (fun argument => Preview.run read (path :: rest) = previewRefusal argument) := by
  rw [run_eq hpath, readOptions_eq_readPairs_preview]
  refine (honours_readPairs (previewTake read) .unknown {} fun pairs behind hknown hrest =>
    exists_foldlM_previewTake (hload pairs behind hknown hrest) {}).imp .rfl ?_ ?_
  · rintro pairs hknown - ⟨options, htaken, hok⟩
    obtain ⟨hloads, hbox⟩ := textBox_of_foldlM hknown htaken
    refine ⟨options.settings, hloads, ?_⟩
    rw [hok, ← hbox]
  · intro argument herror
    rw [herror]

/-! ## Both programs -/

theorem Loadable.namesLoadable {read : FileReader} {pairs : List Pair}
    (h : Loadable read pairs) : NamesLoadable read (spelled pairs) := by
  intro before behind _ hspelled pair hpair
  obtain ⟨after, rfl⟩ := exists_append_of_spelled_eq hspelled
  exact h pair (List.mem_append_left after hpair)

section Reordering

variable {pairs pairs' : List Pair} (h : Reordered pairs pairs') {path : String}
  (hpath : path ∉ ["--help", "-h"])

include h

theorem Reordered.shellOptions_eq : shellOptions pairs = shellOptions pairs' := by
  rw [shellOptions, shellOptions, h.last?_eq, h.last?_eq]

theorem Reordered.sizedBox_eq : sizedBox pairs = sizedBox pairs' := by
  funext box
  rw [sizedBox, sizedBox, size?, size?, size?, size?, h.last?_eq, h.last?_eq]

theorem Reordered.settings_eq {read : FileReader} {settings settings' : Settings}
    (hloads : Loads read pairs settings) (hloads' : Loads read pairs' settings') :
    settings = settings' := by
  unfold Loads at hloads hloads'
  rw [h.last?_eq] at hloads
  cases hlast : last? "--config" pairs' with
  | none =>
      simp only [hlast] at hloads hloads'
      rw [hloads, hloads']
  | some file =>
      simp only [hlast] at hloads hloads'
      rw [hloads] at hloads'
      exact Except.ok.inj hloads'

include hpath

theorem Reordered.readArguments_eq (hknown : Known shellFlags pairs) :
    Play.readArguments (path :: spelled pairs) = Play.readArguments (path :: spelled pairs') := by
  rw [(honours_shell hpath _).used pairs hknown rfl,
    (honours_shell hpath _).used pairs' (h.known hknown) rfl, h.shellOptions_eq]

theorem Reordered.run_eq (hknown : Known previewFlags pairs) {read : FileReader}
    (hload : Loadable read pairs) :
    Preview.run read (path :: spelled pairs) = Preview.run read (path :: spelled pairs') := by
  have hload' : Loadable read pairs' := fun pair hpair => hload pair (h.mem hpair)
  obtain ⟨settings, hloads, hrun⟩ :=
    (honours_preview hpath hload.namesLoadable).used pairs hknown rfl
  obtain ⟨settings', hloads', hrun'⟩ :=
    (honours_preview hpath hload'.namesLoadable).used pairs' (h.known hknown) rfl
  rw [hrun, hrun', h.settings_eq hloads hloads', h.sizedBox_eq]

end Reordering

/-- **Both programs accept exactly flags with values.** Behind a file that is no call for help, each
accepts the pairs with its flags, the preview provided that the files of settings named can be
loaded; it then goes by the last value of each flag, and otherwise ends naming the first argument
that is no known flag with a value behind it. So the order of pairs with different flags is of no
consequence. -/
theorem programs_honour_flags {path : String} (hpath : path ∉ ["--help", "-h"])
    (rest : List String) :
    Honours shellFlags rest
      (∃ options, Play.readArguments (path :: rest) = .ok (path, options))
      (fun pairs => Play.readArguments (path :: rest) = .ok (path, shellOptions pairs))
      (fun argument => ∀ folder events,
        Play.run folder (path :: rest) events = shellRefusal argument) ∧
    (∀ read, NamesLoadable read rest →
      Honours previewFlags rest
        (∃ options, Preview.readOptions read {} rest = .ok options)
        (fun pairs => ∃ settings, Loads read pairs settings ∧
          Preview.run read (path :: rest) = previewOf read path (sizedBox pairs settings.textBox))
        (fun argument => Preview.run read (path :: rest) = previewRefusal argument)) ∧
    ∀ pairs pairs', Reordered pairs pairs' →
      (Known shellFlags pairs →
        Play.readArguments (path :: spelled pairs) = Play.readArguments (path :: spelled pairs')) ∧
      ∀ read, Known previewFlags pairs → Loadable read pairs →
        Preview.run read (path :: spelled pairs) = Preview.run read (path :: spelled pairs') := by
  refine ⟨?_, fun read hload => honours_preview hpath hload, fun pairs pairs' h =>
    ⟨h.readArguments_eq hpath, fun read hknown hload => h.run_eq hpath hknown hload⟩⟩
  refine (honours_shell hpath rest).imp .rfl (fun _ _ _ hused => hused) ?_
  intro argument herror folder events
  simp only [Play.run, Play.prepare, herror]
  rfl

/-- A box narrower than the default. -/
def narrowSettings : Settings where
  textBox := { width := 40 }

/-- Whatever is read holds these settings. -/
def narrowFiles : FileReader := fun _ => .ok narrowSettings.text

theorem load_narrowFiles (path : String) : Settings.load narrowFiles path = .ok narrowSettings := by
  have hprompt : narrowSettings.prompt ≠ "" := by decide
  have hparse := Settings.parse_of_distinct (Settings.listing_text narrowSettings)
    (Settings.distinct_entries narrowSettings)
  rw [Settings.settingsOf_entries, if_neg hprompt] at hparse
  exact hparse

/-- A size before the settings that it overrides, and one that is no number. -/
def mixedPairs : List Pair := [("--width", "9"), ("--config", "a"), ("--slack", "wide")]

/-- A value that looks like a flag, a flag at the end without a value, and pairs with three
different flags, which may as well stand in the opposite order. -/
theorem programs_honour_mixed_flags :
    "tale" ∉ ["--help", "-h"] ∧
    Play.readArguments ["tale", "--log-dir", "--config", "--config", "a"]
      = .ok ("tale", { settings := some "a", logDirectory := "--config" }) ∧
    (∀ folder events, Play.run folder ["tale", "--config", "a", "--log-dir"] events
      = shellRefusal "--log-dir") ∧
    NamesLoadable narrowFiles (spelled mixedPairs) ∧
    Preview.run narrowFiles ("tale" :: spelled mixedPairs)
      = Preview.display { width := 9 } narrowSettings.text ∧
    Reordered mixedPairs mixedPairs.reverse ∧
    Preview.run narrowFiles ("tale" :: spelled mixedPairs)
      = Preview.run narrowFiles ["tale", "--slack", "wide", "--config", "a", "--width", "9"] := by
  have hpath : "tale" ∉ ["--help", "-h"] := by decide
  have hshell := (programs_honour_flags hpath ["--log-dir", "--config", "--config", "a"]).1
  have hstray := (programs_honour_flags hpath ["--config", "a", "--log-dir"]).1
  have hloadable : Loadable narrowFiles mixedPairs :=
    fun pair _ _ => ⟨narrowSettings, load_narrowFiles pair.2⟩
  obtain ⟨-, hpreview, horder⟩ := programs_honour_flags hpath (spelled mixedPairs)
  have hknown : Known previewFlags mixedPairs := by decide
  obtain ⟨settings, hloads, hrun⟩ :=
    (hpreview narrowFiles hloadable.namesLoadable).used mixedPairs hknown rfl
  have hsettings : settings = narrowSettings := by
    have hsame : Settings.load narrowFiles "a" = .ok settings := hloads
    rw [load_narrowFiles] at hsame
    exact (Except.ok.inj hsame).symm
  have hbox : sizedBox mixedPairs narrowSettings.textBox = { width := 9 } := by decide +kernel
  have hreversed : Reordered mixedPairs mixedPairs.reverse := by
    intro flag
    -- no flag stands there twice, so at most one pair has this one
    by_cases hwidth : "--width" = flag
    · subst hwidth
      decide
    by_cases hconfig : "--config" = flag
    · subst hconfig
      decide
    by_cases hslack : "--slack" = flag
    · subst hslack
      decide
    simp [mixedPairs, hwidth, hconfig, hslack]
  refine ⟨hpath, ?_, ?_, hloadable.namesLoadable, ?_, hreversed, ?_⟩
  · exact hshell.used [("--log-dir", "--config"), ("--config", "a")] (by decide) rfl
  · exact hstray.named "--log-dir" ⟨[("--config", "a")], [], by decide, rfl, by decide⟩
  · rw [hrun, hsettings, hbox]
    rfl
  · exact (horder mixedPairs mixedPairs.reverse hreversed).2 narrowFiles hknown hloadable

end TextAdventure.Arguments
