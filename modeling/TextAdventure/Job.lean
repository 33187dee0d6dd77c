import TextAdventure.Settings.Reader
import TextAdventure.Text.Lines

/-!
# Jobs

A job loads one thing and ends with a value or a failure, or crashes. How it ends is fixed from the
start; how many steps it takes until then decides only when.
-/

namespace TextAdventure

/-- Why a job failed. -/
inductive LoadError where
  | file (path : String) (fault : FileFault)
  | settings (error : Settings.Error)
  /-- The job crashed, with what is said of the crash. -/
  | crashed (reason : String)
deriving DecidableEq, Repr

/-- The wording of a failure. -/
def LoadError.message : LoadError → String
  | .file path fault => "IO error reading " ++ path ++ ": " ++ fault.message
  | .settings error => "config error: " ++ error.message
  | .crashed reason => "load task failed: " ++ reason

/-- How a job ends: its load returns, with a value or a failure, or the job crashes before, and the
reason is what those who ran it say of that. -/
inductive Outcome (α : Type) where
  | returned (result : Except LoadError α)
  | crashed (reason : String)

instance {α : Type} : Coe (Except LoadError α) (Outcome α) := ⟨.returned⟩

/-- What is made of an outcome: what the load returned, and for a crash a failure of its own. -/
def Outcome.collected {α : Type} : Outcome α → Except LoadError α
  | .returned result => result
  | .crashed reason => .error (.crashed reason)

/-- A job: its name, how many steps it still takes, and how it ends. -/
structure Job (α : Type) where
  name : String
  steps : Nat := 0
  result : Outcome α

/-- The job after a step. One that has ended stays as it is. -/
def Job.step {α : Type} (job : Job α) : Job α :=
  { job with steps := job.steps - 1 }

/-- Whether the job has ended. -/
def Job.ended {α : Type} (job : Job α) : Bool :=
  job.steps == 0

/-- Reads a file as lines. -/
def loadLines (read : FileReader) (path : String) : Except LoadError (List String) :=
  match read path with
  | .error fault => .error (.file path fault)
  | .ok text => .ok (Text.lines text)

/-- Reads a file as settings. -/
def loadSettings (read : FileReader) (path : String) : Except LoadError Settings :=
  match read path with
  | .error fault => .error (.file path fault)
  | .ok text =>
    match Settings.parse text with
    | .error error => .error (.settings error)
    | .ok settings => .ok settings

end TextAdventure
