import TextAdventure.Job
import TextAdventure.Log
import TextAdventure.Resources

/-!
# Loading

Named jobs run together, and a collector takes their results in the order in which the jobs were
registered, whatever the order in which they end: a loaded value is kept under its job's name, a
failure is reported. When all are collected and none has failed, the gate is opened and then
everything is handed over; otherwise the gate is let go of unopened.

A run is a sequence of turns, each of one job or of the collector; which turns come in which
order is up to a schedule.
-/

namespace TextAdventure

/-! ## The gate -/

/-- What can be seen of a loader from outside. The loader opens the gate when everything has been
loaded, and lets go of it at its end, opened or not. -/
structure Gate where
  isReady : Bool := false
  /-- Whether the loader still holds the gate, and so may yet open it. -/
  held : Bool := true
deriving DecidableEq, Repr

/-- What a waiter is told, once there is something to tell: that the gate is open, or that nobody is
left to open it. -/
def Gate.answer? (gate : Gate) : Option Bool :=
  if gate.isReady then some true
  else if gate.held then none
  else some false

/-- The gate without its loader. -/
def Gate.letGo (gate : Gate) : Gate :=
  { gate with held := false }

/-! ## The loader -/

/-- A loader at work. -/
structure Loader (α : Type) where
  /-- The jobs, in the order of their registration. -/
  jobs : List (Job α)
  /-- How many of them have been collected. -/
  collected : Nat := 0
  /-- The failures reported so far. -/
  failures : List (String × LoadError) := []
  /-- What has been loaded so far. -/
  loaded : Resources α := {}
  /-- What the loader has handed over at its end. -/
  handed : Option (Resources α) := none
  gate : Gate := {}
  log : List Log.Entry := []

/-- Who gets to go on: one of the jobs, or the collector. -/
inductive Turn where
  | job (index : Nat)
  | collector
deriving DecidableEq, Repr

namespace Loader

variable {α : Type}

/-- A loader with its jobs registered. -/
def ofJobs (jobs : List (Job α)) : Loader α :=
  { jobs := jobs }

/-- Gives up a loader that has not been started. -/
def abandon (loader : Loader α) : Loader α :=
  { loader with gate := loader.gate.letGo }

/-- Whether the loader has come to its end. -/
def ended (loader : Loader α) : Bool :=
  !loader.gate.held

/-- What a run has come to, once it has: everything that was loaded, or nothing. -/
def result? (loader : Loader α) : Option (Option (Resources α)) :=
  if loader.ended then some loader.handed else none

/-! ## Turns -/

/-- Takes the result of a job that has ended. A failure is logged if `logged` asks for it. -/
def accept (logged : Bool) (loader : Loader α) (job : Job α) : Loader α :=
  match job.result.collected with
  | .ok value =>
    { loader with
      collected := loader.collected + 1
      loaded := loader.loaded.insert job.name value
      log := loader.log ++ [⟨.debug, "loaded '" ++ job.name ++ "'"⟩] }
  | .error error =>
    { loader with
      collected := loader.collected + 1
      failures := loader.failures ++ [(job.name, error)]
      log := loader.log ++
        if logged then
          [⟨.error, "encountered an error when attempting to load " ++ job.name ++ ": " ++
            error.message⟩]
        else [] }

/-- One step at the end of a run, after the last job has been collected. With a failure the gate is
let go of. Without one it is opened first, and in the next step everything is handed over. -/
def close (loader : Loader α) : Loader α :=
  if !loader.failures.isEmpty then
    { loader with
      gate := loader.gate.letGo
      log := loader.log ++
        [⟨.warn, toString loader.failures.length ++ " of " ++ toString loader.jobs.length ++
          " loads failed; staying unready"⟩] }
  else if !loader.gate.isReady then
    { loader with
      gate := { loader.gate with isReady := true }
      log := loader.log ++ [⟨.info, "all " ++ toString loader.jobs.length ++ " loads finished"⟩] }
  else
    { loader with
      handed := some loader.loaded
      gate := loader.gate.letGo }

/-- What the collector does in one turn: it takes the next job if that has ended, and goes towards
the end of the run if there is none. -/
def collect (logged : Bool) (loader : Loader α) : Loader α :=
  match loader.jobs[loader.collected]? with
  | some job => if job.ended then loader.accept logged job else loader
  | none => loader.close

theorem collect_of_getElem?_eq_some {loader : Loader α} {job : Job α}
    (h : loader.jobs[loader.collected]? = some job) (logged : Bool) :
    loader.collect logged = if job.ended then loader.accept logged job else loader := by
  rw [collect, h]

theorem collect_of_getElem?_eq_none {loader : Loader α}
    (h : loader.jobs[loader.collected]? = none) (logged : Bool) :
    loader.collect logged = loader.close := by
  rw [collect, h]

/-- One turn. Nothing happens to a loader that has come to its end. -/
def turn (logged : Bool) (loader : Loader α) (turn : Turn) : Loader α :=
  if loader.ended then loader
  else
    match turn with
    | .job index => { loader with jobs := loader.jobs.modify index Job.step }
    | .collector => loader.collect logged

theorem turn_of_ended {loader : Loader α} (h : loader.ended = true) (logged : Bool) (turn : Turn) :
    loader.turn logged turn = loader := by
  rw [Loader.turn.eq_def, if_pos h]

theorem turn_job {loader : Loader α} (h : loader.ended = false) (logged : Bool) (index : Nat) :
    loader.turn logged (.job index)
      = { loader with jobs := loader.jobs.modify index Job.step } := by
  rw [Loader.turn.eq_def, if_neg (by simp [h])]

theorem turn_collector {loader : Loader α} (h : loader.ended = false) (logged : Bool) :
    loader.turn logged .collector = loader.collect logged := by
  rw [Loader.turn.eq_def, if_neg (by simp [h])]

/-- Turn after turn. -/
def turns (logged : Bool) (loader : Loader α) (schedule : List Turn) : Loader α :=
  schedule.foldl (turn logged) loader

theorem turns_cons (logged : Bool) (loader : Loader α) (turn : Turn) (schedule : List Turn) :
    loader.turns logged (turn :: schedule) = (loader.turn logged turn).turns logged schedule := rfl

theorem turns_append (logged : Bool) (loader : Loader α) (a b : List Turn) :
    loader.turns logged (a ++ b) = (loader.turns logged a).turns logged b := by
  simp [turns]

/-! ## Whole runs -/

/-- A schedule that brings one job after another to its end, and then lets the collector take them
all and end the run. -/
def fullSchedule (jobs : List (Job α)) : List Turn :=
  (jobs.zipIdx.flatMap fun (job, index) => List.replicate job.steps (.job index)) ++
    List.replicate (jobs.length + 2) .collector

/-- Runs every job to its end. -/
def start (logged : Bool) (jobs : List (Job α)) : Loader α :=
  (ofJobs jobs).turns logged (fullSchedule jobs)

end Loader

end TextAdventure
