import TextAdventure.Loader

/-!
# The stages of a run

Whatever the schedule, a run passes through few kinds of states. While it is collecting, all that
the loader has reported, kept and logged is a matter of how many jobs it has collected
(`Loader.collecting`); how far the other jobs have come only decides when it can go on. Behind the
last job there is one state with the gate open (`Loader.opened`) and one at the end, after a failure
(`Loader.gaveUp`) or without one (`Loader.handedOver`), and these depend on nothing but the jobs.

`Reached` lists the stages, and `Reached.turns` says that a run never leaves them.
-/

namespace TextAdventure

variable {α : Type}

/-! ## Jobs at their end -/

namespace Job

/-- What is reported of a job: nothing if it loaded something, otherwise its name and its failure,
which for a crash is the failure that says so. -/
def failure? (job : Job α) : Option (String × LoadError) :=
  match job.result with
  | .returned (.ok _) => none
  | .returned (.error error) => some (job.name, error)
  | .crashed reason => some (job.name, .crashed reason)

def atEnd (job : Job α) : Job α :=
  { job with steps := 0 }

@[simp] theorem atEnd_step (job : Job α) : job.step.atEnd = job.atEnd := rfl

@[simp] theorem step_atEnd (job : Job α) : job.atEnd.step = job.atEnd := rfl

theorem ended_iff {job : Job α} : job.ended = true ↔ job.steps = 0 := by
  simp [ended]

@[simp] theorem ended_atEnd (job : Job α) : job.atEnd.ended = true := rfl

theorem atEnd_of_ended {job : Job α} (h : job.ended = true) : job.atEnd = job := by
  rw [atEnd, ← ended_iff.mp h]

theorem ended_step {job : Job α} (h : job.ended = true) : job.step.ended = true := by
  rw [ended_iff] at h ⊢
  simp [step, h]

def report (logged : Bool) (job : Job α) : List Log.Entry :=
  ((Loader.ofJobs []).accept logged job).log

def keep (kept : Resources α) (job : Job α) : Resources α :=
  match job.result with
  | .returned (.ok value) => kept.insert job.name value
  | _ => kept

end Job

/-! ## Stages -/

namespace Loader

/-- A loader that has collected some of its jobs, while the jobs have come as far as `now`. -/
def collecting (logged : Bool) (jobs now : List (Job α)) (count : Nat) : Loader α where
  jobs := now
  collected := count
  failures := (jobs.take count).filterMap Job.failure?
  loaded := (jobs.take count).foldl Job.keep {}
  log := (jobs.take count).flatMap (Job.report logged)

/-- A loader that has collected all of its jobs. -/
def collectedAll (logged : Bool) (jobs : List (Job α)) : Loader α :=
  collecting logged jobs (jobs.map Job.atEnd) jobs.length

def opened (logged : Bool) (jobs : List (Job α)) : Loader α :=
  { collectedAll logged jobs with
    gate := { isReady := true }
    log := (collectedAll logged jobs).log ++
      [⟨.info, "all " ++ toString jobs.length ++ " loads finished"⟩] }

def handedOver (logged : Bool) (jobs : List (Job α)) : Loader α :=
  { opened logged jobs with
    handed := some (jobs.foldl Job.keep {})
    gate := { isReady := true, held := false } }

/-- A loader that has let go of its gate because of a failure. -/
def gaveUp (logged : Bool) (jobs : List (Job α)) : Loader α :=
  { collectedAll logged jobs with
    gate := { held := false }
    log := (collectedAll logged jobs).log ++
      [⟨.warn, toString (jobs.filterMap Job.failure?).length ++ " of " ++ toString jobs.length ++
        " loads failed; staying unready"⟩] }

/-- The stages of a run. -/
inductive Reached (logged : Bool) (jobs : List (Job α)) : Loader α → Prop where
  | collecting {now : List (Job α)} {count : Nat}
      (same : now.map Job.atEnd = jobs.map Job.atEnd) (bound : count ≤ jobs.length)
      (ended : ∀ (i : Nat) (job : Job α), i < count → now[i]? = some job → job.ended = true) :
      Reached logged jobs (collecting logged jobs now count)
  | opened (fine : ∀ job ∈ jobs, job.failure? = none) : Reached logged jobs (opened logged jobs)
  | handedOver (fine : ∀ job ∈ jobs, job.failure? = none) :
      Reached logged jobs (handedOver logged jobs)
  | gaveUp (failed : ∃ job ∈ jobs, job.failure? ≠ none) : Reached logged jobs (gaveUp logged jobs)

theorem reached_ofJobs (logged : Bool) (jobs : List (Job α)) :
    Reached logged jobs (ofJobs jobs) := by
  show Reached logged jobs (collecting logged jobs jobs 0)
  exact .collecting rfl (Nat.zero_le _) fun _ _ hi => absurd hi (Nat.not_lt_zero _)

/-! ## One turn -/

section

variable {logged : Bool} {jobs now : List (Job α)} {count : Nat}

theorem accept_atEnd (loader : Loader α) (job : Job α) :
    loader.accept logged job.atEnd = loader.accept logged job := rfl

/-- Collecting the next job is counting one job more. -/
theorem accept_collecting {job : Job α} (hjob : jobs[count]? = some job) :
    (collecting logged jobs now count).accept logged job
      = collecting logged jobs now (count + 1) := by
  have htake : jobs.take (count + 1) = jobs.take count ++ [job] := by
    rw [List.take_add_one, hjob]
    rfl
  obtain ⟨name, steps, result⟩ := job
  simp only [collecting, htake, List.filterMap_append, List.foldl_append, List.flatMap_append]
  rcases result with (error | value) | _ <;>
    simp [accept, Outcome.collected, Job.failure?, Job.keep, Job.report, ofJobs]

theorem map_atEnd_modify_step (now : List (Job α)) (index : Nat) :
    (now.modify index Job.step).map Job.atEnd = now.map Job.atEnd := by
  apply List.ext_getElem?
  intro i
  rw [List.getElem?_map, List.getElem?_map, List.getElem?_modify]
  cases now[i]? with
  | none => rfl
  | some job => by_cases hi : index = i <;> simp [hi]

theorem modify_step_map_atEnd (jobs : List (Job α)) (index : Nat) :
    (jobs.map Job.atEnd).modify index Job.step = jobs.map Job.atEnd := by
  apply List.ext_getElem?
  intro i
  rw [List.getElem?_modify, List.getElem?_map]
  cases jobs[i]? with
  | none => rfl
  | some job => by_cases hi : index = i <;> simp [hi]

theorem ended_of_getElem?_modify_step
    (hended : ∀ (i : Nat) (job : Job α), i < count → now[i]? = some job → job.ended = true)
    (index : Nat) {i : Nat} {job : Job α} (hi : i < count)
    (hjob : (now.modify index Job.step)[i]? = some job) : job.ended = true := by
  rw [List.getElem?_modify] at hjob
  obtain ⟨before, hbefore, heq⟩ := Option.map_eq_some_iff.mp hjob
  have hold := hended i before hi hbefore
  by_cases hindex : index = i
  · rw [if_pos hindex] at heq
    exact heq ▸ Job.ended_step hold
  · rw [if_neg hindex] at heq
    exact heq ▸ hold

/-- The job that is next to be collected is one that was registered. -/
theorem exists_registered (same : now.map Job.atEnd = jobs.map Job.atEnd) {i : Nat} {job : Job α}
    (hjob : now[i]? = some job) (hended : job.ended = true) :
    ∃ registered, jobs[i]? = some registered ∧ registered.atEnd = job := by
  have hi : (jobs.map Job.atEnd)[i]? = some job := by
    rw [← same, List.getElem?_map, hjob, Option.map_some, Job.atEnd_of_ended hended]
  rw [List.getElem?_map] at hi
  exact Option.map_eq_some_iff.mp hi

/-- When all jobs are collected they are all at their end. -/
theorem eq_map_atEnd (same : now.map Job.atEnd = jobs.map Job.atEnd)
    (hended : ∀ (i : Nat) (job : Job α), i < jobs.length → now[i]? = some job →
      job.ended = true) :
    now = jobs.map Job.atEnd := by
  rw [← same]
  have hlength : now.length = jobs.length := by simpa using congrArg List.length same
  apply List.ext_getElem?
  intro i
  rw [List.getElem?_map]
  cases hjob : now[i]? with
  | none => rfl
  | some job =>
      have hi : i < jobs.length := hlength ▸ (List.getElem?_eq_some_iff.mp hjob).1
      rw [Option.map_some, Job.atEnd_of_ended (hended i job hi hjob)]

/-- Behind the last job the collector goes on to the gate. -/
theorem reached_close (logged : Bool) (jobs : List (Job α)) :
    Reached logged jobs (collectedAll logged jobs).close := by
  by_cases hfine : ∀ job ∈ jobs, job.failure? = none
  · have hnone : jobs.filterMap Job.failure? = [] := List.filterMap_eq_nil_iff.mpr hfine
    have heq : (collectedAll logged jobs).close = opened logged jobs := by
      simp [close, collectedAll, collecting, hnone, opened]
    exact heq ▸ .opened hfine
  · have hsome : (jobs.filterMap Job.failure?) ≠ [] := by
      rwa [ne_eq, List.filterMap_eq_nil_iff]
    have heq : (collectedAll logged jobs).close = gaveUp logged jobs := by
      simp [close, collectedAll, collecting, hsome, gaveUp, Gate.letGo]
    have hfailed : ∃ job ∈ jobs, job.failure? ≠ none := by
      simpa using hfine
    exact heq ▸ .gaveUp hfailed

theorem collect_opened (hfine : ∀ job ∈ jobs, job.failure? = none) :
    (opened logged jobs).collect logged = handedOver logged jobs := by
  have hnone : jobs.filterMap Job.failure? = [] := List.filterMap_eq_nil_iff.mpr hfine
  simp [collect, close, opened, collectedAll, collecting, hnone, handedOver, Gate.letGo]

theorem modify_jobs_opened (index : Nat) :
    { opened logged jobs with jobs := (opened logged jobs).jobs.modify index Job.step }
      = opened logged jobs := by
  simp [opened, collectedAll, collecting, modify_step_map_atEnd]

theorem Reached.collect {loader : Loader α} (h : Reached logged jobs loader)
    (hgoing : loader.ended = false) : Reached logged jobs (loader.collect logged) := by
  cases h with
  | @collecting now count same bound ended =>
      cases hjob : now[count]? with
      | none =>
          -- there is no job left, so all of them have been collected
          have hlength : now.length = jobs.length := by simpa using congrArg List.length same
          have hcount : count = jobs.length := by
            have := List.getElem?_eq_none_iff.mp hjob
            omega
          subst hcount
          have heq := eq_map_atEnd same ended
          subst heq
          rw [collect_of_getElem?_eq_none hjob]
          exact reached_close logged jobs
      | some job =>
          rw [collect_of_getElem?_eq_some hjob]
          by_cases hended : job.ended = true
          · -- a job that has ended is the registered one without its steps
            obtain ⟨registered, hregistered, rfl⟩ := exists_registered same hjob hended
            have haccept : (Loader.collecting logged jobs now count).accept logged
                registered.atEnd = Loader.collecting logged jobs now (count + 1) := by
              rw [accept_atEnd, accept_collecting hregistered]
            simp only [hended, if_true, haccept]
            refine .collecting same (List.getElem?_eq_some_iff.mp hregistered).1 ?_
            intro i other hi hother
            rcases Nat.lt_succ_iff_lt_or_eq.mp hi with hi | rfl
            · exact ended i other hi hother
            · rw [hjob, Option.some.injEq] at hother
              exact hother ▸ hended
          · simp only [hended]
            exact .collecting same bound ended
  | opened fine =>
      rw [collect_opened fine]
      exact .handedOver fine
  | handedOver fine => cases hgoing
  | gaveUp failed => cases hgoing

/-- **One turn** leads from stage to stage. -/
theorem Reached.turn {loader : Loader α} (h : Reached logged jobs loader) (turn : Turn) :
    Reached logged jobs (loader.turn logged turn) := by
  cases hended : loader.ended with
  | true => rwa [turn_of_ended hended]
  | false =>
      cases turn with
      | collector =>
          rw [turn_collector hended]
          exact h.collect hended
      | job index =>
          rw [turn_job hended]
          cases h with
          | @collecting now count same bound ended =>
              show Reached logged jobs
                (Loader.collecting logged jobs (now.modify index Job.step) count)
              refine .collecting ?_ bound ?_
              · rw [map_atEnd_modify_step, same]
              · intro i job hi hjob
                exact ended_of_getElem?_modify_step ended index hi hjob
          | opened fine =>
              rw [modify_jobs_opened]
              exact .opened fine
          | handedOver fine => cases hended
          | gaveUp failed => cases hended

/-- **A whole run** stays within the stages. -/
theorem Reached.turns {loader : Loader α} (h : Reached logged jobs loader)
    (schedule : List Turn) : Reached logged jobs (loader.turns logged schedule) := by
  induction schedule generalizing loader with
  | nil => exact h
  | cons turn schedule ih => exact ih (h.turn turn)

end

end Loader

end TextAdventure
