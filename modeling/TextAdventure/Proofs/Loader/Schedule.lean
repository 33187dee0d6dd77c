import TextAdventure.Proofs.Loader.Stages

/-!
# Schedules

A schedule decides who goes on when, and nothing else: every run that comes to its end has
reported the same failures in the order of registration, and has handed over the same
(`Reached.eq_of_ended`). A run does come to its end as long as the schedule is fair, that is, gives
every job the turns it needs and never leaves the collector out for good (`Fair.exists_ended`).

While no job keeps the collector waiting, each of its turns brings the run closer to its end;
`pending` counts the turns that are left.
-/

namespace TextAdventure.Loader

variable {α : Type}

/-! ## Progress of the jobs -/

theorem turns_of_ended {loader : Loader α} (h : loader.ended = true) (logged : Bool)
    (schedule : List Turn) : loader.turns logged schedule = loader := by
  induction schedule with
  | nil => rfl
  | cons turn schedule ih =>
      rw [turns_cons, turn_of_ended h, ih]

theorem accept_fields (logged : Bool) (loader : Loader α) (job : Job α) :
    (loader.accept logged job).jobs = loader.jobs ∧
    (loader.accept logged job).collected = loader.collected + 1 ∧
    (loader.accept logged job).gate = loader.gate := by
  unfold accept
  split <;> exact ⟨rfl, rfl, rfl⟩

theorem jobs_close (loader : Loader α) : loader.close.jobs = loader.jobs := by
  unfold close
  split
  · rfl
  · split <;> rfl

/-- The collector leaves the jobs alone. -/
theorem jobs_collect (logged : Bool) (loader : Loader α) :
    (loader.collect logged).jobs = loader.jobs := by
  cases hjob : loader.jobs[loader.collected]? with
  | none => rw [collect_of_getElem?_eq_none hjob, jobs_close]
  | some job =>
      rw [collect_of_getElem?_eq_some hjob]
      split
      · exact (accept_fields logged loader job).1
      · rfl

/-- As long as a run goes on, each job has made as many steps as it got turns. -/
theorem getElem?_jobs_turns {logged : Bool} {loader : Loader α} {schedule : List Turn}
    (h : (loader.turns logged schedule).ended = false) (i : Nat) :
    (loader.turns logged schedule).jobs[i]?
      = loader.jobs[i]?.map fun job =>
          { job with steps := job.steps - schedule.count (.job i) } := by
  induction schedule generalizing loader with
  | nil => simp [turns]
  | cons turn schedule ih =>
      -- a run that has not ended by now had not ended before
      have hgoing : loader.ended = false := by
        cases hended : loader.ended with
        | false => rfl
        | true => rw [turns_of_ended hended, hended] at h; cases h
      rw [turns_cons] at h ⊢
      rw [ih h]
      cases turn with
      | collector =>
          rw [turn_collector hgoing, jobs_collect, List.count_cons_of_ne (by simp)]
      | job index =>
          rw [turn_job hgoing, List.getElem?_modify]
          cases loader.jobs[i]? with
          | none => rfl
          | some job =>
              by_cases hi : index = i
              · subst hi
                simp [Job.step, Nat.sub_sub, Nat.add_comm]
              · simp [hi]

/-! ## Progress of the collector -/

/-- How many turns the collector still needs if no job keeps it waiting. -/
def pending (loader : Loader α) : Nat :=
  if loader.ended then 0
  else loader.jobs.length - loader.collected + if loader.gate.isReady then 1 else 2

theorem pending_of_going {loader : Loader α} (h : loader.ended = false) :
    loader.pending
      = loader.jobs.length - loader.collected + if loader.gate.isReady then 1 else 2 := by
  rw [pending, if_neg (by simp [h])]

theorem pending_pos {loader : Loader α} (h : loader.ended = false) : 0 < loader.pending := by
  rw [pending_of_going h]
  split <;> omega

theorem pending_accept_lt {logged : Bool} {loader : Loader α} {job : Job α}
    (hgoing : loader.ended = false) (hleft : loader.collected < loader.jobs.length) :
    (loader.accept logged job).pending < loader.pending := by
  obtain ⟨hjobs, hcollected, hgate⟩ := accept_fields logged loader job
  have hgoing' : (loader.accept logged job).ended = false := by rw [ended, hgate]; exact hgoing
  rw [pending_of_going hgoing, pending_of_going hgoing', hjobs, hcollected, hgate]
  omega

theorem pending_close_lt {loader : Loader α} (hgoing : loader.ended = false) :
    loader.close.pending < loader.pending := by
  have hpos := pending_pos hgoing
  unfold close
  split
  · exact hpos
  · split
    · rename_i hready
      have hready' : loader.gate.isReady = false := by simpa using hready
      have hheld : loader.gate.held = true := by simpa [ended] using hgoing
      simp [pending, ended, hheld, hready']
    · exact hpos

/-- **One turn of the collector** brings the end closer if no job keeps it waiting. -/
theorem pending_collect_lt {logged : Bool} {loader : Loader α} (hgoing : loader.ended = false)
    (hjobs : ∀ job ∈ loader.jobs, job.ended = true) :
    (loader.collect logged).pending < loader.pending := by
  cases hjob : loader.jobs[loader.collected]? with
  | none =>
      rw [collect_of_getElem?_eq_none hjob]
      exact pending_close_lt hgoing
  | some job =>
      rw [collect_of_getElem?_eq_some hjob, if_pos (hjobs job (List.mem_of_getElem? hjob))]
      exact pending_accept_lt hgoing (List.getElem?_eq_some_iff.mp hjob).1

theorem pending_modify_jobs (loader : Loader α) (index : Nat) :
    { loader with jobs := loader.jobs.modify index Job.step }.pending = loader.pending := by
  simp [pending, ended]

/-- Once no job keeps it waiting, the collector ends the run in so many turns. -/
theorem ended_turns_of_pending_le {logged : Bool} {loader : Loader α} {schedule : List Turn}
    (hjobs : ∀ job ∈ loader.jobs, job.ended = true)
    (h : loader.pending ≤ schedule.count .collector) :
    (loader.turns logged schedule).ended = true := by
  -- turns of jobs leave `pending` as it is, so the turns of the collector pay for all of it
  induction schedule generalizing loader with
  | nil =>
      cases hended : loader.ended with
      | true => exact hended
      | false =>
          have hpos := pending_pos hended
          simp only [List.count_nil] at h
          omega
  | cons turn schedule ih =>
      cases hended : loader.ended with
      | true => rw [turns_of_ended hended]; exact hended
      | false =>
          rw [turns_cons]
          cases turn with
          | collector =>
              rw [turn_collector hended]
              apply ih
              · rw [jobs_collect]
                exact hjobs
              · have hlt : (loader.collect logged).pending < loader.pending :=
                  pending_collect_lt hended hjobs
                rw [List.count_cons_self] at h
                omega
          | job index =>
              rw [turn_job hended]
              apply ih
              · intro job hjob
                obtain ⟨i, hi⟩ := List.mem_iff_getElem?.mp hjob
                have hold : ∀ (j : Nat) (other : Job α), j < i + 1 →
                    loader.jobs[j]? = some other → other.ended = true :=
                  fun _ other _ hother => hjobs other (List.mem_of_getElem? hother)
                exact ended_of_getElem?_modify_step hold index (Nat.lt_succ_self i) hi
              · rw [List.count_cons_of_ne (by simp)] at h
                rw [pending_modify_jobs]
                exact h

/-- **Enough turns end a run**: first every job gets the turns it needs, then the collector gets
one for each job and two more. -/
theorem ended_turns_of_enough {logged : Bool} {jobs : List (Job α)} {early late : List Turn}
    (hjobs : ∀ (i : Nat) (job : Job α), jobs[i]? = some job → job.steps ≤ early.count (.job i))
    (hcollector : jobs.length + 2 ≤ late.count .collector) :
    ((ofJobs jobs).turns logged (early ++ late)).ended = true := by
  rw [turns_append]
  cases hended : ((ofJobs jobs).turns logged early).ended with
  | true => rw [turns_of_ended hended]; exact hended
  | false =>
      have hprogress := getElem?_jobs_turns hended
      apply ended_turns_of_pending_le
      · intro job hjob
        obtain ⟨i, hi⟩ := List.mem_iff_getElem?.mp hjob
        rw [hprogress i] at hi
        obtain ⟨registered, hregistered, rfl⟩ := Option.map_eq_some_iff.mp hi
        have hsteps := hjobs i registered hregistered
        rw [Job.ended_iff]
        exact Nat.sub_eq_zero_of_le hsteps
      · have hlength : ((ofJobs jobs).turns logged early).jobs.length ≤ jobs.length := by
          apply Nat.le_of_not_lt
          intro hlt
          have hnone : ((ofJobs jobs).turns logged early).jobs[jobs.length]? = none := by
            rw [hprogress]
            simp [ofJobs]
          exact absurd (List.getElem?_eq_none_iff.mp hnone) (Nat.not_le_of_lt hlt)
        rw [pending_of_going hended]
        split <;> omega

/-! ## Where every run ends -/

/-- The schedule that runs every job to its end gives each of them the turns it needs. -/
theorem steps_le_count_flatMap {jobs : List (Job α)} {i : Nat} {job : Job α}
    (h : jobs[i]? = some job) :
    job.steps ≤ (jobs.zipIdx.flatMap fun (job, index) =>
      List.replicate job.steps (Turn.job index)).count (.job i) := by
  have hmem : List.replicate job.steps (Turn.job i)
      ∈ jobs.zipIdx.map fun (job, index) => List.replicate job.steps (Turn.job index) :=
    List.mem_map.mpr ⟨(job, i), List.mem_zipIdx_iff_getElem?.mpr h, rfl⟩
  have hle := (List.sublist_flatten_of_mem hmem).count_le (Turn.job i)
  rw [List.count_replicate_self, ← List.flatMap_def] at hle
  exact hle

theorem ended_start (logged : Bool) (jobs : List (Job α)) : (start logged jobs).ended = true := by
  apply ended_turns_of_enough
  · intro i job hjob
    exact steps_le_count_flatMap hjob
  · exact Nat.le_of_eq List.count_replicate_self.symm

theorem reached_start (logged : Bool) (jobs : List (Job α)) :
    Reached logged jobs (start logged jobs) :=
  (reached_ofJobs logged jobs).turns (fullSchedule jobs)

/-- There is one state at the end of a run. -/
theorem Reached.eq_of_ended {logged : Bool} {jobs : List (Job α)} {a b : Loader α}
    (ha : Reached logged jobs a) (hb : Reached logged jobs b) (haended : a.ended = true)
    (hbended : b.ended = true) : a = b := by
  cases ha with
  | collecting => cases haended
  | opened => cases haended
  | handedOver fine =>
      cases hb with
      | collecting => cases hbended
      | opened => cases hbended
      | handedOver => rfl
      | gaveUp failed =>
          obtain ⟨job, hjob, hfailed⟩ := failed
          exact absurd (fine job hjob) hfailed
  | gaveUp failed =>
      cases hb with
      | collecting => cases hbended
      | opened => cases hbended
      | handedOver fine =>
          obtain ⟨job, hjob, hfailed⟩ := failed
          exact absurd (fine job hjob) hfailed
      | gaveUp => rfl

/-- What there is to say about the end of a run. -/
structure Settled (jobs : List (Job α)) (loader : Loader α) : Prop where
  /-- Every job has been waited for. -/
  collected : loader.collected = jobs.length
  /-- Each failure has been reported once, in the order of registration, and nothing else. -/
  failures : loader.failures = jobs.filterMap Job.failure?
  /-- The run has come to something, and that is more than nothing if no job has failed. -/
  result : ∃ handed, loader.result? = some handed ∧
    (handed.isSome = true ↔ ∀ job ∈ jobs, job.failure? = none)

theorem Reached.settled {logged : Bool} {jobs : List (Job α)} {loader : Loader α}
    (h : Reached logged jobs loader) (hended : loader.ended = true) : Settled jobs loader := by
  have hall : (jobs.take jobs.length).filterMap Job.failure? = jobs.filterMap Job.failure? := by
    rw [List.take_length]
  cases h with
  | collecting => cases hended
  | opened => cases hended
  | handedOver fine => exact ⟨rfl, hall, _, rfl, fun _ => fine, fun _ => rfl⟩
  | gaveUp failed =>
      refine ⟨rfl, hall, none, rfl, ?_⟩
      obtain ⟨job, hjob, hfailed⟩ := failed
      simpa using ⟨job, hjob, hfailed⟩

/-- At any moment the failures of the jobs collected so far have been reported. -/
theorem Reached.failures_eq {logged : Bool} {jobs : List (Job α)} {loader : Loader α}
    (h : Reached logged jobs loader) :
    loader.failures = (jobs.take loader.collected).filterMap Job.failure? := by
  cases h <;> rfl

/-! ## Endless schedules -/

def first (schedule : Nat → Turn) (n : Nat) : List Turn :=
  (List.range n).map schedule

theorem first_add (schedule : Nat → Turn) (n m : Nat) :
    first schedule (n + m) = first schedule n ++ first (fun k => schedule (n + k)) m := by
  rw [first, List.range_add, List.map_append, List.map_map]
  rfl

theorem count_first_le (schedule : Nat → Turn) {n m : Nat} (h : n ≤ m) (turn : Turn) :
    (first schedule n).count turn ≤ (first schedule m).count turn :=
  ((List.range_sublist.mpr h).map schedule).count_le turn

/-- A schedule that keeps nobody waiting for good. -/
structure Fair (jobs : List (Job α)) (schedule : Nat → Turn) : Prop where
  /-- Every job gets the turns it needs to end. -/
  jobs_end : ∀ (i : Nat) (job : Job α), jobs[i]? = some job →
    ∃ n, job.steps ≤ (first schedule n).count (.job i)
  /-- The collector gets a turn again and again. -/
  collector_returns : ∀ n, ∃ m, n ≤ m ∧ schedule m = .collector

/-- There is a fair schedule for any jobs: one that runs every job to its end, and then the
collector for ever. -/
theorem fair_fullSchedule (jobs : List (Job α)) :
    Fair jobs fun n => (fullSchedule jobs).getD n .collector where
  jobs_end := by
    intro i job hjob
    have hfirst : first (fun n => (fullSchedule jobs).getD n .collector)
        (fullSchedule jobs).length = fullSchedule jobs := by
      apply List.ext_getElem
      · simp [first]
      · intro n hn hn'
        simp [first, hn']
    refine ⟨(fullSchedule jobs).length, Nat.le_trans (steps_le_count_flatMap hjob) ?_⟩
    rw [hfirst, fullSchedule, List.count_append]
    exact Nat.le_add_right _ _
  collector_returns := by
    intro n
    refine ⟨max n (fullSchedule jobs).length, Nat.le_max_left _ _, ?_⟩
    have hbehind := List.getElem?_eq_none (Nat.le_max_right n (fullSchedule jobs).length)
    rw [List.getD_eq_getElem?_getD, hbehind]
    rfl

theorem Fair.exists_all_jobs_end {jobs : List (Job α)} {schedule : Nat → Turn}
    (h : Fair jobs schedule) :
    ∃ n, ∀ (i : Nat) (job : Job α), jobs[i]? = some job →
      job.steps ≤ (first schedule n).count (.job i) := by
  have hsome : ∀ k, ∃ n, ∀ (i : Nat) (job : Job α), i < k → jobs[i]? = some job →
      job.steps ≤ (first schedule n).count (.job i) := by
    intro k
    induction k with
    | zero => exact ⟨0, fun i _ hi => absurd hi (Nat.not_lt_zero i)⟩
    | succ k ih =>
        -- one job more: the later of two moments does for both
        obtain ⟨n, hn⟩ := ih
        obtain ⟨m, hm⟩ : ∃ m, ∀ job, jobs[k]? = some job →
            job.steps ≤ (first schedule m).count (.job k) := by
          cases hjob : jobs[k]? with
          | none => exact ⟨0, by simp⟩
          | some job =>
              obtain ⟨m, hm⟩ := h.jobs_end k job hjob
              exact ⟨m, by simpa using hm⟩
        refine ⟨max n m, fun i job hi hjob => ?_⟩
        rcases Nat.lt_succ_iff_lt_or_eq.mp hi with hi | rfl
        · exact Nat.le_trans (hn i job hi hjob) (count_first_le schedule (Nat.le_max_left n m) _)
        · exact Nat.le_trans (hm job hjob) (count_first_le schedule (Nat.le_max_right n m) _)
  obtain ⟨n, hn⟩ := hsome jobs.length
  exact ⟨n, fun i job hjob => hn i job (List.getElem?_eq_some_iff.mp hjob).1 hjob⟩

theorem Fair.exists_collector_turns {jobs : List (Job α)} {schedule : Nat → Turn}
    (h : Fair jobs schedule) (n k : Nat) :
    ∃ m, k ≤ (first (fun j => schedule (n + j)) m).count .collector := by
  induction k with
  | zero => exact ⟨0, Nat.zero_le _⟩
  | succ k ih =>
      obtain ⟨m, hm⟩ := ih
      -- one turn more: the first that the collector gets behind those counted
      obtain ⟨next, hle, hnext⟩ := h.collector_returns (n + m)
      have hmono := count_first_le (fun j => schedule (n + j)) (Nat.le_sub_of_add_le' hle)
        .collector
      have hturn : schedule (n + (next - n)) = .collector := by
        rw [Nat.add_sub_cancel' (Nat.le_trans (Nat.le_add_right n m) hle), hnext]
      refine ⟨next - n + 1, ?_⟩
      rw [first_add, List.count_append]
      have hone : (first (fun j => schedule (n + (next - n + j))) 1).count .collector = 1 := by
        simp [first, hturn]
      omega

/-- **A fair run ends.** -/
theorem Fair.exists_ended {jobs : List (Job α)} {schedule : Nat → Turn} (h : Fair jobs schedule)
    (logged : Bool) : ∃ n, ((ofJobs jobs).turns logged (first schedule n)).ended = true := by
  obtain ⟨n, hn⟩ := h.exists_all_jobs_end
  obtain ⟨m, hm⟩ := h.exists_collector_turns n (jobs.length + 2)
  refine ⟨n + m, ?_⟩
  rw [first_add]
  exact ended_turns_of_enough hn hm

/-- **The outcome does not depend on the schedule.** There is one loader that every run comes to,
in which every job has been waited for, every failure has been reported under its job's name, and
everything is handed over if nothing has failed. Every run has at any moment reported the failures
of the jobs collected so far, and is that loader if it has ended; and a fair run does end. -/
theorem turns_settle (logged : Bool) (jobs : List (Job α)) :
    Settled jobs (start logged jobs) ∧
    (∀ schedule : List Turn,
      ((ofJobs jobs).turns logged schedule).failures
        = (jobs.take ((ofJobs jobs).turns logged schedule).collected).filterMap Job.failure? ∧
      (((ofJobs jobs).turns logged schedule).ended = true →
        (ofJobs jobs).turns logged schedule = start logged jobs)) ∧
    ∀ schedule : Nat → Turn, Fair jobs schedule →
      ∃ n, ∀ m, n ≤ m → (ofJobs jobs).turns logged (first schedule m) = start logged jobs := by
  have hreached (schedule : List Turn) :
      Reached logged jobs ((ofJobs jobs).turns logged schedule) :=
    (reached_ofJobs logged jobs).turns schedule
  have hended := ended_start logged jobs
  have hsame (schedule : List Turn) (h : ((ofJobs jobs).turns logged schedule).ended = true) :
      (ofJobs jobs).turns logged schedule = start logged jobs :=
    (hreached schedule).eq_of_ended (reached_start logged jobs) h hended
  refine ⟨(reached_start logged jobs).settled hended, ?_, ?_⟩
  · intro schedule
    exact ⟨(hreached schedule).failures_eq, hsame schedule⟩
  · intro schedule hfair
    obtain ⟨n, hn⟩ := hfair.exists_ended logged
    refine ⟨n, fun m hm => ?_⟩
    obtain ⟨k, rfl⟩ := Nat.exists_eq_add_of_le hm
    rw [first_add, turns_append, turns_of_ended hn, hsame _ hn]

/-- A job that takes its time, one that fails at once and one that crashes, two of them under one
name. -/
def mixedJobs : List (Job Nat) :=
  [{ name := "font", steps := 2, result := .returned (.ok 7) },
    { name := "bold", result := .returned (.error (.file "bold.ttf" .notFound)) },
    { name := "bold", steps := 1, result := .crashed "task 3 panicked" }]

theorem mixedJobs_settle :
    Fair mixedJobs (fun n => (fullSchedule mixedJobs).getD n .collector) ∧
    (∃ n, ∀ m, n ≤ m →
      (ofJobs mixedJobs).turns true
        (first (fun n => (fullSchedule mixedJobs).getD n .collector) m) = start true mixedJobs) ∧
    (start true mixedJobs).failures
      = [("bold", .file "bold.ttf" .notFound), ("bold", .crashed "task 3 panicked")] := by
  obtain ⟨hsettled, -, hfair⟩ := turns_settle true mixedJobs
  exact ⟨fair_fullSchedule mixedJobs, hfair _ (fair_fullSchedule mixedJobs), hsettled.failures⟩

end TextAdventure.Loader
