import Mathlib.Data.Finset.Card
import TextAdventure.Proofs.Loader.Requests
import TextAdventure.Proofs.Loader.Schedule

/-!
# What a loader hands over

Results are kept in the order of registration, whichever job ends first, so of several jobs with one
name the one registered last decides (`lastLoaded?`). That settles what every run without failures
hands over, and with it the answers to all later requests (`handed_over_serves`).
-/

namespace TextAdventure

variable {α : Type}

/-- What a job loads, if it loads anything. -/
def Job.loaded? (job : Job α) : Option α :=
  match job.result with
  | .returned (.ok value) => some value
  | _ => none

namespace Loader

/-- What the last registered job of a name loads. -/
def lastLoaded? (jobs : List (Job α)) (name : String) : Option α :=
  (jobs.filter fun job => job.name == name).getLast?.bind Job.loaded?

/-! ## The kept values -/

theorem lastLoaded?_concat (jobs : List (Job α)) (job : Job α) (name : String) :
    lastLoaded? (jobs ++ [job]) name
      = if job.name = name then job.loaded? else lastLoaded? jobs name := by
  by_cases hname : job.name = name
  · simp [lastLoaded?, List.filter_append, hname]
  · simp [lastLoaded?, List.filter_append, hname]

theorem foldl_keep_concat {job : Job α} {value : α} (hresult : job.result = .returned (.ok value))
    (jobs : List (Job α)) :
    (jobs ++ [job]).foldl Job.keep {} = (jobs.foldl Job.keep {}).insert job.name value := by
  rw [List.foldl_append, List.foldl_cons, List.foldl_nil, Job.keep, hresult]

section

variable {jobs : List (Job α)} (hfine : ∀ job ∈ jobs, ∃ value, job.result = .returned (.ok value))
include hfine

/-- **The last registration wins**: under each name is what the last job of that name loads. -/
theorem get?_foldl_keep (name : String) :
    (jobs.foldl Job.keep {}).get? name = lastLoaded? jobs name := by
  induction jobs using List.reverseRecOn with
  | nil => rfl
  | append_singleton jobs job ih =>
      have hrest := ih fun other hother => hfine other (by simp [hother])
      obtain ⟨value, hresult⟩ := hfine job (by simp)
      have hloaded : job.loaded? = some value := by rw [Job.loaded?, hresult]
      rw [foldl_keep_concat hresult, lastLoaded?_concat, hloaded]
      by_cases hname : job.name = name
      · rw [if_pos hname, hname, Resources.get?_insert_self]
      · rw [if_neg hname, Resources.get?_insert_of_ne _ (Ne.symm hname), hrest]

theorem isSome_lastLoaded?_iff (name : String) :
    (lastLoaded? jobs name).isSome = true ↔ ∃ job ∈ jobs, job.name = name := by
  induction jobs using List.reverseRecOn with
  | nil => simp [lastLoaded?]
  | append_singleton jobs job ih =>
      have hrest := ih fun other hother => hfine other (by simp [hother])
      obtain ⟨value, hresult⟩ := hfine job (by simp)
      have hloaded : job.loaded? = some value := by rw [Job.loaded?, hresult]
      rw [lastLoaded?_concat, hloaded]
      by_cases hname : job.name = name
      · simp [hname]
      · simp [hname, hrest]

theorem nodup_names_foldl_keep : (jobs.foldl Job.keep {}).names.Nodup := by
  induction jobs using List.reverseRecOn with
  | nil => exact List.nodup_nil
  | append_singleton jobs job ih =>
      obtain ⟨value, hresult⟩ := hfine job (by simp)
      rw [foldl_keep_concat hresult]
      exact Resources.nodup_names_insert (ih fun other hother => hfine other (by simp [hother])) _ _

theorem mem_names_foldl_keep (name : String) :
    name ∈ (jobs.foldl Job.keep {}).names ↔ name ∈ jobs.map Job.name := by
  rw [Resources.mem_names_iff, get?_foldl_keep hfine, isSome_lastLoaded?_iff hfine, List.mem_map]

/-- There are as many values as there are different names. -/
theorem size_foldl_keep :
    (jobs.foldl Job.keep {}).size = (jobs.map Job.name).toFinset.card := by
  have hsame : (jobs.foldl Job.keep {}).names.toFinset = (jobs.map Job.name).toFinset := by
    ext name
    rw [List.mem_toFinset, List.mem_toFinset, mem_names_foldl_keep hfine]
  rw [Resources.size_eq_length_names, ← hsame,
    List.toFinset_card_of_nodup (nodup_names_foldl_keep hfine)]

/-! ## The end of a run -/

/-- **A run without failures** hands over all that was kept. -/
theorem Reached.result?_of_ended {logged : Bool} {loader : Loader α}
    (h : Reached logged jobs loader) (hended : loader.ended = true) :
    loader.result? = some (some (jobs.foldl Job.keep {})) := by
  cases h with
  | collecting => cases hended
  | opened => cases hended
  | handedOver => rfl
  | gaveUp failed =>
      obtain ⟨job, hjob, hfailed⟩ := failed
      obtain ⟨value, hresult⟩ := hfine job hjob
      exact absurd (by rw [Job.failure?, hresult]) hfailed

end

/-- A fair run ends, and stays at its end. -/
theorem Fair.exists_ended_from {jobs : List (Job α)} {schedule : Nat → Turn}
    (h : Fair jobs schedule) (logged : Bool) :
    ∃ n, ∀ m, n ≤ m → ((ofJobs jobs).turns logged (first schedule m)).ended = true := by
  obtain ⟨n, hn⟩ := h.exists_ended logged
  refine ⟨n, fun m hm => ?_⟩
  obtain ⟨k, rfl⟩ := Nat.exists_eq_add_of_le hm
  rw [first_add, turns_append, turns_of_ended hn]
  exact hn

/-! ## Requests after a run -/

/-- What it means for resources to be those of jobs: one entry for each name, with the value that
the last registered job of that name has loaded. -/
structure KeepsLast (jobs : List (Job α)) (r : Resources α) : Prop where
  distinct : (r.entries.map Prod.fst).Nodup
  names : ∀ name, name ∈ r.entries.map Prod.fst ↔ ∃ job ∈ jobs, job.name = name
  value : ∀ name, r.get? name = lastLoaded? jobs name
  registered : ∀ name, (lastLoaded? jobs name).isSome = true ↔ ∃ job ∈ jobs, job.name = name

/-- What it means for requests to be served from the values that jobs have loaded. -/
structure Serves (jobs : List (Job α)) (r : Resources α) (requests : List Resources.Request) :
    Prop where
  /-- Under a name there is the loaded value, as long as it has not been taken. -/
  get : ∀ name, (r.serve requests).2.get? name
    = if .take name ∈ requests then none else lastLoaded? jobs name
  /-- So it was for every request when it was answered. -/
  answers : ∀ i, (r.serve requests).1[i]? = requests[i]?.map fun request =>
    (request, if .take request.name ∈ requests.take i then none
      else lastLoaded? jobs request.name)
  /-- No value is given away twice. -/
  once : ∀ name, (r.serve requests).1.countP
    (fun exchange => Resources.Request.TookOut exchange ∧ exchange.1.name = name) ≤ 1
  /-- Taking a value leaves all others where they are. -/
  others : ∀ name other, other ≠ name →
    ((r.serve requests).2.take name).2.get? other = (r.serve requests).2.get? other
  /-- There are as many values as different names, less the values taken out. -/
  size : (r.serve requests).2.size
      + (r.serve requests).1.countP (Resources.Request.TookOut ·)
    = (jobs.map Job.name).toFinset.card
  isEmpty : (r.serve requests).2.isEmpty = true ↔ (r.serve requests).2.size = 0

theorem serves_foldl_keep {jobs : List (Job α)}
    (hfine : ∀ job ∈ jobs, ∃ value, job.result = .returned (.ok value))
    (requests : List Resources.Request) : Serves jobs (jobs.foldl Job.keep {}) requests where
  get name := by rw [Resources.get?_serve, get?_foldl_keep hfine]
  answers i := by
    rw [Resources.getElem?_transcript]
    simp only [get?_foldl_keep hfine]
  once name := Nat.le_trans (Resources.count_tookOut_le _ requests name) Option.length_toList_le
  others name other hother := Resources.get?_take_of_ne _ hother
  size := by rw [Resources.size_serve (nodup_names_foldl_keep hfine), size_foldl_keep hfine]
  isEmpty := Resources.isEmpty_iff

/-- **What jobs without failures leave behind.** There are resources that every run hands over when
it ends, and a fair run does end, in whatever order the jobs do. They hold one value for each name,
that of the job registered last, and all later requests are served from these, each value being
taken out once at most. -/
theorem handed_over_serves (logged : Bool) (jobs : List (Job α))
    (hfine : ∀ job ∈ jobs, ∃ value, job.result = .returned (.ok value)) :
    ∃ r : Resources α,
      (start logged jobs).result? = some (some r) ∧
      (∀ schedule : List Turn, ((ofJobs jobs).turns logged schedule).ended = true →
        ((ofJobs jobs).turns logged schedule).result? = some (some r)) ∧
      (∀ schedule : Nat → Turn, Fair jobs schedule →
        ∃ n, ∀ m, n ≤ m →
          ((ofJobs jobs).turns logged (first schedule m)).result? = some (some r)) ∧
      KeepsLast jobs r ∧
      ∀ requests : List Resources.Request, Serves jobs r requests := by
  have hresult (schedule : List Turn)
      (hended : ((ofJobs jobs).turns logged schedule).ended = true) :
      ((ofJobs jobs).turns logged schedule).result? = some (some (jobs.foldl Job.keep {})) :=
    ((reached_ofJobs logged jobs).turns schedule).result?_of_ended hfine hended
  refine ⟨jobs.foldl Job.keep {}, hresult _ (ended_start logged jobs), hresult, ?_, ?_,
    serves_foldl_keep hfine⟩
  · intro schedule hfair
    obtain ⟨n, hn⟩ := hfair.exists_ended_from logged
    exact ⟨n, fun m hm => hresult _ (hn m hm)⟩
  · have hnames (name : String) := (mem_names_foldl_keep hfine name).trans List.mem_map
    exact ⟨nodup_names_foldl_keep hfine, hnames, get?_foldl_keep hfine,
      isSome_lastLoaded?_iff hfine⟩

/-- Two jobs of one name, of which the one registered first ends last. -/
def rivalJobs : List (Job Nat) :=
  [{ name := "lamp", steps := 2, result := .returned (.ok 1) },
    { name := "map", result := .returned (.ok 2) },
    { name := "lamp", result := .returned (.ok 3) }]

theorem rivalJobs_fine : ∀ job ∈ rivalJobs, ∃ value, job.result = .returned (.ok value) := by
  simp [rivalJobs]

/-- The collector has to wait for the first job, while the others have ended long ago. -/
def lateSchedule : List Turn :=
  [.collector, .job 0, .collector, .job 0] ++ List.replicate 5 .collector

theorem rivalJobs_serve :
    ((ofJobs rivalJobs).turns false lateSchedule).ended = true ∧
    Fair rivalJobs (fun n => (fullSchedule rivalJobs).getD n .collector) ∧
    ∃ r : Resources Nat,
      ((ofJobs rivalJobs).turns false lateSchedule).result? = some (some r) ∧
      (∃ n, ∀ m, n ≤ m → ((ofJobs rivalJobs).turns false
        (first (fun n => (fullSchedule rivalJobs).getD n .collector) m)).result?
          = some (some r)) ∧
      (r.serve [.get "lamp", .take "lamp", .take "lamp", .take "cave"]).1[1]?
        = some (.take "lamp", some 3) ∧
      (r.serve [.get "lamp", .take "lamp", .take "lamp", .take "cave"]).1[2]?
        = some (.take "lamp", none) ∧
      r.size = 2 := by
  have hended : ((ofJobs rivalJobs).turns false lateSchedule).ended = true := rfl
  have hfair := fair_fullSchedule rivalJobs
  obtain ⟨r, -, hturns, hruns, -, hserves⟩ := handed_over_serves false rivalJobs rivalJobs_fine
  refine ⟨hended, hfair, r, hturns _ hended, hruns _ hfair, ?_, ?_, (hserves []).size⟩
  · rw [(hserves _).answers]
    rfl
  · rw [(hserves _).answers]
    rfl

end Loader

end TextAdventure
