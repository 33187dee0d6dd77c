import TextAdventure.Play
import TextAdventure.Proofs.Loader.Schedule

/-!
# The gate seen from outside

Around a loader much can happen in any order: it is started or dropped, its jobs and its collector
get their turns, and waiters ask at the gate. `Scene` holds the loader together with what the
waiters have been told, and an event is one of these things. Looking at the gate changes nothing,
so a look can come at any moment of a scene.

What carries every statement here is that an answer of the gate is final (`Sound.answer?_run`). A
waiter was told what the gate answered at some moment, so it is what the gate answers ever after.
-/

namespace TextAdventure

variable {α : Type}

/-! ## Answers -/

theorem Gate.answer?_eq_some_true_iff {gate : Gate} :
    gate.answer? = some true ↔ gate.isReady = true := by
  cases hready : gate.isReady <;> cases hheld : gate.held <;> simp [answer?, hready, hheld]

theorem Gate.answer?_eq_some_false_iff {gate : Gate} :
    gate.answer? = some false ↔ gate.isReady = false ∧ gate.held = false := by
  cases hready : gate.isReady <;> cases hheld : gate.held <;> simp [answer?, hready, hheld]

theorem Gate.answer?_of_held_eq_false {gate : Gate} (h : gate.held = false) :
    gate.answer? = some gate.isReady := by
  cases hready : gate.isReady <;> simp [answer?, hready, h]

namespace Loader

variable {logged : Bool} {jobs : List (Job α)} {loader : Loader α}

theorem Reached.answer?_turn (h : Reached logged jobs loader) {answer : Bool}
    (hanswer : loader.gate.answer? = some answer) (turn : Turn) :
    (loader.turn logged turn).gate.answer? = some answer := by
  cases h with
  | collecting => cases hanswer
  | opened fine =>
      cases turn with
      | job index => rw [turn_job rfl, modify_jobs_opened, hanswer]
      | collector =>
          -- the loader lets go of a gate that is open
          rw [turn_collector rfl, collect_opened fine]
          exact hanswer
  | handedOver => rw [turn_of_ended rfl, hanswer]
  | gaveUp => rw [turn_of_ended rfl, hanswer]

/-- Behind an open gate every job has ended and none has failed. -/
theorem Reached.of_isReady (h : Reached logged jobs loader) (hready : loader.gate.isReady = true) :
    (∀ job ∈ jobs, job.failure? = none) ∧ loader.jobs = jobs.map Job.atEnd ∧
      (loader.turn logged .collector).result? = some (some (jobs.foldl Job.keep {})) := by
  cases h with
  | collecting => cases hready
  | opened fine =>
      refine ⟨fine, rfl, ?_⟩
      rw [turn_collector rfl, collect_opened fine]
      rfl
  | handedOver fine => exact ⟨fine, rfl, by rw [turn_of_ended rfl]; rfl⟩
  | gaveUp => cases hready

/-- A gate is let go of unopened because of a failure. -/
theorem Reached.exists_failure (h : Reached logged jobs loader)
    (hready : loader.gate.isReady = false) (hended : loader.ended = true) :
    ∃ job ∈ jobs, job.failure? ≠ none := by
  cases h with
  | collecting => cases hended
  | opened => cases hended
  | handedOver => cases hready
  | gaveUp failed => exact failed

theorem Reached.map_atEnd_jobs (h : Reached logged jobs loader) :
    loader.jobs.map Job.atEnd = jobs.map Job.atEnd := by
  have htwice : (jobs.map Job.atEnd).map Job.atEnd = jobs.map Job.atEnd := by
    rw [List.map_map]
    rfl
  cases h with
  | collecting same => exact same
  | opened => exact htwice
  | handedOver => exact htwice
  | gaveUp => exact htwice

end Loader

/-! ## Scenes -/

/-- What can happen around a loader. -/
inductive Event where
  | start
  | drop
  | turn (turn : Turn)
  | poll (waiter : Nat)
deriving DecidableEq, Repr

/-- A loader, whether it has been started, and what each waiter has been told. -/
structure Scene (α : Type) where
  loader : Loader α
  started : Bool := false
  told : Nat → Option Bool := fun _ => none

namespace Scene

def ofJobs (jobs : List (Job α)) : Scene α :=
  { loader := .ofJobs jobs }

/-- The scene after an event. A loader that was dropped cannot be started and one that was started
cannot be dropped; without a start nobody gets a turn. A waiter who asks keeps the first answer it
gets. -/
def next (logged : Bool) (s : Scene α) : Event → Scene α
  | .start => { s with started := s.started || !s.loader.ended }
  | .drop => if s.started then s else { s with loader := s.loader.abandon }
  | .turn turn => if s.started then { s with loader := s.loader.turn logged turn } else s
  | .poll waiter =>
    { s with
      told := fun other =>
        if other = waiter then s.told waiter <|> s.loader.gate.answer? else s.told other }

def run (logged : Bool) (s : Scene α) (events : List Event) : Scene α :=
  events.foldl (next logged) s

theorem run_append (logged : Bool) (s : Scene α) (a b : List Event) :
    s.run logged (a ++ b) = (s.run logged a).run logged b := by
  simp [run]

/-! ## What holds in every scene -/

/-- What can have become of a loader, started or not. -/
inductive Life (logged : Bool) (jobs : List (Job α)) : Bool → Loader α → Prop where
  | idle : Life logged jobs false (.ofJobs jobs)
  | dropped : Life logged jobs false (Loader.ofJobs jobs).abandon
  | running {loader : Loader α} (reached : loader.Reached logged jobs) :
      Life logged jobs true loader

/-- **The invariant of a scene**: the loader is in a stage of its life, and no waiter has been told
anything but what the gate answers. -/
structure Sound (logged : Bool) (jobs : List (Job α)) (s : Scene α) : Prop where
  life : Life logged jobs s.started s.loader
  told : ∀ (waiter : Nat) (answer : Bool), s.told waiter = some answer →
    s.loader.gate.answer? = some answer

section

variable {logged : Bool} {jobs : List (Job α)} {s : Scene α}

theorem sound_ofJobs (logged : Bool) (jobs : List (Job α)) :
    (ofJobs jobs).Sound logged jobs where
  life := .idle
  told := by
    intro waiter answer h
    cases h

/-- **One event**: an answer of the gate is final. -/
theorem Sound.answer?_next (h : s.Sound logged jobs) {answer : Bool}
    (hanswer : s.loader.gate.answer? = some answer) (event : Event) :
    (s.next logged event).loader.gate.answer? = some answer := by
  obtain ⟨loader, started, told⟩ := s
  cases event with
  | start => exact hanswer
  | poll waiter => exact hanswer
  | drop =>
      cases h.life with
      | idle => cases hanswer
      | dropped => exact hanswer
      | running => exact hanswer
  | turn turn =>
      cases h.life with
      | idle => cases hanswer
      | dropped => exact hanswer
      | running reached => exact reached.answer?_turn hanswer turn

theorem Sound.life_next (h : s.Sound logged jobs) (event : Event) :
    Life logged jobs (s.next logged event).started (s.next logged event).loader := by
  obtain ⟨loader, started, told⟩ := s
  cases event with
  | poll waiter => exact h.life
  | start =>
      cases h.life with
      | idle => exact .running (Loader.reached_ofJobs logged jobs)
      | dropped => exact .dropped
      | running reached => exact .running reached
  | drop =>
      cases h.life with
      | idle => exact .dropped
      | dropped => exact .dropped
      | running reached => exact .running reached
  | turn turn =>
      cases h.life with
      | idle => exact .idle
      | dropped => exact .dropped
      | running reached => exact .running (reached.turn turn)

theorem told_next_of_ne_poll {event : Event} (h : ∀ waiter, event ≠ .poll waiter) :
    (s.next logged event).told = s.told := by
  cases event with
  | start => rfl
  | drop => simp only [next]; split <;> rfl
  | turn turn => simp only [next]; split <;> rfl
  | poll waiter => exact absurd rfl (h waiter)

/-- **One event** keeps the invariant. -/
theorem Sound.next (h : s.Sound logged jobs) (event : Event) :
    (s.next logged event).Sound logged jobs := by
  refine ⟨h.life_next event, ?_⟩
  intro waiter answer htold
  by_cases hpoll : ∃ other, event = .poll other
  · obtain ⟨other, rfl⟩ := hpoll
    by_cases hwaiter : waiter = other
    · -- the one who asked either knew the answer before or has just got it
      subst hwaiter
      simp only [Scene.next, if_true] at htold ⊢
      cases hbefore : s.told waiter with
      | some before =>
          rw [hbefore] at htold
          cases htold
          exact h.told waiter answer hbefore
      | none =>
          rw [hbefore] at htold
          exact htold
    · simp only [Scene.next, hwaiter, if_false] at htold
      exact h.told waiter answer htold
  · rw [told_next_of_ne_poll fun other hother => hpoll ⟨other, hother⟩] at htold
    exact h.answer?_next (h.told waiter answer htold) event

/-- **Any events** keep the invariant. -/
theorem Sound.run (h : s.Sound logged jobs) (events : List Event) :
    (s.run logged events).Sound logged jobs := by
  induction events generalizing s with
  | nil => exact h
  | cons event events ih => exact ih (h.next event)

/-- An answer of the gate is final, whatever happens after it. -/
theorem Sound.answer?_run (h : s.Sound logged jobs) {answer : Bool}
    (hanswer : s.loader.gate.answer? = some answer) (events : List Event) :
    (s.run logged events).loader.gate.answer? = some answer := by
  induction events generalizing s with
  | nil => exact hanswer
  | cons event events ih => exact ih (h.next event) (h.answer?_next hanswer event)

/-! ## What follows from the invariant -/

theorem Sound.reached_of_isReady (h : s.Sound logged jobs)
    (hready : s.loader.gate.isReady = true) :
    s.started = true ∧ s.loader.Reached logged jobs := by
  obtain ⟨loader, started, told⟩ := s
  cases h.life with
  | idle => cases hready
  | dropped => cases hready
  | running reached => exact ⟨rfl, reached⟩

/-- Behind an open gate a loader that has ended has handed over something. -/
theorem Sound.result?_ne_some_none (h : s.Sound logged jobs)
    (hready : s.loader.gate.isReady = true) : s.loader.result? ≠ some none := by
  intro hresult
  obtain ⟨-, hreached⟩ := h.reached_of_isReady hready
  have hended : s.loader.ended = true := by
    cases hended : s.loader.ended with
    | true => rfl
    | false => rw [Loader.result?, hended] at hresult; cases hresult
  have hsome := (hreached.of_isReady hready).2.2
  rw [Loader.turn_of_ended hended, hresult] at hsome
  cases hsome

theorem Sound.dropped_or_failed (h : s.Sound logged jobs)
    (hready : s.loader.gate.isReady = false) (hended : s.loader.ended = true) :
    s.started = false ∨ ∃ job ∈ jobs, job.failure? ≠ none := by
  obtain ⟨loader, started, told⟩ := s
  cases h.life with
  | idle => cases hended
  | dropped => exact .inl rfl
  | running reached => exact .inr (reached.exists_failure hready hended)

theorem Sound.map_atEnd_jobs (h : s.Sound logged jobs) :
    s.loader.jobs.map Job.atEnd = jobs.map Job.atEnd := by
  obtain ⟨loader, started, told⟩ := s
  cases h.life with
  | idle => rfl
  | dropped => rfl
  | running reached => exact reached.map_atEnd_jobs

theorem Sound.told_poll (h : s.Sound logged jobs) {answer : Bool}
    (hanswer : s.loader.gate.answer? = some answer) (waiter : Nat) :
    (s.next logged (.poll waiter)).told waiter = some answer := by
  simp only [Scene.next, if_true]
  cases hbefore : s.told waiter with
  | some before =>
      have hsame := h.told waiter before hbefore
      rw [hanswer] at hsame
      exact hsame.symm
  | none => exact hanswer

end

/-! ## Safety -/

/-- What it means for the gate to be safe between two moments of a scene, of which the second is no
earlier than the first. -/
structure Safe (logged : Bool) (jobs : List (Job α)) (now later : Scene α) : Prop where
  /-- The jobs of the loader are those that were registered, as far as they have come. -/
  registered : now.loader.jobs.map Job.atEnd = jobs.map Job.atEnd
  /-- The gate is open only when every job has ended well. -/
  ready_after_jobs : now.loader.gate.isReady = true →
    (∀ job ∈ now.loader.jobs, job.ended = true) ∧ ∀ job ∈ jobs, job.failure? = none
  stays_ready : now.loader.gate.isReady = true → later.loader.gate.isReady = true
  /-- Who is told that the gate is open can count on the loader: it has handed over something, or
  does so in its next turn. -/
  told_true : ∀ waiter : Nat, now.told waiter = some true →
    ∃ resources, (later.next logged (.turn .collector)).loader.result? = some (some resources)
  /-- Who is told that the gate stays shut is told so because the loader was dropped, or ended with
  a failure; the gate is never opened after that. -/
  told_false : ∀ waiter : Nat, now.told waiter = some false →
    now.loader.ended = true ∧ (now.started = false ∨ ∃ job ∈ jobs, job.failure? ≠ none) ∧
      later.loader.gate.isReady = false
  /-- All waiters are told the same, early or late. -/
  told_same : ∀ (waiter other : Nat) (answer reply : Bool), now.told waiter = some answer →
    later.told other = some reply → answer = reply
  /-- Who asks after the end is told at once, and the same as all the others. -/
  told_late : now.loader.ended = true → ∀ waiter : Nat,
    (later.next logged (.poll waiter)).told waiter = some now.loader.gate.isReady

theorem Sound.safe {logged : Bool} {jobs : List (Job α)} {s : Scene α} (h : s.Sound logged jobs)
    (events : List Event) : Safe logged jobs s (s.run logged events) := by
  have hlater := h.run events
  refine ⟨h.map_atEnd_jobs, ?_, ?_, ?_, ?_, ?_, ?_⟩
  · intro hready
    obtain ⟨-, hreached⟩ := h.reached_of_isReady hready
    obtain ⟨hfine, hjobs, -⟩ := hreached.of_isReady hready
    refine ⟨?_, hfine⟩
    intro job hjob
    rw [hjobs] at hjob
    obtain ⟨registered, -, rfl⟩ := List.mem_map.mp hjob
    exact registered.ended_atEnd
  · intro hready
    exact Gate.answer?_eq_some_true_iff.mp
      (h.answer?_run (Gate.answer?_eq_some_true_iff.mpr hready) events)
  · intro waiter htold
    have hready := Gate.answer?_eq_some_true_iff.mp
      (h.answer?_run (h.told waiter true htold) events)
    obtain ⟨hstarted, hreached⟩ := hlater.reached_of_isReady hready
    refine ⟨jobs.foldl Job.keep {}, ?_⟩
    rw [Scene.next, if_pos hstarted]
    exact (hreached.of_isReady hready).2.2
  · intro waiter htold
    have hanswer := h.told waiter false htold
    obtain ⟨hready, hheld⟩ := Gate.answer?_eq_some_false_iff.mp hanswer
    have hended : s.loader.ended = true := by simp [Loader.ended, hheld]
    exact ⟨hended, h.dropped_or_failed hready hended,
      (Gate.answer?_eq_some_false_iff.mp (h.answer?_run hanswer events)).1⟩
  · intro waiter other answer reply htold hreply
    have hanswer := h.answer?_run (h.told waiter answer htold) events
    have hsame := hlater.told other reply hreply
    rw [hanswer] at hsame
    exact Option.some.inj hsame
  · intro hended waiter
    have hheld : s.loader.gate.held = false := by simpa [Loader.ended] using hended
    exact hlater.told_poll (h.answer?_run (Gate.answer?_of_held_eq_false hheld) events) waiter

end Scene

/-! ## The program behind the gate -/

namespace Play

/-- Everything the program has to load can be loaded. -/
def AssetsLoad (read : FileReader) (narrative : String) (options : Options) : Prop :=
  (∃ lines, loadLines read narrative = .ok lines) ∧
    ∀ path, options.settings = some path → ∃ settings, loadSettings read path = .ok settings

theorem assetsLoad_of_fine {read : FileReader} {narrative : String} {options : Options}
    (h : ∀ job ∈ jobs read narrative options, job.failure? = none) :
    AssetsLoad read narrative options := by
  obtain ⟨hnarrative, hsettings⟩ := List.forall_mem_cons.mp h
  constructor
  · cases hlines : loadLines read narrative with
    | ok lines => exact ⟨lines, rfl⟩
    | error error => simp [Job.failure?, hlines, Except.map] at hnarrative
  · intro path hpath
    simp only [hpath, List.forall_mem_cons] at hsettings
    cases hread : loadSettings read path with
    | ok settings => exact ⟨settings, rfl⟩
    | error error => simp [Job.failure?, hread, Except.map] at hsettings

/-- There is nothing to play with unless the gate is open. -/
theorem isReady_of_loaded? {loader : Loader Asset} {loaded : Resources Asset}
    (h : loaded? loader = some loaded) : loader.gate.isReady = true := by
  unfold loaded? awaited? at h
  split at h
  · cases h
  · cases h
  · rename_i hanswer
    exact Gate.answer?_eq_some_true_iff.mp hanswer

theorem assetsLoad_of_loaded? {read : FileReader} {narrative : String} {options : Options}
    {logged : Bool} {loader : Loader Asset}
    (hreached : loader.Reached logged (jobs read narrative options))
    {loaded : Resources Asset} (h : loaded? loader = some loaded) :
    AssetsLoad read narrative options :=
  assetsLoad_of_fine (hreached.of_isReady (isReady_of_loaded? h)).1

theorem loaded?_start_eq_none {read : FileReader} {narrative : String} {options : Options}
    (h : ¬ AssetsLoad read narrative options) :
    loaded? (Loader.start true (jobs read narrative options)) = none := by
  cases hloaded : loaded? (Loader.start true (jobs read narrative options)) with
  | none => rfl
  | some loaded =>
      exact absurd (assetsLoad_of_loaded? (Loader.reached_start true _) hloaded) h

end Play

/-- **Safety of the gate**, for any loader and any order of events around it. So the program has a
session only if everything it asked for was loaded, it never finds the gate open and nothing handed
over, and without a file it needs it shows the empty screen, whatever the keys. -/
theorem gate_safe :
    (∀ (α : Type) (logged : Bool) (jobs : List (Job α)) (before after : List Event),
      Scene.Safe logged jobs ((Scene.ofJobs jobs).run logged before)
        ((Scene.ofJobs jobs).run logged (before ++ after))) ∧
    (∀ (read : FileReader) (narrative : String) (options : Play.Options) (logged : Bool)
        (events : List Event),
      let s := (Scene.ofJobs (Play.jobs read narrative options)).run logged events
      ((Play.session? (Play.loaded? s.loader)).isSome = true →
        Play.AssetsLoad read narrative options) ∧
      ¬ (s.loader.gate.answer? = some true ∧ s.loader.result? = some none)) ∧
    ∀ (folder opened : Folder) (args : List String) (narrative : String)
        (options : Play.Options) (keys : List TerminalEvent),
      Play.prepare folder args = .ok (narrative, options, opened) →
      ¬ Play.AssetsLoad opened.read narrative options →
      Play.run folder args keys
        = Play.exitOf (Screen.run (Play.screen none keys) {}).1
            (Screen.run (Play.screen none keys) {}).2 := by
  refine ⟨?_, ?_, ?_⟩
  · intro α logged jobs before after
    rw [Scene.run_append]
    exact ((Scene.sound_ofJobs logged jobs).run before).safe after
  · intro read narrative options logged events s
    have hsound : s.Sound logged (Play.jobs read narrative options) :=
      (Scene.sound_ofJobs logged _).run events
    refine ⟨?_, ?_⟩
    · intro hsession
      rw [Play.session?, Option.isSome_map] at hsession
      obtain ⟨loaded, hloaded⟩ := Option.isSome_iff_exists.mp hsession
      obtain ⟨-, hreached⟩ := hsound.reached_of_isReady (Play.isReady_of_loaded? hloaded)
      exact Play.assetsLoad_of_loaded? hreached hloaded
    · rintro ⟨hanswer, hresult⟩
      exact hsound.result?_ne_some_none (Gate.answer?_eq_some_true_iff.mp hanswer) hresult
  · intro folder opened args narrative options keys hprepare hmissing
    simp only [Play.run, hprepare, Play.loaded?_start_eq_none hmissing]

/-- A job of two steps is loaded; one waiter asks before and one after. -/
def slowStart : List Event :=
  [.start, .poll 0, .turn (.job 0), .turn (.job 0), .turn .collector, .turn .collector, .poll 1]

theorem slowStart_gate_safe :
    let scene := (Scene.ofJobs (Loader.mixedJobs.take 1)).run true
    let events := [Event.start] ++ List.replicate 3 (.turn .collector)
    ((scene slowStart).told 0 = none ∧ (scene slowStart).told 1 = some true ∧
      ∃ resources, ((scene (slowStart ++ [.drop])).next true (.turn .collector)).loader.result?
        = some (some resources)) ∧
    ((scene [.drop, .poll 1]).told 1 = some false ∧
      (scene ([.drop, .poll 1] ++ slowStart)).loader.gate.isReady = false) ∧
    (Play.session? (Play.loaded? ((Scene.ofJobs (Play.jobs (fun _ => .ok "A room.") "story.txt"
      {})).run true events).loader)).isSome = true ∧
    Play.AssetsLoad (fun _ => .ok "A room.") "story.txt" {} := by
  intro scene events
  obtain ⟨hsafe, hplay, -⟩ := gate_safe
  have htrue : (scene slowStart).told 1 = some true := rfl
  have hfalse : (scene [.drop, .poll 1]).told 1 = some false := rfl
  have hsession : (Play.session? (Play.loaded? ((Scene.ofJobs (Play.jobs
      (fun _ => .ok "A room.") "story.txt" {})).run true events).loader)).isSome = true := rfl
  refine ⟨⟨rfl, htrue, ?_⟩, ⟨hfalse, ?_⟩, hsession, ?_⟩
  · exact (hsafe Nat true _ slowStart [.drop]).told_true 1 htrue
  · exact ((hsafe Nat true _ [.drop, .poll 1] slowStart).told_false 1 hfalse).2.2
  · exact (hplay _ "story.txt" {} true events).1 hsession

end TextAdventure
