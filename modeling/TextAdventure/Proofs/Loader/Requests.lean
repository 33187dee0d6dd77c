import Mathlib.Data.List.Nodup
import TextAdventure.Resources

/-!
# Requests to loaded resources

Resources are asked for values, one request after another: to show a value, or to take it out. A
request changes nothing but what it takes out, so what is found under a name at any later moment is
what was found there at first, until the first request that takes it (`get?_serve`); each request
can be answered from the requests before it alone (`getElem?_transcript`). Since no name stands
twice, the number of values goes down by one with each value taken out (`size_serve`).
-/

namespace TextAdventure.Resources

variable {α : Type}

/-! ## Names -/

/-- The names under which something is kept. -/
def names (r : Resources α) : List String :=
  r.entries.map Prod.fst

theorem mem_names_iff {r : Resources α} {name : String} :
    name ∈ r.names ↔ (r.get? name).isSome = true := by
  simp [names, get?]

theorem names_filter (entries : List (String × α)) (name : String) :
    (entries.filter fun entry => entry.1 != name).map Prod.fst
      = (entries.map Prod.fst).filter (· != name) := by
  rw [List.filter_map]
  rfl

theorem names_insert (r : Resources α) (name : String) (value : α) :
    (r.insert name value).names = name :: r.names.filter (· != name) := by
  rw [names, insert, List.map_cons, names_filter, names]

theorem names_take (r : Resources α) (name : String) :
    (r.take name).2.names = r.names.filter (· != name) :=
  names_filter r.entries name

theorem nodup_names_insert {r : Resources α} (h : r.names.Nodup) (name : String) (value : α) :
    (r.insert name value).names.Nodup := by
  rw [names_insert]
  exact List.nodup_cons.mpr ⟨by simp, h.filter _⟩

theorem nodup_names_take {r : Resources α} (h : r.names.Nodup) (name : String) :
    (r.take name).2.names.Nodup := by
  rw [names_take]
  exact h.filter _

theorem size_eq_length_names (r : Resources α) : r.size = r.names.length := by
  simp [size, names]

/-- A value taken out is one value less. -/
theorem size_take {r : Resources α} (h : r.names.Nodup) (name : String) :
    (r.take name).2.size + (r.take name).1.toList.length = r.size := by
  rw [size_eq_length_names, size_eq_length_names, names_take, ← h.erase_eq_filter]
  by_cases hname : name ∈ r.names
  · obtain ⟨value, hvalue⟩ := Option.isSome_iff_exists.mp (mem_names_iff.mp hname)
    have hpos : 0 < r.names.length := List.length_pos_of_mem hname
    have htaken : (r.take name).1.toList = [value] := by simp [take, hvalue]
    rw [List.length_erase_of_mem hname, htaken, List.length_singleton]
    omega
  · have hnone : r.get? name = none := by
      rwa [mem_names_iff, Option.not_isSome_iff_eq_none] at hname
    simp [List.erase_of_not_mem hname, take, hnone]

/-! ## Requests -/

/-- What can be asked of resources: to show the value under a name, or to take it out. -/
inductive Request where
  | get (name : String)
  | take (name : String)
deriving DecidableEq, Repr

/-- The name that a request is about. -/
def Request.name : Request → String
  | .get name => name
  | .take name => name

/-- Whether a request with its answer has taken a value out. -/
def Request.TookOut (exchange : Request × Option α) : Prop :=
  exchange.1 = .take exchange.1.name ∧ exchange.2.isSome = true

instance (exchange : Request × Option α) : Decidable (Request.TookOut exchange) :=
  inferInstanceAs (Decidable (_ ∧ _))

/-- The answer to a request, and what is kept after it. -/
def answer (r : Resources α) : Request → Option α × Resources α
  | .get name => (r.get? name, r)
  | .take name => r.take name

/-- Requests one after another: each with its answer, and what is kept after them. -/
def serve (r : Resources α) : List Request → List (Request × Option α) × Resources α
  | [] => ([], r)
  | request :: requests =>
      let (value, r) := r.answer request
      let (transcript, r) := r.serve requests
      ((request, value) :: transcript, r)

theorem fst_answer (r : Resources α) (request : Request) :
    (r.answer request).1 = r.get? request.name := by
  cases request <;> rfl

/-! ## One request -/

/-- **One request** leaves everything where it is, except for what it takes out. -/
theorem get?_answer (r : Resources α) (request : Request) (name : String) :
    (r.answer request).2.get? name = if request = .take name then none else r.get? name := by
  cases request with
  | get other => simp [answer]
  | take other =>
      by_cases hname : other = name
      · subst hname
        simp [answer, get?_take_self]
      · simp [answer, hname, get?_take_of_ne r (Ne.symm hname)]

theorem nodup_names_answer {r : Resources α} (h : r.names.Nodup) (request : Request) :
    (r.answer request).2.names.Nodup := by
  cases request with
  | get name => exact h
  | take name => exact nodup_names_take h name

theorem size_answer {r : Resources α} (h : r.names.Nodup) (request : Request) :
    (r.answer request).2.size
        + (if Request.TookOut (request, (r.answer request).1) then 1 else 0) = r.size := by
  cases request with
  | get name => simp [answer, Request.TookOut]
  | take name =>
      have hsize := size_take h name
      simp only [answer, Request.TookOut, Request.name, true_and]
      cases hvalue : (r.take name).1 with
      | none => simpa [hvalue] using hsize
      | some value => simpa [hvalue] using hsize

/-! ## Many requests -/

/-- **Under a name** there is what was there at first, until it is taken. -/
theorem get?_serve (r : Resources α) (requests : List Request) (name : String) :
    (r.serve requests).2.get? name
      = if .take name ∈ requests then none else r.get? name := by
  induction requests generalizing r with
  | nil => simp [serve]
  | cons request requests ih =>
      simp only [serve, ih, get?_answer, List.mem_cons]
      by_cases hlater : Request.take name ∈ requests
      · simp [hlater]
      · simp [hlater, eq_comm]

/-- **Each request** is answered with what was there at first, unless that has been taken. -/
theorem getElem?_transcript (r : Resources α) (requests : List Request) (i : Nat) :
    (r.serve requests).1[i]? = requests[i]?.map fun request =>
      (request, if .take request.name ∈ requests.take i then none else r.get? request.name) := by
  induction requests generalizing r i with
  | nil => rfl
  | cons first requests ih =>
      cases i with
      | zero => simp [serve, fst_answer]
      | succ i =>
          -- what the first request took out is missing for all that follow
          simp only [serve, List.getElem?_cons_succ, ih, get?_answer, List.take_succ_cons,
            List.mem_cons]
          cases requests[i]? with
          | none => rfl
          | some request =>
              by_cases hearlier : Request.take request.name ∈ requests.take i
              · simp [hearlier]
              · simp [hearlier, eq_comm]

/-- **The number of values** goes down by the values taken out. -/
theorem size_serve {r : Resources α} (h : r.names.Nodup) (requests : List Request) :
    (r.serve requests).2.size + (r.serve requests).1.countP (Request.TookOut ·) = r.size := by
  induction requests generalizing r with
  | nil => rfl
  | cons request requests ih =>
      have hrest := ih (nodup_names_answer h request)
      have hfirst := size_answer h request
      simp only [serve, List.countP_cons, decide_eq_true_eq]
      omega

/-- A value is taken out once, if it is there, and never again. -/
theorem count_tookOut_le (r : Resources α) (requests : List Request) (name : String) :
    (r.serve requests).1.countP (fun exchange =>
        Request.TookOut exchange ∧ exchange.1.name = name) ≤ (r.get? name).toList.length := by
  induction requests generalizing r with
  | nil => simp [serve]
  | cons request requests ih =>
      have hrest := ih (r.answer request).2
      rw [get?_answer] at hrest
      simp only [serve, List.countP_cons]
      by_cases htake : request = .take name
      · -- the value goes with this request, so none is left for those behind it
        rw [if_pos htake] at hrest
        subst htake
        cases hvalue : r.get? name with
        | none => simpa [Request.TookOut, fst_answer, Request.name, hvalue] using hrest
        | some value => simpa [Request.TookOut, fst_answer, Request.name, hvalue] using hrest
      · rw [if_neg htake] at hrest
        have hother : ¬ (Request.TookOut (request, (r.answer request).1) ∧
            request.name = name) := by
          rintro ⟨⟨hrequest, -⟩, rfl⟩
          exact htake hrequest
        simpa [hother] using hrest

theorem isEmpty_iff {r : Resources α} : r.isEmpty = true ↔ r.size = 0 := by
  simp [isEmpty, size]

end TextAdventure.Resources
