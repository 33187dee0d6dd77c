import TextAdventure.Key

/-!
# Command lines in a row of keys

The enter key ends a command line, so a row of keys falls into the segments that an enter key
completed and the keys after the last one. `segments` cuts and `join` puts together again.

Lists may run along the keys, with one entry for each key: the results of pressing them, or the
keys themselves. `atEnter` picks the entries of the enter keys, and `without` leaves out the
entries of chosen segments, which are numbered from zero by the enter keys before them.
-/

namespace TextAdventure.Key

/-! ## Cutting at the enter keys -/

/-- The segments that an enter key completed, without that key, and the keys after the last
one. -/
def segments : List Key → List (List Key) × List Key
  | [] => ([], [])
  | key :: keys =>
      if key = .enter then ([] :: (segments keys).1, (segments keys).2)
      else
        match (segments keys).1 with
        | [] => ([], key :: (segments keys).2)
        | segment :: done => ((key :: segment) :: done, (segments keys).2)

/-- Completed segments, each with its enter key, and the keys after them. -/
def join (done : List (List Key)) (last : List Key) : List Key :=
  done.flatMap (fun segment => segment ++ [.enter]) ++ last

@[simp] theorem join_nil (last : List Key) : join [] last = last := rfl

theorem join_cons (segment : List Key) (done : List (List Key)) (last : List Key) :
    join (segment :: done) last = segment ++ .enter :: join done last := by
  simp [join]

/-- Cutting loses nothing. -/
theorem join_segments (keys : List Key) : join (segments keys).1 (segments keys).2 = keys := by
  induction keys with
  | nil => rfl
  | cons key keys ih =>
      by_cases hkey : key = .enter
      · simp [segments, hkey, join_cons, ih]
      · -- the key goes in front of the first segment, which may be the unfinished one
        cases hdone : (segments keys).1 with
        | nil =>
            rw [hdone, join_nil] at ih
            simp [segments, hkey, hdone, ih]
        | cons segment done =>
            rw [hdone, join_cons] at ih
            simp [segments, hkey, hdone, join_cons, ih]

/-- No segment holds an enter key. -/
theorem enter_notMem_segments (keys : List Key) :
    (∀ segment ∈ (segments keys).1, .enter ∉ segment) ∧ .enter ∉ (segments keys).2 := by
  induction keys with
  | nil => simp [segments]
  | cons key keys ih =>
      obtain ⟨hdone, hlast⟩ := ih
      by_cases hkey : key = .enter
      · simpa [segments, hkey] using And.intro hdone hlast
      · have hkey' : .enter ≠ key := Ne.symm hkey
        cases hsegments : (segments keys).1 with
        | nil => simp [segments, hkey, hkey', hsegments, hlast]
        | cons segment done =>
            rw [hsegments] at hdone
            simpa [segments, hkey, hkey', hsegments, hlast] using hdone

/-! ## Lists that run along the keys -/

variable {α : Type}

/-- The entries of the enter keys. -/
def atEnter (keys : List Key) (xs : List α) : List α :=
  ((keys.zip xs).filter fun x => x.1 = .enter).map Prod.snd

/-- The number of the segment that a place in the keys belongs to. -/
def segmentAt (keys : List Key) (place : Nat) : Nat :=
  (keys.take place).count .enter

/-- The entries outside of chosen segments. -/
def without (chosen : Nat → Bool) (keys : List Key) (xs : List α) : List α :=
  (xs.zipIdx.filter fun x => !chosen (segmentAt keys x.2)).map Prod.fst

theorem segmentAt_cons_succ (key : Key) (keys : List Key) (place : Nat) :
    segmentAt (key :: keys) (place + 1)
      = segmentAt keys place + if key = .enter then 1 else 0 := by
  by_cases hkey : key = .enter
  · simp [segmentAt, hkey]
  · simp [segmentAt, hkey]

/-- One key: its entry stays unless the first segment is chosen, and an enter key makes the next
segment the first. -/
theorem without_cons (chosen : Nat → Bool) (key : Key) (keys : List Key) (x : α) (xs : List α) :
    without chosen (key :: keys) (x :: xs)
      = (if chosen 0 then [] else [x])
        ++ without (fun i => chosen (i + if key = .enter then 1 else 0)) keys xs := by
  have hzero : segmentAt (key :: keys) 0 = 0 := rfl
  have hrest :
      ((List.zipIdx xs 1).filter fun x => !chosen (segmentAt (key :: keys) x.2)).map Prod.fst
        = without (fun i => chosen (i + if key = .enter then 1 else 0)) keys xs := by
    -- behind the first entry every place is one further on
    rw [without, show (1 : Nat) = 0 + 1 from rfl, List.zipIdx_succ, List.filter_map,
      List.map_map]
    simp only [Function.comp_def, segmentAt_cons_succ]
  cases hchosen : chosen 0 with
  | true => simp [without, hzero, hchosen, hrest]
  | false => simp [without, hzero, hchosen, hrest]

/-- With no segment chosen every entry stays. -/
theorem without_of_forall_eq_false {chosen : Nat → Bool} (h : ∀ i, chosen i = false)
    (keys : List Key) (xs : List α) : without chosen keys xs = xs := by
  rw [without, List.filter_eq_self.mpr (by simp [h]), List.zipIdx_map_fst]

/-- **One segment** and its enter key stay or go together. -/
theorem without_segment (chosen : Nat → Bool) {segment : List Key} (hsegment : .enter ∉ segment)
    {xs : List α} (hlength : xs.length = segment.length) (keys : List Key) (x : α)
    (ys : List α) :
    without chosen (segment ++ .enter :: keys) (xs ++ x :: ys)
      = (if chosen 0 then [] else xs ++ [x])
        ++ without (fun i => chosen (i + 1)) keys ys := by
  induction segment generalizing xs with
  | nil =>
      obtain rfl : xs = [] := List.eq_nil_of_length_eq_zero hlength
      simp [without_cons]
  | cons key segment ih =>
      cases xs with
      | nil => simp at hlength
      | cons y xs =>
          simp only [List.mem_cons, not_or] at hsegment
          obtain ⟨hkey, hsegment⟩ := hsegment
          have hlength' : xs.length = segment.length := by simpa using hlength
          rw [List.cons_append, List.cons_append, without_cons, if_neg (Ne.symm hkey)]
          simp only [Nat.add_zero]
          rw [ih hsegment hlength']
          cases chosen 0 <;> simp

theorem atEnter_cons_enter (keys : List Key) (x : α) (xs : List α) :
    atEnter (.enter :: keys) (x :: xs) = x :: atEnter keys xs := by
  simp [atEnter]

theorem atEnter_cons_of_ne {key : Key} (hkey : key ≠ .enter) (keys : List Key) (x : α)
    (xs : List α) : atEnter (key :: keys) (x :: xs) = atEnter keys xs := by
  simp [atEnter, hkey]

/-- Keys without an enter key have no entry picked. -/
theorem atEnter_eq_nil {keys : List Key} (hkeys : .enter ∉ keys) (xs : List α) :
    atEnter keys xs = [] := by
  simp only [atEnter, List.map_eq_nil_iff, List.filter_eq_nil_iff]
  intro x hx
  have hmem : x.1 ∈ keys := (List.of_mem_zip hx).1
  have hne : x.1 ≠ .enter := fun h => hkeys (h ▸ hmem)
  simpa using hne

theorem atEnter_segment {segment : List Key} (hsegment : .enter ∉ segment) {xs : List α}
    (hlength : xs.length = segment.length) (keys : List Key) (x : α) (ys : List α) :
    atEnter (segment ++ .enter :: keys) (xs ++ x :: ys) = x :: atEnter keys ys := by
  have hnil := atEnter_eq_nil hsegment xs
  simp only [atEnter] at hnil
  rw [atEnter, List.zip_append hlength.symm, List.filter_append, List.map_append, hnil]
  simp [atEnter]

end TextAdventure.Key
