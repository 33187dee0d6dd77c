/-!
# Flags and their values

Arguments come in pairs of a flag and its value. Any arguments are pairs with known flags from end
to end, or such pairs up to an argument that is no known flag with a value behind it
(`paired_or_strays`). Taking them one pair at a time accepts the first and refuses the second,
naming that argument (`honours_readPairs`), whatever the flags are and whatever a pair does. Of the
values of one flag the last counts, so pairs with different flags may change places.
-/

namespace TextAdventure.Arguments

/-! ## Pairs -/

/-- A flag and its value. -/
abbrev Pair := String × String

/-- The arguments that give some pairs. -/
def spelled (pairs : List Pair) : List String :=
  pairs.flatMap fun pair => [pair.1, pair.2]

/-- Pairs whose flags are all among some flags. -/
def Known (flags : List String) (pairs : List Pair) : Prop :=
  ∀ pair ∈ pairs, pair.1 ∈ flags

instance (flags : List String) (pairs : List Pair) : Decidable (Known flags pairs) :=
  inferInstanceAs (Decidable (∀ pair ∈ pairs, pair.1 ∈ flags))

/-- Arguments that are pairs with known flags from end to end. -/
def Paired (flags args : List String) : Prop :=
  ∃ pairs, Known flags pairs ∧ args = spelled pairs

/-- Arguments that are such pairs up to one that is no known flag with a value behind it. -/
def StraysAt (flags args : List String) (argument : String) : Prop :=
  ∃ pairs behind, Known flags pairs ∧ args = spelled pairs ++ argument :: behind ∧
    ¬ (argument ∈ flags ∧ behind ≠ [])

/-- The last value of a flag. -/
def last? (flag : String) (pairs : List Pair) : Option String :=
  (pairs.filter fun pair => pair.1 == flag).getLast?.map Prod.snd

@[simp] theorem spelled_nil : spelled [] = [] := rfl

@[simp] theorem spelled_cons (pair : Pair) (pairs : List Pair) :
    spelled (pair :: pairs) = pair.1 :: pair.2 :: spelled pairs := rfl

theorem known_cons {flags : List String} {pair : Pair} {pairs : List Pair} :
    Known flags (pair :: pairs) ↔ pair.1 ∈ flags ∧ Known flags pairs :=
  List.forall_mem_cons

theorem known_concat {flags : List String} {pair : Pair} {pairs : List Pair} :
    Known flags (pairs ++ [pair]) ↔ Known flags pairs ∧ pair.1 ∈ flags := by
  simp only [Known, List.forall_mem_append, List.forall_mem_singleton]

/-- Pairs that other pairs are spelled to start with are the first of them. -/
theorem exists_append_of_spelled_eq {pairs before : List Pair} {behind : List String}
    (h : spelled pairs = spelled before ++ behind) : ∃ after, pairs = before ++ after := by
  induction before generalizing pairs with
  | nil => exact ⟨pairs, rfl⟩
  | cons pair before ih =>
      cases pairs with
      | nil => simp at h
      | cons other pairs =>
          simp only [spelled_cons, List.cons_append, List.cons.injEq] at h
          obtain ⟨hflag, hvalue, hlater⟩ := h
          obtain ⟨after, rfl⟩ := ih hlater
          exact ⟨after, by rw [Prod.ext hflag hvalue, List.cons_append]⟩

theorem paired_or_strays (flags : List String) :
    ∀ args, Paired flags args ∨ ∃ argument, StraysAt flags args argument
  | [] => .inl ⟨[], by simp [Known], rfl⟩
  | [argument] => .inr ⟨argument, [], [], by simp [Known], rfl, by simp⟩
  | flag :: value :: rest => by
      by_cases hflag : flag ∈ flags
      · rcases paired_or_strays flags rest with ⟨pairs, hknown, rfl⟩ |
          ⟨argument, pairs, behind, hknown, rfl, hstray⟩
        · left
          exact ⟨(flag, value) :: pairs, known_cons.mpr ⟨hflag, hknown⟩, rfl⟩
        · right
          exact ⟨argument, (flag, value) :: pairs, behind, known_cons.mpr ⟨hflag, hknown⟩, rfl,
            hstray⟩
      · right
        exact ⟨flag, [], value :: rest, by simp [Known], rfl, fun h => hflag h.1⟩

theorem last?_concat (flag : String) (pairs : List Pair) (pair : Pair) :
    last? flag (pairs ++ [pair]) = if pair.1 = flag then some pair.2 else last? flag pairs := by
  by_cases h : pair.1 = flag <;> simp [last?, List.filter_append, h]

/-- The same pairs in another order, in which the pairs with any one flag follow each other as
before. -/
def Reordered (pairs pairs' : List Pair) : Prop :=
  ∀ flag, (pairs.filter fun pair => pair.1 == flag) = pairs'.filter fun pair => pair.1 == flag

theorem Reordered.last?_eq {pairs pairs' : List Pair} (h : Reordered pairs pairs')
    (flag : String) : last? flag pairs = last? flag pairs' := by
  rw [last?, last?, h flag]

theorem Reordered.mem {pairs pairs' : List Pair} (h : Reordered pairs pairs') {pair : Pair}
    (hpair : pair ∈ pairs') : pair ∈ pairs := by
  have hmem : pair ∈ pairs'.filter fun other => other.1 == pair.1 :=
    List.mem_filter.mpr ⟨hpair, by simp⟩
  rw [← h pair.1] at hmem
  exact (List.mem_filter.mp hmem).1

theorem Reordered.known {pairs pairs' : List Pair} (h : Reordered pairs pairs')
    {flags : List String} (hknown : Known flags pairs) : Known flags pairs' :=
  fun pair hpair => hknown pair (h.mem hpair)

/-! ## Taking pairs -/

section Taking

variable {σ ε : Type}

/-- Takes known flags with their values one after another. -/
def readPairs (flags : List String) (take : σ → Pair → Except ε σ) (unknown : String → ε)
    (options : σ) : List String → Except ε σ
  | [] => .ok options
  | [argument] => .error (unknown argument)
  | flag :: value :: rest =>
    if flag ∈ flags then
      (take options (flag, value)).bind fun options => readPairs flags take unknown options rest
    else .error (unknown flag)

variable {flags : List String} {take : σ → Pair → Except ε σ} {unknown : String → ε}

theorem readPairs_spelled {pairs : List Pair} (hknown : Known flags pairs) (behind : List String)
    (options : σ) :
    readPairs flags take unknown options (spelled pairs ++ behind)
      = (pairs.foldlM take options).bind fun options =>
          readPairs flags take unknown options behind := by
  induction pairs generalizing options with
  | nil => rfl
  | cons pair pairs ih =>
      obtain ⟨hflag, hlater⟩ := known_cons.mp hknown
      rw [spelled_cons, List.cons_append, List.cons_append, readPairs, if_pos hflag,
        List.foldlM_cons]
      cases take options pair with
      | error e => rfl
      | ok options => exact ih hlater options

theorem readPairs_stray {argument : String} {behind : List String}
    (hstray : ¬ (argument ∈ flags ∧ behind ≠ [])) (options : σ) :
    readPairs flags take unknown options (argument :: behind) = .error (unknown argument) := by
  cases behind with
  | nil => rfl
  | cons value rest =>
      have hflag : argument ∉ flags := fun h => hstray ⟨h, by simp⟩
      rw [readPairs, if_neg hflag]

/-- What a program makes of the arguments behind its file, when nothing but their form is in the
way. -/
structure Honours (flags rest : List String) (Accepted : Prop) (Used : List Pair → Prop)
    (Named : String → Prop) : Prop where
  accepted_iff : Accepted ↔ Paired flags rest
  used : ∀ pairs, Known flags pairs → rest = spelled pairs → Used pairs
  strays : ¬ Paired flags rest → ∃ argument, StraysAt flags rest argument
  named : ∀ argument, StraysAt flags rest argument → Named argument

/-- **Arguments are accepted exactly if they are pairs**, provided that no pair met on the way is
refused by itself. -/
theorem honours_readPairs (take : σ → Pair → Except ε σ) (unknown : String → ε) (options : σ)
    {rest : List String}
    (htake : ∀ pairs behind, Known flags pairs → rest = spelled pairs ++ behind →
      ∃ options', pairs.foldlM take options = .ok options') :
    Honours flags rest (∃ options', readPairs flags take unknown options rest = .ok options')
      (fun pairs => ∃ options', pairs.foldlM take options = .ok options' ∧
        readPairs flags take unknown options rest = .ok options')
      (fun argument => readPairs flags take unknown options rest = .error (unknown argument)) := by
  have hused : ∀ pairs, Known flags pairs → rest = spelled pairs →
      ∃ options', pairs.foldlM take options = .ok options' ∧
        readPairs flags take unknown options rest = .ok options' := by
    intro pairs hknown hrest
    have hrest' : rest = spelled pairs ++ [] := by rw [hrest, List.append_nil]
    obtain ⟨options', htaken⟩ := htake pairs [] hknown hrest'
    refine ⟨options', htaken, ?_⟩
    rw [hrest', readPairs_spelled hknown, htaken]
    rfl
  have hnamed : ∀ argument, StraysAt flags rest argument →
      readPairs flags take unknown options rest = .error (unknown argument) := by
    rintro argument ⟨pairs, behind, hknown, hrest, hstray⟩
    obtain ⟨options', htaken⟩ := htake pairs (argument :: behind) hknown hrest
    rw [hrest, readPairs_spelled hknown, htaken]
    exact readPairs_stray hstray options'
  refine ⟨⟨?_, ?_⟩, hused, (paired_or_strays flags rest).resolve_left, hnamed⟩
  · rintro ⟨options', hok⟩
    rcases paired_or_strays flags rest with hpaired | ⟨argument, hstrays⟩
    · exact hpaired
    · rw [hnamed argument hstrays] at hok
      cases hok
  · rintro ⟨pairs, hknown, hrest⟩
    obtain ⟨options', -, hok⟩ := hused pairs hknown hrest
    exact ⟨options', hok⟩

theorem Honours.imp {rest : List String} {A A' : Prop} {U U' : List Pair → Prop}
    {N N' : String → Prop} (h : Honours flags rest A U N) (haccepted : A' ↔ A)
    (hused : ∀ pairs, Known flags pairs → rest = spelled pairs → U pairs → U' pairs)
    (hnamed : ∀ argument, N argument → N' argument) : Honours flags rest A' U' N' where
  accepted_iff := haccepted.trans h.accepted_iff
  used pairs hknown hrest := hused pairs hknown hrest (h.used pairs hknown hrest)
  strays := h.strays
  named argument hstrays := hnamed argument (h.named argument hstrays)

end Taking

end TextAdventure.Arguments
