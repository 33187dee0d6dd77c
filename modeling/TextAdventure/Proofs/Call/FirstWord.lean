import TextAdventure.Call

/-!
# The first word of a command

Which call a command makes is decided by its first word, which is missing, a verb of the table or
any other word. `firstWord` tells these apart, and there is one lemma on the call for each of them,
so that later proofs do not look at the table again.
-/

namespace TextAdventure

/-- A word of a command, counted from zero. A word that is missing is empty. -/
def Call.word (command : List String) (n : Nat) : String :=
  command.getD n ""

theorem Verb.ofWord?_word (verb : Verb) : ofWord? verb.word = some verb := by
  cases verb <;> rfl

theorem Verb.ofWord?_eq_none {word : String} (h : ∀ verb : Verb, word ≠ verb.word) :
    ofWord? word = none := by
  rw [ofWord?, List.find?_eq_none]
  intro verb _
  simpa using (h verb).symm

/-- A command is blank, starts with a verb, or starts with a word that is none. -/
inductive FirstWord (command : List String) : Prop where
  | blank (h : Call.word command 0 = "")
  | verb (verb : Verb) (h : Call.word command 0 = verb.word)
  | unknown (hword : Call.word command 0 ≠ "") (h : ∀ verb : Verb, Call.word command 0 ≠ verb.word)

theorem firstWord (command : List String) : FirstWord command := by
  by_cases hblank : Call.word command 0 = ""
  · exact .blank hblank
  · by_cases hverb : ∃ verb : Verb, Call.word command 0 = verb.word
    · obtain ⟨verb, hverb⟩ := hverb
      exact .verb verb hverb
    · exact .unknown hblank fun verb h => hverb ⟨verb, h⟩

namespace Call

variable {command : List String}

theorem ofTokens_eq (command : List String) :
    ofTokens command =
      if word command 0 = "" then .describeRoom
      else
        match Verb.ofWord? (word command 0) with
        | none => .query "MISC" (word command 0)
        | some verb =>
          match verb.queryName? with
          | none => .inventory
          | some name =>
            if verb = .help then .query name "help"
            else .query name (word command verb.objectIndex) := by
  have hhead : command.headD "" = word command 0 := by cases command <;> rfl
  by_cases hblank : word command 0 = ""
  · rw [if_pos hblank, ofTokens, hhead, hblank]
    rfl
  · have hword : (word command 0).isEmpty = false := by simpa using hblank
    rw [if_neg hblank, ofTokens, hhead, hword]
    rfl

theorem ofTokens_of_blank (h : word command 0 = "") : ofTokens command = .describeRoom := by
  rw [ofTokens_eq, if_pos h]

theorem ofTokens_of_verb {verb : Verb} (h : word command 0 = verb.word) :
    ofTokens command =
      match verb.queryName? with
      | none => .inventory
      | some name =>
        if verb = .help then .query name "help"
        else .query name (word command verb.objectIndex) := by
  have hword : verb.word ≠ "" := by cases verb <;> decide
  rw [ofTokens_eq, h, if_neg hword, Verb.ofWord?_word]

theorem ofTokens_of_unknown (hword : word command 0 ≠ "")
    (h : ∀ verb : Verb, word command 0 ≠ verb.word) :
    ofTokens command = .query "MISC" (word command 0) := by
  rw [ofTokens_eq, if_neg hword, Verb.ofWord?_eq_none h]

end Call

end TextAdventure
