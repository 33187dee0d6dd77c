import TextAdventure.Proofs.Session.Run

/-!
# Failed commands

A command that fails leaves no trace: without the segments of some failed commands, a row of
keys leads to the same session, and every key that is left reports what it reported before.

The proof goes segment by segment. Between two segments the session shows its latest reply behind
a bare prompt, and a failed exchange has no reply, so after it the session is the one it was
before the segment.
-/

namespace TextAdventure

variable {σ : Type}

/-- An exchange that reports an error had no reply. -/
theorem Exchange.reply?_eq_none_of_result_error {x : Exchange σ} {e : CallError}
    (h : x.result = .error e) : x.reply? = none := by
  cases hanswer : x.answer with
  | ok reply => simp [result, hanswer] at h
  | error reason => simp [reply?, hanswer, Except.toOption]

namespace Session

/-- **Leaving out failed segments**, from any session between two segments on. -/
theorem pressAll_showing_without (settings : Settings) (engine : Engine σ) (reply : Reply σ)
    {done : List (List Key)} {last : List Key} (hdone : ∀ segment ∈ done, .enter ∉ segment)
    (hlast : .enter ∉ last) (chosen : Nat → Bool)
    (hfailed : ∀ i, chosen i = true → ∃ e, (Key.atEnter (Key.join done last)
      ((showing settings engine reply []).pressAll (Key.join done last)).1)[i]?
        = some (.error e)) :
    (showing settings engine reply []).pressAll
        (Key.without chosen (Key.join done last) (Key.join done last))
      = (Key.without chosen (Key.join done last)
            ((showing settings engine reply []).pressAll (Key.join done last)).1,
          ((showing settings engine reply []).pressAll (Key.join done last)).2) := by
  induction done generalizing reply chosen with
  | nil =>
      -- no enter key, so nothing can be chosen
      have hnone : ∀ i, chosen i = false := by
        intro i
        cases hi : chosen i with
        | false => rfl
        | true =>
            obtain ⟨e, he⟩ := hfailed i hi
            rw [Key.join_nil, Key.atEnter_eq_nil hlast] at he
            cases he
      rw [Key.without_of_forall_eq_false hnone, Key.without_of_forall_eq_false hnone]
  | cons segment done ih =>
      have hsegment : .enter ∉ segment := hdone segment (by simp)
      have hrest : ∀ s ∈ done, .enter ∉ s := fun s hs => hdone s (by simp [hs])
      have hlength : (List.replicate segment.length
          (Except.ok false : Except CallError Bool)).length = segment.length :=
        List.length_replicate
      rw [Key.join_cons, pressAll_segment _ _ _ hsegment] at hfailed ⊢
      rw [Key.atEnter_segment hsegment hlength] at hfailed
      rw [Key.without_segment _ hsegment rfl, Key.without_segment _ hsegment hlength]
      have ih' := ih ((engine.exchange reply (Key.typed segment)).reply?.getD reply) hrest
        (fun i => chosen (i + 1)) (fun i hi => by simpa using hfailed (i + 1) hi)
      cases hchosen : chosen 0 with
      | false =>
          simp only [Bool.false_eq_true, if_false, List.append_assoc, List.cons_append,
            List.nil_append]
          rw [pressAll_segment _ _ _ hsegment, ih']
      | true =>
          -- the failed segment ends in the session it started from
          obtain ⟨e, he⟩ := hfailed 0 hchosen
          rw [List.getElem?_cons_zero, Option.some.injEq] at he
          rw [Exchange.reply?_eq_none_of_result_error he, Option.getD_none] at ih' ⊢
          simpa using ih'

/-- **Failed commands leave no trace**: without any segments whose enter keys reported errors, the
session ends up the same, and every key that is left reports the same. -/
theorem pressAll_without_failed (settings : Settings) (engine : Engine σ) {s : Session σ}
    (hbegin : begin settings engine = .ok s) (keys : List Key) (chosen : Nat → Bool)
    (hfailed : ∀ i, chosen i = true →
      ∃ e, (Key.atEnter keys (s.pressAll keys).1)[i]? = some (.error e)) :
    s.pressAll (Key.without chosen keys keys)
      = (Key.without chosen keys (s.pressAll keys).1, (s.pressAll keys).2) := by
  cases hstart : engine.start with
  | error reason => simp [begin, Story.start, hstart] at hbegin
  | ok opening =>
      rw [begin_eq_showing settings engine hstart, Except.ok.injEq] at hbegin
      subst hbegin
      obtain ⟨hdone, hlast⟩ := Key.enter_notMem_segments keys
      have h := pressAll_showing_without settings engine opening hdone hlast chosen
      rw [Key.join_segments] at h
      exact h hfailed

/-- Three commands, of which the first and the last crash, and a line not yet finished. -/
def crashingKeys : List Key :=
  Key.join ["crash".toList.map .char, [.char 'Y'], "go crash".toList.map .char]
    [.char 'x', .backspace, .char 'z']

/-- Both crashed commands are left out. -/
theorem countingEngine_without_failed :
    ∃ s, begin {} countingEngine = .ok s ∧
      (∀ i : Nat, (i == 0 || i == 2) = true →
        ∃ e, (Key.atEnter crashingKeys (s.pressAll crashingKeys).1)[i]? = some (.error e)) ∧
      s.pressAll (Key.without (fun i => i == 0 || i == 2) crashingKeys crashingKeys)
        = (Key.without (fun i => i == 0 || i == 2) crashingKeys (s.pressAll crashingKeys).1,
            (s.pressAll crashingKeys).2) := by
  have hbegin := begin_eq_showing {} countingEngine rfl
  have hfailed : ∀ i : Nat, (i == 0 || i == 2) = true →
      ∃ e, (Key.atEnter crashingKeys ((showing {} countingEngine ⟨"A cellar.", 0⟩ []).pressAll
        crashingKeys).1)[i]? = some (.error e) := by
    intro i hi
    have hi' : i = 0 ∨ i = 2 := by simpa using hi
    rcases hi' with rfl | rfl
    · exact ⟨⟨.query "MISC" "crash", "MISC cannot handle crash"⟩, by rfl⟩
    · exact ⟨⟨.query "GO" "crash", "GO cannot handle crash"⟩, by rfl⟩
  exact ⟨_, hbegin, hfailed, pressAll_without_failed {} countingEngine hbegin _ _ hfailed⟩

end Session

end TextAdventure
