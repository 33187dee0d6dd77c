import TextAdventure.Editor
import TextAdventure.Engine

/-!
# Conversations with an engine

Command texts lead a conversation: each asks for the call of its words, in the state of the
latest call that succeeded. `converse` leads it with any way of asking; `transcript` is what the
engine itself answers, and `Converses` says without recursion what such a list of exchanges is.
Asking through `Engine.recorded` notes every call, so that a step written for any way of asking
can be checked for the calls it makes (`run_converse_recorded`).
-/

namespace TextAdventure

variable {σ : Type}

/-! ## Exchanges -/

/-- A call, the state it started from, and the engine's answer. -/
structure Exchange (σ : Type) where
  call : Call
  state : σ
  answer : Except String (Reply σ)

namespace Exchange

/-- What the key that made the call reports. -/
def result (x : Exchange σ) : Except CallError Bool :=
  match x.answer with
  | .ok _ => .ok true
  | .error reason => .error ⟨x.call, reason⟩

/-- The reply, if the call succeeded. -/
def reply? (x : Exchange σ) : Option (Reply σ) :=
  x.answer.toOption

/-- The reply of the latest call that succeeded, or the opening if there was none. -/
def latest (opening : Reply σ) (exchanges : List (Exchange σ)) : Reply σ :=
  (exchanges.filterMap reply?).getLastD opening

@[simp] theorem latest_nil (opening : Reply σ) : latest opening [] = opening := rfl

theorem latest_cons (opening : Reply σ) (x : Exchange σ) (exchanges : List (Exchange σ)) :
    latest opening (x :: exchanges) = latest (x.reply?.getD opening) exchanges := by
  cases hreply : x.reply? with
  | none => rw [latest, List.filterMap_cons_none hreply]; rfl
  | some reply => rw [latest, List.filterMap_cons_some hreply, List.getLastD_cons]; rfl

end Exchange

/-- The call that a typed text asks for. -/
def Call.ofText (text : List Char) : Call :=
  Call.ofTokens (Editor.tokens (String.ofList text))

/-- The conversation that texts lead, each in the state of the latest success before it. -/
def converse {m : Type → Type} [Monad m] (ask : Asking m σ) :
    Reply σ → List (List Char) → m (List (Exchange σ))
  | _, [] => pure []
  | reply, text :: texts => do
    let answer ← ask (Call.ofText text) reply.state
    let rest ← converse ask (answer.toOption.getD reply) texts
    pure (⟨Call.ofText text, reply.state, answer⟩ :: rest)

/-- The conversation with an engine. -/
def transcript (engine : Engine σ) (opening : Reply σ) (texts : List (List Char)) :
    List (Exchange σ) :=
  Id.run (converse engine.ask opening texts)

/-- What a text leads to while a reply is the latest one. -/
def Engine.exchange (engine : Engine σ) (reply : Reply σ) (text : List Char) : Exchange σ :=
  ⟨Call.ofText text, reply.state, engine.answer (Call.ofText text) reply.state⟩

theorem transcript_cons (engine : Engine σ) (opening : Reply σ) (text : List Char)
    (texts : List (List Char)) :
    transcript engine opening (text :: texts)
      = engine.exchange opening text
        :: transcript engine ((engine.exchange opening text).reply?.getD opening) texts :=
  rfl

/-- What makes exchanges the conversation of texts with an engine: each text asks once, for the
call of its words, in the state of the latest success before it. -/
structure Converses (engine : Engine σ) (opening : Reply σ) (texts : List (List Char))
    (exchanges : List (Exchange σ)) : Prop where
  length_eq : exchanges.length = texts.length
  call_eq : ∀ (i : Nat) (text : List Char) (x : Exchange σ), texts[i]? = some text →
    exchanges[i]? = some x → x.call = Call.ofTokens (Editor.tokens (String.ofList text))
  state_eq : ∀ (i : Nat) (x : Exchange σ), exchanges[i]? = some x →
    x.state = (Exchange.latest opening (exchanges.take i)).state
  answer_eq : ∀ x ∈ exchanges, x.answer = engine.answer x.call x.state

/-- The conversation with an engine is one. -/
theorem converses_transcript (engine : Engine σ) (opening : Reply σ) (texts : List (List Char)) :
    Converses engine opening texts (transcript engine opening texts) := by
  induction texts generalizing opening with
  | nil => exact ⟨rfl, by simp, by simp [transcript, converse], by simp [transcript, converse]⟩
  | cons text texts ih =>
      rw [transcript_cons]
      obtain ⟨hlength, hcall, hstate, hanswer⟩ :=
        ih ((engine.exchange opening text).reply?.getD opening)
      refine ⟨by simp only [List.length_cons, hlength], ?_, ?_, ?_⟩
      · intro i text' x htext hx
        cases i with
        | zero =>
            rw [List.getElem?_cons_zero, Option.some.injEq] at htext hx
            subst htext hx
            simp only [Engine.exchange, Call.ofText]
        | succ i =>
            rw [List.getElem?_cons_succ] at htext hx
            exact hcall i text' x htext hx
      · intro i x hx
        cases i with
        | zero =>
            rw [List.getElem?_cons_zero, Option.some.injEq] at hx
            subst hx
            simp only [Engine.exchange, List.take_zero, Exchange.latest_nil]
        | succ i =>
            rw [List.getElem?_cons_succ] at hx
            rw [List.take_succ_cons, Exchange.latest_cons]
            exact hstate i x hx
      · intro x hx
        rcases List.mem_cons.mp hx with rfl | hx
        · simp only [Engine.exchange]
        · exact hanswer x hx

/-! ## Asking with a record -/

/-- Asks the engine, and notes the call and the state it starts from. -/
def Engine.recorded (engine : Engine σ) : Asking (StateM (List (Call × σ))) σ
  | call, state => do
    modify fun calls => calls ++ [(call, state)]
    pure (engine.answer call state)

/-- The record of a conversation is its calls, each once and in their order. -/
theorem run_converse_recorded (engine : Engine σ) (opening : Reply σ) (texts : List (List Char))
    (calls : List (Call × σ)) :
    Id.run (StateT.run (converse engine.recorded opening texts) calls)
      = (transcript engine opening texts,
          calls ++ (transcript engine opening texts).map fun x => (x.call, x.state)) := by
  induction texts generalizing opening calls with
  | nil =>
      simp [converse, transcript]
  | cons text texts ih =>
      -- the call is noted first, and the rest of the record comes behind it
      have hrest := ih ((engine.exchange opening text).reply?.getD opening)
        (calls ++ [(Call.ofText text, opening.state)])
      have hstep : Id.run (StateT.run (converse engine.recorded opening (text :: texts)) calls)
          = Prod.map (List.cons (engine.exchange opening text)) id
              (Id.run (StateT.run (converse engine.recorded
                ((engine.exchange opening text).reply?.getD opening) texts)
                (calls ++ [(Call.ofText text, opening.state)]))) := by
        simp [converse, Engine.recorded, Engine.exchange, Exchange.reply?, Prod.map]
      rw [hstep, hrest, transcript_cons]
      simp [Engine.exchange]

end TextAdventure
