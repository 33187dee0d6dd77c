import TextAdventure.Engine
import TextAdventure.Proofs.Call.FirstWord
import TextAdventure.Proofs.Settings.Escaping

/-!
# The written form of a call

A call is written into the log and into the wording of its failure, where other text follows it. It
can be read off there (`text_append_inj`): the two calls without an object start differently from
each other and from a query, the verb of a query ends at the first comma, and its object ends at the
first quote that is not escaped. All this needs of a verb is that it has no comma, which is so for
every call that a command can make.
-/

namespace TextAdventure

theorem Verb.comma_notMem_queryName (verb : Verb) {name : String}
    (h : verb.queryName? = some name) : ',' ∉ name.toList := by
  cases verb <;> cases h <;> decide

namespace Call

/-- A call whose verb has no comma. -/
def Plain : Call → Prop
  | .query verb _ => ',' ∉ verb.toList
  | _ => True

theorem plain_ofTokens (command : List String) : (ofTokens command).Plain := by
  cases firstWord command with
  | blank h =>
      rw [ofTokens_of_blank h]
      trivial
  | verb verb h =>
      rw [ofTokens_of_verb h]
      cases hname : verb.queryName? with
      | none => trivial
      | some name =>
          have hcomma := verb.comma_notMem_queryName hname
          by_cases hhelp : verb = .help
          · simpa [hhelp, Plain] using hcomma
          · simpa [hhelp, Plain] using hcomma
  | unknown hword h =>
      rw [ofTokens_of_unknown hword h]
      show ',' ∉ "MISC".toList
      decide

theorem toList_text_query (verb object : String) :
    (query verb object).text.toList
      = "query(".toList ++
          (verb.toList ++ ',' :: ' ' :: ((Text.quoted object).toList ++ [')'])) := by
  have hall (before between after : String) :
      (before ++ verb ++ between ++ Text.quoted object ++ after).toList
        = before.toList ++ (verb.toList ++ (between.toList
          ++ ((Text.quoted object).toList ++ after.toList))) := by
    simp only [String.toList_append, List.append_assoc]
  have hcomma : ", ".toList = [',', ' '] := by decide
  have hclose : ")".toList = [')'] := by decide
  rw [text, hall, hcomma, hclose, List.cons_append, List.cons_append, List.nil_append]

theorem takeWhile_verb {verb : List Char} (h : ',' ∉ verb) (rest : List Char) :
    (verb ++ ',' :: rest).takeWhile (· != ',') = verb := by
  refine Settings.Source.takeWhile_append (fun c hc => ?_) (by simp)
  simp only [bne_iff_ne]
  rintro rfl
  exact h hc

/-- Two queries written alike have the same verb and the same object. -/
theorem query_append_inj {verb verb' object object' : String} {x y : List Char}
    (hverb : ',' ∉ verb.toList) (hverb' : ',' ∉ verb'.toList)
    (h : (query verb object).text.toList ++ x = (query verb' object').text.toList ++ y) :
    (verb = verb' ∧ object = object') ∧ x = y := by
  simp only [toList_text_query, List.append_assoc, List.cons_append, List.append_cancel_left_eq]
    at h
  have hverbs := congrArg (List.takeWhile (· != ',')) h
  rw [takeWhile_verb hverb, takeWhile_verb hverb'] at hverbs
  rw [hverbs] at h
  have hobjects := (List.cons.inj (List.cons.inj (List.append_cancel_left h)).2).2
  obtain ⟨hobject, hend⟩ := Settings.quoted_append_inj hobjects
  exact ⟨⟨String.toList_inj.mp hverbs, hobject⟩, (List.cons.inj hend).2⟩

/-- **A call can be told from what follows it.** -/
theorem text_append_inj {c d : Call} (hc : c.Plain) (hd : d.Plain) {x y : List Char}
    (h : c.text.toList ++ x = d.text.toList ++ y) : c = d ∧ x = y := by
  have hroom : text .describeRoom = "print_current_room" := rfl
  have hinventory : text .inventory = "print_inventory" := rfl
  cases c with
  | describeRoom =>
      cases d with
      | describeRoom => exact ⟨rfl, List.append_cancel_left h⟩
      | inventory => simp [hroom, hinventory] at h
      | query verb object => simp [hroom, toList_text_query] at h
  | inventory =>
      cases d with
      | describeRoom => simp [hroom, hinventory] at h
      | inventory => exact ⟨rfl, List.append_cancel_left h⟩
      | query verb object => simp [hinventory, toList_text_query] at h
  | query verb object =>
      cases d with
      | describeRoom => simp [hroom, toList_text_query] at h
      | inventory => simp [hinventory, toList_text_query] at h
      | query verb' object' =>
          obtain ⟨⟨rfl, rfl⟩, hrest⟩ := query_append_inj hc hd h
          exact ⟨rfl, hrest⟩

theorem text_inj {c d : Call} (hc : c.Plain) (hd : d.Plain) (h : c.text = d.text) : c = d := by
  have hlists : c.text.toList ++ [] = d.text.toList ++ [] := by rw [h]
  exact (text_append_inj hc hd hlists).1

end Call

theorem CallError.toList_message (e : CallError) :
    e.message.toList
      = "engine failed on ".toList ++ (e.call.text.toList ++ (": ".toList ++ e.reason.toList)) := by
  -- for any words in the places of the two literals, which need not be taken apart
  have hall (before between : String) : (before ++ e.call.text ++ between ++ e.reason).toList
      = before.toList ++ (e.call.text.toList ++ (between.toList ++ e.reason.toList)) := by
    simp only [String.toList_append, List.append_assoc]
  exact hall "engine failed on " ": "

theorem CallError.message_inj {c d : Call} (hc : c.Plain) (hd : d.Plain) {reason reason' : String}
    (h : message ⟨c, reason⟩ = message ⟨d, reason'⟩) : c = d ∧ reason = reason' := by
  have hlists := congrArg String.toList h
  rw [toList_message, toList_message] at hlists
  obtain ⟨hcall, hreason⟩ := Call.text_append_inj hc hd (List.append_cancel_left hlists)
  exact ⟨hcall, String.toList_inj.mp (List.append_cancel_left hreason)⟩

/-- **A call is known by its written form**: on its own, in the log of a command, and in the wording
of a failure, which also tells the reason. -/
theorem Call.text_names_call (s t : List String) :
    ((ofTokens s).text = (ofTokens t).text ↔ ofTokens s = ofTokens t) ∧
    (Engine.dispatchLog s = Engine.dispatchLog t ↔ ofTokens s = ofTokens t) ∧
    ∀ reason reason' : String,
      CallError.message ⟨ofTokens s, reason⟩ = CallError.message ⟨ofTokens t, reason'⟩ ↔
        ofTokens s = ofTokens t ∧ reason = reason' := by
  have htext : (ofTokens s).text = (ofTokens t).text ↔ ofTokens s = ofTokens t :=
    ⟨text_inj (plain_ofTokens s) (plain_ofTokens t), congrArg text⟩
  refine ⟨htext, ?_, fun reason reason' => ⟨fun h => ?_, ?_⟩⟩
  · rw [← htext]
    constructor
    · intro h
      have hmessage := (Log.Entry.mk.inj (List.cons.inj h).1).2
      exact (String.append_right_inj _).mp hmessage
    · intro h
      rw [Engine.dispatchLog, Engine.dispatchLog, h]
  · exact CallError.message_inj (plain_ofTokens s) (plain_ofTokens t) h
  · rintro ⟨hcall, rfl⟩
    rw [hcall]

end TextAdventure
