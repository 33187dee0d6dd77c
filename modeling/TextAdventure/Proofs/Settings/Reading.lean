import TextAdventure.Settings.Source

/-!
# Readers at work

What a reader makes of a text that other text follows: it reads a value and goes exactly past the
text (`Reads`), or it refuses the text with a fault (`Refuses`). Blanks and comments are gone past
up to whatever is neither, and a row of items with commas between is read by taking the items one
after another (`gives_readItems`).
-/

namespace TextAdventure.Settings

/-- The place behind a text. -/
def Position.past (p : Position) (text : List Char) : Position :=
  text.foldl Position.after p

@[simp] theorem Position.past_nil (p : Position) : p.past [] = p := rfl

@[simp] theorem Position.past_cons (p : Position) (c : Char) (text : List Char) :
    p.past (c :: text) = (p.after c).past text := rfl

@[simp] theorem Position.past_append (p : Position) (a b : List Char) :
    p.past (a ++ b) = (p.past a).past b :=
  List.foldl_append

/-- Reads a text that stands before `rest`, wherever it starts. -/
def Reads {α : Type} (read : Reader α) (text rest : List Char) (value : α) : Prop :=
  ∀ p : Position, read ⟨text ++ rest, p⟩ = .ok (value, ⟨rest, p.past text⟩)

/-- Goes past a text that stands before `rest`, wherever it starts. -/
def Skips (skip : Skipper) (text rest : List Char) : Prop :=
  ∀ p : Position, skip ⟨text ++ rest, p⟩ = .ok ⟨rest, p.past text⟩

/-- Fails at a text that stands before `rest`, wherever it starts. -/
def Refuses {α : Type} (read : Reader α) (text rest : List Char) (fault : Fault) : Prop :=
  ∀ p : Position, ∃ q, read ⟨text ++ rest, p⟩ = .error ⟨fault, q⟩

/-- Either of the two. -/
def Gives {α : Type} (read : Reader α) (text rest : List Char) : Except Fault α → Prop
  | .ok value => Reads read text rest value
  | .error fault => Refuses read text rest fault

namespace Source

/-! ## Steps -/

theorem drop_append (text rest : List Char) (p : Position) :
    (⟨text ++ rest, p⟩ : Source).drop text.length = ⟨rest, p.past text⟩ := by
  simp [drop, Position.past]

theorem drop_one (c : Char) (rest : List Char) (p : Position) :
    (⟨c :: rest, p⟩ : Source).drop 1 = ⟨rest, p.after c⟩ := rfl

theorem takeWhile_append_head {pred : Char → Bool} {rest : List Char}
    (hrest : ∀ c ∈ rest.head?, pred c = false) {text : List Char} :
    (text ++ rest).takeWhile pred = text.takeWhile pred := by
  induction text with
  | nil =>
      cases rest with
      | nil => rfl
      | cons c rest => simp [hrest c rfl]
  | cons c text ih => by_cases hc : pred c = true <;> simp [hc, ih]

theorem takeWhile_append {pred : Char → Bool} {text rest : List Char}
    (htext : ∀ c ∈ text, pred c = true) (hrest : ∀ c ∈ rest.head?, pred c = false) :
    (text ++ rest).takeWhile pred = text := by
  rw [takeWhile_append_head hrest, ← List.append_nil text, List.takeWhile_append_of_pos htext]
  rfl

theorem skipWhile_append {pred : Char → Bool} {text rest : List Char}
    (htext : ∀ c ∈ text, pred c = true) (hrest : ∀ c ∈ rest.head?, pred c = false)
    (p : Position) : (⟨text ++ rest, p⟩ : Source).skipWhile pred = ⟨rest, p.past text⟩ := by
  rw [skipWhile, takeWhile_append htext hrest]
  exact drop_append text rest p

theorem consume?_cons (text : String) {c : Char} (h : text.toList = [c]) (rest : List Char)
    (p : Position) : (⟨c :: rest, p⟩ : Source).consume? text = some ⟨rest, p.after c⟩ := by
  have hlength : text.length = 1 := by rw [← String.length_toList, h]; rfl
  simp [consume?, startsWith, h, hlength, drop_one]

theorem consume?_eq_none (text : String) {c : Char} (h : text.toList = [c]) {rest : List Char}
    (hrest : ∀ d ∈ rest.head?, d ≠ c) (p : Position) :
    (⟨rest, p⟩ : Source).consume? text = none := by
  cases rest with
  | nil => simp [consume?, startsWith, h]
  | cons d rest => simp [consume?, startsWith, h, (hrest d rfl).symm]

theorem skipText_cons (text : String) {c : Char} (h : text.toList = [c]) (fault : Fault)
    (rest : List Char) (p : Position) :
    (⟨c :: rest, p⟩ : Source).skipText text fault = .ok ⟨rest, p.after c⟩ := by
  simp [skipText, consume?_cons text h]

/-! ## Blanks and comments -/

/-- Separators and comments in any order. -/
inductive Blank : List Char → Prop
  | nil : Blank []
  | separator {c : Char} {rest : List Char} : isSeparator c = true → Blank rest → Blank (c :: rest)
  | lineComment {body rest : List Char} : '\n' ∉ body → Blank rest →
      Blank ('/' :: '/' :: (body ++ '\n' :: rest))
  | blockComment {body rest : List Char} : blockLength? 1 body = some body.length → Blank rest →
      Blank ('/' :: '*' :: (body ++ rest))

/-- Text before which blanks end. -/
def Still (rest : List Char) : Prop :=
  ∀ c ∈ rest.head?, isSeparator c = false ∧ c ≠ '/'

theorem still_cons {c : Char} (hseparator : isSeparator c = false) (hslash : c ≠ '/')
    (rest : List Char) : Still (c :: rest) := by
  rintro d ⟨⟩
  exact ⟨hseparator, hslash⟩

theorem passBlank_congr {s t : Source} (h : s.skipWhile isSeparator = t.skipWhile isSeparator) :
    s.passBlank = t.passBlank := by
  rw [passBlank, h, ← passBlank]

theorem passBlank_cons_separator {c : Char} (hc : isSeparator c = true) (rest : List Char)
    (p : Position) :
    (⟨c :: rest, p⟩ : Source).passBlank = (⟨rest, p.after c⟩ : Source).passBlank := by
  apply passBlank_congr
  simp [skipWhile, drop, hc]

theorem skipWhile_of_head {pred : Char → Bool} {rest : List Char}
    (h : ∀ c ∈ rest.head?, pred c = false) (p : Position) :
    (⟨rest, p⟩ : Source).skipWhile pred = ⟨rest, p⟩ := by
  have hnone : ∀ c ∈ ([] : List Char), pred c = true := by simp
  exact skipWhile_append hnone h p

/-- A comment that ends does not depend on what follows it. -/
theorem blockLength?_append {depth : Nat} {body : List Char} {n : Nat}
    (h : blockLength? depth body = some n) (rest : List Char) :
    blockLength? depth (body ++ rest) = some n := by
  fun_induction blockLength? depth body generalizing n with
  | case1 => cases h
  | case2 depth body ih =>
      obtain ⟨m, hm, rfl⟩ := Option.map_eq_some_iff.mp h
      simp [blockLength?, ih hm]
  | case3 depth body hdepth => simpa [blockLength?, hdepth] using h
  | case4 depth body hdepth ih =>
      obtain ⟨m, hm, rfl⟩ := Option.map_eq_some_iff.mp h
      simp [blockLength?, hdepth, ih hm]
  | case5 depth c body hopen hclose ih =>
      obtain ⟨m, hm, rfl⟩ := Option.map_eq_some_iff.mp h
      cases body with
      | nil => cases hm
      | cons d body =>
          rw [List.cons_append, List.cons_append, blockLength?]
          · rw [← List.cons_append, ih hm]
            rfl
          · rintro tail rfl heq
            exact hopen body rfl (by rw [(List.cons.inj heq).1])
          · rintro tail rfl heq
            exact hclose body rfl (by rw [(List.cons.inj heq).1])

/-- **Blanks and comments** are gone past, and nothing behind them. -/
theorem passBlank_append {blank rest : List Char} (hblank : Blank blank) (hrest : Still rest)
    (p : Position) : (⟨blank ++ rest, p⟩ : Source).passBlank = (⟨rest, p.past blank⟩, none) := by
  induction hblank generalizing p with
  | nil =>
      rw [List.nil_append, Position.past_nil, passBlank,
        skipWhile_of_head fun c hc => (hrest c hc).1]
      split
      all_goals first | rfl | exact absurd rfl (hrest '/' (by simp_all)).2
  | separator hc _ ih =>
      rw [List.cons_append, passBlank_cons_separator hc, ih]
      rfl
  | @lineComment body blank hbody _ ih =>
      have hstart : ∀ c ∈ ('/' :: '/' :: (body ++ '\n' :: blank) ++ rest).head?,
          isSeparator c = false := by
        rintro c ⟨⟩
        decide
      have hline : ∀ c ∈ body, (c != '\n') = true := by
        intro c hc
        simp only [bne_iff_ne]
        rintro rfl
        exact hbody hc
      have hdrop := drop_append ['/', '/'] (body ++ '\n' :: (blank ++ rest)) p
      simp only [List.cons_append, List.nil_append, List.length_cons, List.length_nil] at hdrop
      rw [passBlank, skipWhile_of_head hstart]
      simp only [List.cons_append, List.append_assoc, hdrop]
      rw [skipWhile_append hline (by simp), passBlank_cons_separator (by decide), ih]
      simp
  | @blockComment body blank hbody _ ih =>
      have hstart : ∀ c ∈ ('/' :: '*' :: (body ++ blank) ++ rest).head?,
          isSeparator c = false := by
        rintro c ⟨⟩
        decide
      have hdrop := drop_append ('/' :: '*' :: body) (blank ++ rest) p
      simp only [List.cons_append, List.length_cons] at hdrop
      rw [passBlank, skipWhile_of_head hstart]
      simp only [List.cons_append, List.append_assoc, blockLength?_append hbody, hdrop, ih]
      simp

theorem skips_skipBlank {blank rest : List Char} (hblank : Blank blank) (hrest : Still rest) :
    Skips skipBlank blank rest := by
  intro p
  simp only [skipBlank, passBlank_append hblank hrest]

theorem reads_skipComma_false {blank rest : List Char} (hblank : Blank blank) (hrest : Still rest)
    (hcomma : ∀ c ∈ rest.head?, c ≠ ',') : Reads skipComma blank rest false := by
  intro p
  simp only [skipComma, skips_skipBlank hblank hrest p, bind, Except.bind,
    consume?_eq_none "," rfl hcomma]
  rfl

theorem reads_skipComma_true {before after rest : List Char} (hbefore : Blank before)
    (hafter : Blank after) (hrest : Still rest) :
    Reads skipComma (before ++ ',' :: after) rest true := by
  intro p
  have hcomma : Still (',' :: (after ++ rest)) := still_cons rfl (by decide) _
  rw [List.append_assoc, List.cons_append]
  simp only [skipComma, skips_skipBlank hbefore hcomma p, bind, Except.bind,
    consume?_cons "," (c := ',') rfl, skips_skipBlank hafter hrest _, Position.past_append,
    Position.past_cons]
  rfl

/-! ## Rows of items -/

/-- Items with commas between them, and perhaps one behind the last. Blanks may follow each item
and each comma. -/
inductive Row {ι : Type} (Item : ι → List Char → Prop) : List ι → List Char → Prop
  | nil : Row Item [] []
  | last {i : ι} {item blank : List Char} : Item i item → Blank blank →
      Row Item [i] (item ++ blank)
  | cons {i : ι} {is : List ι} {item before after row : List Char} : Item i item → Blank before →
      Blank after → Row Item is row → Row Item (i :: is) (item ++ (before ++ ',' :: (after ++ row)))

/-- A character that no name and no number goes on with. -/
def endsToken (c : Char) : Bool :=
  isSeparator c || "/,:()]\x7d".toList.contains c

/-- Text that starts with such a character. -/
def Parted : List Char → Prop
  | [] => False
  | c :: _ => endsToken c = true

theorem Blank.parted_cons {blank : List Char} (h : Blank blank) {c : Char}
    (hc : endsToken c = true) (rest : List Char) : Parted (blank ++ c :: rest) := by
  cases h with
  | nil => exact hc
  | separator hd _ => simp [Parted, endsToken, hd]
  | lineComment _ _ => exact (rfl : endsToken '/' = true)
  | blockComment _ _ => exact (rfl : endsToken '/' = true)

/-- Text that starts with a character that starts no blank and does not close a row. -/
def Opens (close : Char) : List Char → Prop
  | [] => False
  | c :: _ => isSeparator c = false ∧ c ≠ '/' ∧ c ≠ close

theorem Opens.still {close : Char} {text : List Char} (h : Opens close text) (rest : List Char) :
    Still (text ++ rest) := by
  cases text with
  | nil => cases h
  | cons c text => exact still_cons h.1 h.2.1 _

/-- The characters that close a row. -/
def closers : List Char := [')', ']', '\x7d']

theorem closers_spec : ∀ close ∈ closers,
    endsToken close = true ∧ isSeparator close = false ∧ close ≠ '/' ∧ close ≠ ',' := by
  intro close hclose
  simp only [closers, List.mem_cons, List.not_mem_nil, or_false] at hclose
  rcases hclose with rfl | rfl | rfl
  all_goals decide

section Items

variable {σ ι : Type} {close : Char} {item : σ → Reader σ} {Item : ι → List Char → Prop}
  {step : σ → ι → Except Fault σ}

theorem still_close (hclose : close ∈ closers) (rest : List Char) : Still (close :: rest) := by
  obtain ⟨-, hseparator, hslash, -⟩ := closers_spec close hclose
  exact still_cons hseparator hslash rest

theorem Row.still (hopens : ∀ i text, Item i text → Opens close text) (hclose : close ∈ closers)
    {is : List ι} {row : List Char} (h : Row Item is row) (rest : List Char) :
    Still (row ++ close :: rest) := by
  cases h with
  | nil => exact still_close hclose rest
  | last hitem _ =>
      rw [List.append_assoc]
      exact (hopens _ _ hitem).still _
  | cons hitem _ _ _ =>
      rw [List.append_assoc]
      exact (hopens _ _ hitem).still _

theorem reads_readItems_nil (hclose : close ∈ closers) {blank : List Char} (hblank : Blank blank)
    (acc : σ) (hadComma : Bool) (rest : List Char) :
    Reads (readItems close item acc hadComma) blank (close :: rest) acc := by
  intro p
  rw [readItems]
  simp only [skips_skipBlank hblank (still_close hclose rest) p, bind, Except.bind, if_true]
  rfl

/-- Where a row goes on, an item is read, and then the comma behind it is looked for. -/
theorem readItems_eq {text blank : List Char} (hopens : Opens close text) (hblank : Blank blank)
    (rest : List Char) (acc : σ) (p : Position) :
    readItems close item acc true ⟨blank ++ (text ++ rest), p⟩ =
      (do
        let (acc, u) ← item acc ⟨text ++ rest, p.past blank⟩
        let (comma, v) ← u.skipComma
        if v.rest.length < (blank ++ (text ++ rest)).length then readItems close item acc comma v
        else v.fail .endOfText) := by
  rw [readItems]
  simp only [skips_skipBlank hblank (hopens.still rest) p, bind, Except.bind]
  cases text with
  | nil => cases hopens
  | cons c text =>
      obtain ⟨-, -, hne⟩ := hopens
      simp only [List.cons_append, if_neg hne]
      rfl

theorem readItems_of_reads {text blank gap rest : List Char} (hopens : Opens close text)
    (hblank : Blank blank) {acc acc' : σ} {comma : Bool}
    (hitem : Reads (item acc) text (gap ++ rest) acc') (hcomma : Reads skipComma gap rest comma)
    (p : Position) :
    readItems close item acc true ⟨blank ++ (text ++ (gap ++ rest)), p⟩ =
      readItems close item acc' comma ⟨rest, ((p.past blank).past text).past gap⟩ := by
  have hpos : 0 < text.length := by
    cases text with
    | nil => cases hopens
    | cons c text => simp
  have hshorter : rest.length < (blank ++ (text ++ (gap ++ rest))).length := by
    simp only [List.length_append]
    omega
  rw [readItems_eq hopens hblank]
  simp only [hitem _, hcomma _, bind, Except.bind, if_pos hshorter]

theorem refuses_readItems {text blank : List Char} (hopens : Opens close text)
    (hblank : Blank blank) {acc : σ} {fault : Fault} {rest : List Char}
    (hitem : Refuses (item acc) text rest fault) (p : Position) :
    ∃ q, readItems close item acc true ⟨blank ++ (text ++ rest), p⟩ = .error ⟨fault, q⟩ := by
  obtain ⟨q, hq⟩ := hitem (p.past blank)
  refine ⟨q, ?_⟩
  rw [readItems_eq hopens hblank, hq]
  rfl

/-- **A row of items** is read by taking the items one after another, up to the first that is
refused. By induction on the row; the blanks before it are generalised, since those behind a comma
are gone past together with the comma. -/
theorem gives_readItems (hopens : ∀ i text, Item i text → Opens close text)
    (hclose : close ∈ closers)
    (hitem : ∀ acc i text rest, Item i text → Parted rest →
      Gives (item acc) text rest (step acc i))
    {is : List ι} {row : List Char} (hrow : Row Item is row) {blank : List Char}
    (hblank : Blank blank) (acc : σ) (rest : List Char) :
    Gives (readItems close item acc true) (blank ++ row) (close :: rest) (is.foldlM step acc) := by
  obtain ⟨hparted, -, -, hcomma⟩ := closers_spec close hclose
  induction hrow generalizing acc blank with
  | nil =>
      rw [List.append_nil]
      exact reads_readItems_nil hclose hblank acc true rest
  | @last i text gap htext hgap =>
      have hgives := hitem acc i text (gap ++ close :: rest) htext (hgap.parted_cons hparted rest)
      rw [List.foldlM_cons]
      cases hstep : step acc i with
      | error fault =>
          rw [hstep] at hgives
          intro p
          rw [List.append_assoc, List.append_assoc]
          exact refuses_readItems (hopens i text htext) hblank hgives p
      | ok acc' =>
          rw [hstep] at hgives
          intro p
          have hnone : Reads skipComma gap (close :: rest) false :=
            reads_skipComma_false hgap (still_close hclose rest) (by rintro c ⟨⟩; exact hcomma)
          rw [List.append_assoc, List.append_assoc,
            readItems_of_reads (hopens i text htext) hblank hgives hnone]
          have hend : Reads (readItems close item acc' false) [] (close :: rest) acc' :=
            reads_readItems_nil hclose .nil acc' false rest
          simpa using hend (((p.past blank).past text).past gap)
  | @cons i is text before after row htext hbefore hafter hrow ih =>
      have hparted' : Parted ((before ++ ',' :: after) ++ (row ++ close :: rest)) := by
        rw [List.append_assoc]
        exact hbefore.parted_cons rfl _
      have hgives := hitem acc i text _ htext hparted'
      have hsplit : blank ++ (text ++ (before ++ ',' :: (after ++ row))) ++ close :: rest
          = blank ++ (text ++ ((before ++ ',' :: after) ++ (row ++ close :: rest))) := by simp
      rw [List.foldlM_cons]
      cases hstep : step acc i with
      | error fault =>
          rw [hstep] at hgives
          intro p
          rw [hsplit]
          exact refuses_readItems (hopens i text htext) hblank hgives p
      | ok acc' =>
          rw [hstep] at hgives
          have hsome := reads_skipComma_true hbefore hafter (hrow.still hopens hclose rest)
          have hread (p : Position) :=
            readItems_of_reads (hopens i text htext) hblank hgives hsome p
          have hlater := ih .nil acc'
          -- whatever becomes of the rest of the row becomes of the row
          show Gives _ _ _ (is.foldlM step acc')
          cases houtcome : is.foldlM step acc' with
          | ok acc'' =>
              rw [houtcome] at hlater
              intro p
              rw [hsplit, hread]
              simpa using hlater (((p.past blank).past text).past (before ++ ',' :: after))
          | error fault =>
              rw [houtcome] at hlater
              intro p
              rw [hsplit, hread]
              exact hlater (((p.past blank).past text).past (before ++ ',' :: after))

end Items

end Source

end TextAdventure.Settings
