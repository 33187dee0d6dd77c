import TextAdventure.Proofs.Settings.Entries
import TextAdventure.Proofs.Settings.Spelling

/-!
# Listings of settings

The texts that list entries: structures in parentheses, with or without their name, whose fields
stand in any order with blanks and comments between all parts. Each reader comes to what its part
of the listing says, so that reading a listing is taking its entries (`readDraft_of_listing`).
-/

namespace TextAdventure.Settings

open Source

/-! ## Texts of fields and structures -/

/-- A name, a colon and a value, with blanks around the colon. -/
inductive FieldText (name : String) (Value : List Char → Prop) : List Char → Prop
  | intro {before after value : List Char} : Blank before → Blank after → Value value →
      FieldText name Value (name.toList ++ (before ++ ':' :: (after ++ value)))

/-- A row of items in parentheses. -/
inductive Group {ι : Type} (Item : ι → List Char → Prop) (is : List ι) : List Char → Prop
  | intro {blank row : List Char} : Blank blank → Row Item is row →
      Group Item is ('(' :: (blank ++ row ++ [')']))

/-- The name of a structure, which may be left out. -/
inductive Title (structName : String) : List Char → Prop
  | absent : Title structName []
  | named {blank : List Char} : Blank blank → Title structName (structName.toList ++ blank)

inductive StructText {ι : Type} (structName : String) (Item : ι → List Char → Prop)
    (is : List ι) : List Char → Prop
  | intro {title group : List Char} : Title structName title → Group Item is group →
      StructText structName Item is (title ++ group)

def BoxEntry.Text (entry : BoxEntry) : List Char → Prop :=
  FieldText entry.1.name (NumberText entry.2)

/-- The texts of an entry's value. -/
inductive Entry.Value : Entry → List Char → Prop
  | prompt {text : String} {spelling : List Char} : Spelled spelling text.toList →
      Value (.prompt text) ('"' :: (spelling ++ ['"']))
  | textBox {entries : List BoxEntry} {text : List Char} :
      StructText "LayoutBox" BoxEntry.Text entries text → Value (.textBox entries) text
  | promptOrigin {x y : Single} {text : List Char} :
      Group NumberText [x, y] text → Value (.promptOrigin x y) text

def Entry.Text (entry : Entry) : List Char → Prop :=
  FieldText entry.name entry.Value

/-- The texts that list entries as the fields of a structure. -/
inductive Listing (entries : List Entry) : List Char → Prop
  | intro {before struct after : List Char} : Blank before →
      StructText "ShellConfig" Entry.Text entries struct → Blank after →
      Listing entries (before ++ (struct ++ after))

/-! ## Reading structures -/

theorem Gives.map {α β : Type} {read : Reader α} {text rest : List Char}
    {outcome : Except Fault α} (h : Gives read text rest outcome) (f : α → β) :
    Gives (fun s => do let (x, s) ← read s; pure (f x, s)) text rest (outcome.map f) := by
  cases outcome with
  | ok x =>
      intro p
      simp only [h p]
      rfl
  | error fault =>
      intro p
      obtain ⟨q, hq⟩ := h p
      refine ⟨q, ?_⟩
      simp only [hq]
      rfl

/-- What goes past some text and then reads on. -/
theorem Gives.behind {α : Type} {read next : Reader α} {before text rest : List Char}
    {outcome : Except Fault α} (h : Gives next text rest outcome)
    (hnext : ∀ p, read ⟨before ++ (text ++ rest), p⟩ = next ⟨text ++ rest, p.past before⟩) :
    Gives read (before ++ text) rest outcome := by
  cases outcome with
  | ok x =>
      intro p
      rw [List.append_assoc, hnext, h, Position.past_append]
  | error fault =>
      intro p
      rw [List.append_assoc, hnext]
      exact h _

theorem Gives.close {α : Type} {read : Reader α} {text rest : List Char}
    {outcome : Except Fault α} (h : Gives read text (')' :: rest) outcome) :
    Gives (fun s => do
      let (x, s) ← read s
      let s ← s.skipText ")" .expectedClosing
      pure (x, s)) (text ++ [')']) rest outcome := by
  cases outcome with
  | ok x =>
      intro p
      simp only [List.append_assoc, List.singleton_append, h p, bind, Except.bind,
        skipText_cons ")" (c := ')') rfl, Position.past_append]
      rfl
  | error fault =>
      intro p
      obtain ⟨q, hq⟩ := h p
      refine ⟨q, ?_⟩
      simp only [List.append_assoc, List.singleton_append, hq]
      rfl

theorem opens_append {name : List Char} (hname : isPlainName name = true) (rest : List Char) :
    Opens ')' (name ++ rest) := by
  cases name with
  | nil => cases hname
  | cons c name =>
      have hstart : isNameStart c = true := by simp_all [isPlainName]
      apply opens_of_not_endsToken
      cases hends : endsToken c with
      | false => rfl
      | true =>
          have hraw := (endsToken_spec hends).1
          simp [isRawNameChar, isNameChar, hstart] at hraw

theorem FieldText.opens {name : String} {Value : List Char → Prop} {text : List Char}
    (hname : isPlainName name.toList = true) (h : FieldText name Value text) : Opens ')' text := by
  cases h
  exact opens_append hname _

section Structures

variable {σ ι : Type} {structName : String} {fields : List (Field σ)} {skip : Skipper}

theorem readName_eq {name : String} (hname : isPlainName name.toList = true) {rest : List Char}
    (hrest : Parted rest) (p : Position) :
    readName ⟨name.toList ++ rest, p⟩ = .ok (name, ⟨rest, p.past name.toList⟩) := by
  rw [reads_readName hname hrest p, String.ofList_toList]

/-- **A field** is refused where its slot is filled; otherwise its value decides. -/
theorem gives_readField {name : String} {Value : List Char → Prop} {text rest : List Char}
    (hname : isPlainName name.toList = true) (htext : FieldText name Value text) {field : Field σ}
    (hfield : fields.find? (fun field => field.name == name) = some field) {draft : σ}
    {outcome : Except Fault σ}
    (hvalue : ∀ value, Value value → Still (value ++ rest) ∧
      Gives (field.read draft) value rest outcome) :
    Gives (readField structName fields skip draft) text rest
      (if field.given draft then .error (.duplicateField name structName) else outcome) := by
  obtain @⟨before, after, value, hbefore, hafter, hv⟩ := htext
  obtain ⟨hstill, hread⟩ := hvalue value hv
  have hparted := hbefore.parted_cons (c := ':') rfl
  by_cases hgiven : field.given draft = true
  · -- noticed behind the name, before the colon is looked for
    rw [if_pos hgiven]
    intro p
    refine ⟨p.past name.toList, ?_⟩
    simp only [readField, List.append_assoc, List.cons_append, readName_eq hname (hparted _), bind,
      Except.bind, hfield, if_pos hgiven]
    rfl
  · have hsplit : name.toList ++ (before ++ ':' :: (after ++ value))
        = (name.toList ++ (before ++ ':' :: after)) ++ value := by simp
    have hcolon := still_cons (c := ':') rfl (by decide)
    rw [if_neg hgiven, hsplit]
    refine hread.behind fun p => ?_
    simp only [readField, List.append_assoc, List.cons_append, readName_eq hname (hparted _), bind,
      Except.bind, hfield, if_neg hgiven, skips_skipBlank hbefore (hcolon _) _,
      skipText_cons ":" (c := ':') rfl, skips_skipBlank hafter hstill _, Position.past_append,
      Position.past_cons]

theorem skips_skipStructName (hname : isPlainName structName.toList = true) {title : List Char}
    (htitle : Title structName title) (rest : List Char) (p : Position) :
    ∃ blank q, Blank blank ∧ skipStructName structName ⟨title ++ '(' :: rest, p⟩
      = .ok ⟨blank ++ '(' :: rest, q⟩ ∧ q.past blank = p.past title := by
  cases htitle with
  | absent => exact ⟨[], p, .nil, rfl, rfl⟩
  | @named blank hblank =>
      refine ⟨blank, p.past structName.toList, hblank, ?_, by simp⟩
      have hparted : Parted (blank ++ '(' :: rest) := hblank.parted_cons rfl rest
      have hstart : (structName.toList ++ (blank ++ '(' :: rest)).head?.any isNameChar = true := by
        cases hlist : structName.toList with
        | nil => rw [hlist] at hname; cases hname
        | cons c name =>
            rw [hlist] at hname
            simp_all [isPlainName, isNameChar]
      simp only [skipStructName, List.append_assoc, hstart, if_true, readName_eq hname hparted]

/-- **A structure** comes to what taking its items one after another comes to. -/
theorem gives_readStruct {Item : ι → List Char → Prop} {step : σ → ι → Except Fault σ}
    (hname : isPlainName structName.toList = true)
    (hopens : ∀ i text, Item i text → Opens ')' text)
    (hitem : ∀ draft i text rest, Item i text → Parted rest →
      Gives (readField structName fields skip draft) text rest (step draft i))
    {is : List ι} {text : List Char} (htext : StructText structName Item is text) (draft : σ)
    (rest : List Char) :
    Gives (readStruct structName fields skip draft) text rest (is.foldlM step draft) := by
  obtain @⟨title, group, htitle, hgroup⟩ := htext
  obtain @⟨blank, row, hblank, hrow⟩ := hgroup
  have hitems := gives_readItems hopens (by decide) hitem hrow hblank draft rest
  have hsplit : title ++ '(' :: (blank ++ row ++ [')'])
      = (title ++ ['(']) ++ (blank ++ row ++ [')']) := by simp
  rw [hsplit]
  refine hitems.close.behind fun p => ?_
  have hopening := still_cons (c := '(') rfl (by decide)
  obtain ⟨gap, q, hgap, hskip, hpast⟩ :=
    skips_skipStructName hname htitle (blank ++ row ++ [')'] ++ rest) p
  simp only [List.append_assoc, List.singleton_append] at hskip ⊢
  simp only [readStruct, bind, Except.bind, hskip, skips_skipBlank hgap (hopening _) _, hpast,
    skipText_cons "(" (c := '(') rfl, Position.past_append, Position.past_cons, Position.past_nil]

theorem StructText.starts {Item : ι → List Char → Prop} {is : List ι} {text : List Char}
    (hname : isPlainName structName.toList = true) (h : StructText structName Item is text) :
    ∃ c tail, text = c :: tail ∧ isSeparator c = false ∧ c ≠ '/' ∧ c ≠ '#' := by
  obtain @⟨title, group, htitle, hgroup⟩ := h
  cases htitle with
  | absent =>
      obtain ⟨-, -⟩ := hgroup
      exact ⟨'(', _, rfl, by decide, by decide, by decide⟩
  | @named blank hblank =>
      have hopens := opens_append hname (blank ++ group)
      rw [List.append_assoc]
      cases hlist : structName.toList with
      | nil =>
          rw [hlist] at hname
          cases hname
      | cons c name =>
          rw [hlist] at hname hopens
          refine ⟨c, _, rfl, hopens.1, hopens.2.1, ?_⟩
          rintro rfl
          simp [isPlainName, isNameStart] at hname

end Structures

/-! ## Pairs -/

theorem exists_of_row_singleton {ι : Type} {Item : ι → List Char → Prop} {i : ι} {row : List Char}
    (h : Row Item [i] row) (rest : List Char) :
    ∃ text gap comma, row = text ++ gap ∧ Item i text ∧ Parted (gap ++ ')' :: rest) ∧
      Reads skipComma gap (')' :: rest) comma := by
  have hclose : ')' ∈ closers := by decide
  cases h with
  | @last _ text gap htext hgap =>
      refine ⟨text, gap, false, rfl, htext, hgap.parted_cons rfl rest, ?_⟩
      exact reads_skipComma_false hgap (still_close hclose rest) (by rintro c ⟨⟩; decide)
  | @cons _ _ text before after _ htext hbefore hafter hrow =>
      cases hrow
      refine ⟨text, before ++ ',' :: after, true, by simp, htext, ?_, ?_⟩
      · rw [List.append_assoc]
        exact hbefore.parted_cons rfl _
      · exact reads_skipComma_true hbefore hafter (still_close hclose rest)

theorem reads_readCoordinate (found : Nat) {blank text gap rest : List Char} {x : Single}
    {comma : Bool} (hblank : Blank blank) (htext : NumberText x text)
    (hparted : Parted (gap ++ rest)) (hgap : Reads skipComma gap rest comma) :
    Reads (readCoordinate found true) (blank ++ (text ++ gap)) rest (x, comma) := by
  intro p
  have hfloat := reads_readFloat htext hparted (p.past blank)
  have hopens := htext.opens
  simp only [readCoordinate, List.append_assoc, skips_skipBlank hblank (hopens.still _) p, bind,
    Except.bind]
  cases text with
  | nil => cases hopens
  | cons c text =>
      obtain ⟨-, -, hclose⟩ := hopens
      split
      · rename_i heq
        cases heq
      · rename_i heq
        exact absurd (List.cons.inj heq).1 hclose
      · simp only [if_true, hfloat, hgap _, Position.past_append]
        rfl

/-- **A pair** of numbers. -/
theorem reads_readPair {x y : Single} {text : List Char}
    (h : Group NumberText [x, y] text) (rest : List Char) :
    Reads readPair text rest (x, y) := by
  obtain @⟨blank, row, hblank, hrow⟩ := h
  cases hrow with
  | @cons _ _ first before after row hfirst hbefore hafter hrow =>
      obtain ⟨second, gap, comma, rfl, hsecond, hparted, hgap⟩ := exists_of_row_singleton hrow rest
      have hparted' : Parted ((before ++ ',' :: after) ++ (second ++ gap ++ ')' :: rest)) := by
        rw [List.append_assoc]
        exact hbefore.parted_cons rfl _
      have hstill : Still (second ++ gap ++ ')' :: rest) := by
        rw [List.append_assoc]
        exact hsecond.opens.still _
      have hcomma := reads_skipComma_true hbefore hafter hstill
      intro p
      have hx := reads_readCoordinate 0 hblank hfirst hparted' hcomma (p.after '(')
      have hy := reads_readCoordinate 1 .nil hsecond hparted hgap
        ((p.after '(').past (blank ++ (first ++ (before ++ ',' :: after))))
      simp only [List.append_assoc, List.cons_append, List.nil_append] at hx hy ⊢
      simp only [readPair, bind, Except.bind, skipText_cons "(" (c := '(') rfl, hx, hy,
        skipText_cons ")" (c := ')') rfl]
      simp
      rfl

/-! ## Reading the text box and the settings -/

theorem gives_boxField (skip : Skipper) (draft : BoxDraft) (entry : BoxEntry)
    {text rest : List Char} (h : entry.Text text) (hrest : Parted rest) :
    Gives (readField "LayoutBox" boxFields skip draft) text rest (boxSlots.take draft entry) := by
  refine gives_readField entry.1.isPlainName_name h entry.1.find?_boxFields ?_
  intro value hvalue
  refine ⟨hvalue.opens.still rest, ?_⟩
  have hread : Gives readFloat value rest (.ok entry.2) := reads_readFloat hvalue hrest
  exact hread.map fun x => entry.1.put draft x

theorem gives_readBox (bare : Bool) {entries : List BoxEntry} {text : List Char}
    (h : StructText "LayoutBox" BoxEntry.Text entries text) (rest : List Char) :
    Gives (readBox bare) text rest ((boxSlots.takeAll entries).map BoxDraft.toBox) := by
  refine Gives.map (gives_readStruct (by decide) ?_ ?_ h boxSlots.empty rest) BoxDraft.toBox
  · intro entry text htext
    exact FieldText.opens entry.1.isPlainName_name htext
  · intro draft entry text rest htext hrest
    exact gives_boxField _ draft entry htext hrest

theorem Entry.Value.still {entry : Entry} {value : List Char} (h : entry.Value value)
    (rest : List Char) : Still (value ++ rest) := by
  cases h with
  | prompt _ => exact still_cons rfl (by decide) _
  | textBox hstruct =>
      obtain ⟨c, tail, rfl, hseparator, hslash, -⟩ := hstruct.starts (by decide)
      exact still_cons hseparator hslash _
  | promptOrigin hgroup =>
      obtain ⟨-, -⟩ := hgroup
      exact still_cons rfl (by decide) _

/-- What an entry comes to in a draft that does not have its field. -/
def Entry.outcome (draft : Draft) (entry : Entry) : Except Fault Draft :=
  match entry.fault? with
  | some fault => .error fault
  | none => .ok (entry.put draft)

/-- What a box comes to in a draft. One that repeats a field is refused inside it, so before the
draft has the box. -/
theorem gives_textBox {bare : Bool} {entries : List BoxEntry} {value rest : List Char}
    (h : Gives (readBox bare) value rest ((boxSlots.takeAll entries).map BoxDraft.toBox))
    (draft : Draft) :
    Gives (fun s => do let (x, s) ← readBox bare s; pure ({ draft with textBox := some x }, s))
      value rest ((Entry.textBox entries).outcome draft) := by
  rw [map_toBox_takeAll] at h
  have hmap := h.map fun x => { draft with textBox := some x }
  rw [Entry.outcome]
  cases hfault : (Entry.textBox entries).fault? with
  | none =>
      rw [hfault] at hmap
      exact hmap
  | some fault =>
      rw [hfault] at hmap
      exact hmap

/-- Every entry has its field, which reads its values. -/
theorem settingsFields_spec (bare : Bool) (entry : Entry) :
    ∃ field, (settingsFields bare).find? (fun field => field.name == entry.name) = some field ∧
      (∀ draft, field.given draft = entry.given draft) ∧
      ∀ draft value rest, entry.Value value →
        Gives (field.read draft) value rest (entry.outcome draft) := by
  cases entry with
  | prompt prompt =>
      refine ⟨_, rfl, fun draft => rfl, ?_⟩
      rintro draft value rest (hspelled | _ | _)
      have hread : Gives readString _ rest (.ok prompt) := reads_readString hspelled rest
      exact hread.map fun x => { draft with prompt := some x }
  | textBox entries =>
      refine ⟨_, rfl, fun draft => rfl, ?_⟩
      rintro draft value rest (_ | hstruct | _)
      exact gives_textBox (gives_readBox bare hstruct rest) draft
  | promptOrigin x y =>
      refine ⟨_, rfl, fun draft => rfl, ?_⟩
      rintro draft value rest (_ | _ | hgroup)
      have hread : Gives readPair value rest (.ok (x, y)) := reads_readPair hgroup rest
      exact hread.map fun z => { draft with promptOrigin := some z }

/-- The field of an entry takes the entry, with whatever values it reads to the entry. -/
theorem gives_settingsField_of_values {bare : Bool} {skip : Skipper} {draft : Draft} {entry : Entry}
    {field : Field Draft}
    (hfind : (settingsFields bare).find? (fun field => field.name == entry.name) = some field)
    {Value : List Char → Prop} {text rest : List Char} (h : FieldText entry.name Value text)
    (hvalue : ∀ value, Value value → Still (value ++ rest) ∧
      Gives (field.read draft) value rest (entry.outcome draft)) :
    Gives (readField "ShellConfig" (settingsFields bare) skip draft) text rest
      (settingsSlots.take draft entry) := by
  obtain ⟨field', hfind', hgiven, -⟩ := settingsFields_spec bare entry
  obtain rfl : field' = field := Option.some.inj (hfind'.symm.trans hfind)
  have hfield : Gives (readField "ShellConfig" (settingsFields bare) skip draft) text rest
      (if field'.given draft then .error (.duplicateField entry.name "ShellConfig") else _) :=
    gives_readField entry.isPlainName_name h hfind hvalue
  rwa [hgiven draft] at hfield

theorem gives_settingsField (bare : Bool) (skip : Skipper) (draft : Draft) (entry : Entry)
    {text : List Char} (h : entry.Text text) (rest : List Char) :
    Gives (readField "ShellConfig" (settingsFields bare) skip draft) text rest
      (settingsSlots.take draft entry) := by
  obtain ⟨field, hfind, -, hread⟩ := settingsFields_spec bare entry
  exact gives_settingsField_of_values hfind h fun value hvalue =>
    ⟨hvalue.still rest, hread draft value rest hvalue⟩

/-! ## Reading a listing -/

theorem readAttributes_of_head {c : Char} (hc : c ≠ '#') (bare : Bool) (rest : List Char)
    (p : Position) : readAttributes bare ⟨c :: rest, p⟩ = .ok (bare, ⟨c :: rest, p⟩) := by
  rw [readAttributes]
  simp [startsWith, hc.symm]
  rfl

theorem gives_readSettings (bare : Bool) {entries : List Entry} {text : List Char}
    (h : StructText "ShellConfig" Entry.Text entries text) (rest : List Char) :
    Gives (readStruct "ShellConfig" (settingsFields bare) (skipValue bare valueDepth) {}) text rest
      (settingsSlots.takeAll entries) := by
  refine gives_readStruct (by decide) ?_ ?_ h settingsSlots.empty rest
  · intro entry text htext
    exact FieldText.opens entry.isPlainName_name htext
  · intro draft entry text rest htext _
    exact gives_settingsField bare _ draft entry htext rest

/-- A whole text comes to what its structure comes to. -/
theorem readDraft_of_gives {before struct after : List Char} (hbefore : Blank before)
    (hafter : Blank after)
    (hstarts : ∃ c tail, struct = c :: tail ∧ isSeparator c = false ∧ c ≠ '/' ∧ c ≠ '#')
    {outcome : Except Fault Draft}
    (hgives : Gives
      (readStruct "ShellConfig" (settingsFields false) (skipValue false valueDepth) {})
      struct after outcome) :
    (∃ draft, outcome = .ok draft ∧ readDraft (before ++ (struct ++ after)) = .ok draft) ∨
    ∃ fault q, outcome = .error fault ∧
      readDraft (before ++ (struct ++ after)) = .error ⟨fault, q⟩ := by
  obtain ⟨c, tail, rfl, hseparator, hslash, hhash⟩ := hstarts
  have hstart := skips_skipBlank hbefore (still_cons hseparator hslash (tail ++ after)) {}
  have hnil : Still [] := by simp [Still]
  have hend := skips_skipBlank hafter hnil
  rw [Skips, List.append_nil] at hend
  cases outcome with
  | ok draft =>
      left
      have hread := hgives (Position.past {} before)
      rw [List.cons_append] at hread
      refine ⟨draft, rfl, ?_⟩
      simp only [readDraft, List.cons_append, hstart, bind, Except.bind,
        readAttributes_of_head hhash, hread, hend, List.isEmpty_nil, if_true]
      rfl
  | error fault =>
      right
      obtain ⟨q, hread⟩ := hgives (Position.past {} before)
      rw [List.cons_append] at hread
      refine ⟨fault, q, rfl, ?_⟩
      simp only [readDraft, List.cons_append, hstart, bind, Except.bind,
        readAttributes_of_head hhash, hread]

/-- **A listing** comes to what taking its entries one after another comes to. -/
theorem readDraft_of_listing {entries : List Entry} {text : List Char}
    (h : Listing entries text) :
    (∃ draft, settingsSlots.takeAll entries = .ok draft ∧ readDraft text = .ok draft) ∨
    ∃ fault q, settingsSlots.takeAll entries = .error fault ∧
      readDraft text = .error ⟨fault, q⟩ := by
  obtain @⟨before, struct, after, hbefore, hstruct, hafter⟩ := h
  exact readDraft_of_gives hbefore hafter (hstruct.starts (by decide))
    (gives_readSettings false hstruct after)

theorem parse_of_distinct {entries : List Entry} {text : String}
    (h : Listing entries text.toList) (hdistinct : Distinct entries) :
    parse text = if (settingsOf entries).prompt = "" then .error .emptyPrompt
      else .ok (settingsOf entries) := by
  rcases takeAll_settingsSlots_cases entries with ⟨-, hmap⟩ | ⟨fault, hrepeated, -⟩
  · rcases readDraft_of_listing h with ⟨draft, hok, hread⟩ | ⟨fault, q, herror, -⟩
    · rw [hok] at hmap
      have hsettings : draft.toSettings = settingsOf entries := Except.ok.inj hmap
      simp only [parse, hread, hsettings, String.isEmpty_iff]
    · rw [herror] at hmap
      cases hmap
  · exact absurd hdistinct hrepeated.not_distinct

theorem parse_of_not_distinct {entries : List Entry} {text : String}
    (h : Listing entries text.toList) (hdistinct : ¬ Distinct entries) :
    ∃ failure, parse text = .error (.text failure) ∧ Repeated entries failure.fault := by
  rcases takeAll_settingsSlots_cases entries with ⟨hnot, -⟩ | ⟨fault, hrepeated, htake⟩
  · exact absurd hnot hdistinct
  · rcases readDraft_of_listing h with ⟨draft, hok, -⟩ | ⟨fault', q, herror, hread⟩
    · rw [htake] at hok
      cases hok
    · rw [htake] at herror
      cases herror
      exact ⟨⟨fault, q⟩, by simp only [parse, hread], hrepeated⟩

/-- **Any listing of fields, in any order.** Without repetitions it reads as the defaults with the
listed values put over them, unless that leaves the prompt empty; with a repetition on either level
it is refused for a field listed twice. -/
theorem parse_listing {entries : List Entry} {text : String} (h : Listing entries text.toList) :
    (Distinct entries → parse text =
      if (settingsOf entries).prompt = "" then .error .emptyPrompt
      else .ok (settingsOf entries)) ∧
    (¬ Distinct entries → ∃ failure, parse text = .error (.text failure) ∧
      Repeated entries failure.fault) :=
  ⟨parse_of_distinct h, parse_of_not_distinct h⟩

/-- Fields out of their order, a comment, commas behind last items, escapes in the prompt. -/
def patchyText : String :=
  "ShellConfig( // hub\n prompt_origin:(1.5,-inf,), text_box:(slack:.5 ,width:1e1), " ++
    "prompt:\"\\u\x7b3e\x7d\\\"é\",)"

def patchyEntries : List Entry :=
  [.promptOrigin (Single.ofDecimal false 15 (-1)) (.infinite true),
    .textBox [(.slack, Single.ofDecimal false 5 (-1)), (.width, 10)], .prompt ">\"é"]

theorem listing_patchyText : Listing patchyEntries patchyText.toList := by
  have hspace : Blank [' '] := .separator rfl .nil
  have hcomment : Blank " // hub\n ".toList :=
    .separator rfl (.lineComment (by decide : '\n' ∉ " hub".toList) hspace)
  have hx : NumberText (Single.ofDecimal false 15 (-1)) "1.5".toList := ⟨⟨1, 4⟩, by decide +kernel⟩
  have hy : NumberText (.infinite true) "-inf".toList := ⟨⟨1, 5⟩, by decide +kernel⟩
  have hpair := Row.cons hx .nil .nil (.cons hy .nil .nil .nil)
  have horigin : Entry.Text _ "prompt_origin:(1.5,-inf,)".toList :=
    FieldText.intro .nil .nil (Entry.Value.promptOrigin (.intro .nil hpair))
  have hslack : BoxEntry.Text (.slack, Single.ofDecimal false 5 (-1)) "slack:.5".toList :=
    .intro .nil .nil ⟨⟨1, 3⟩, by decide +kernel⟩
  have hwidth : BoxEntry.Text (.width, 10) "width:1e1".toList :=
    .intro .nil .nil ⟨⟨1, 4⟩, by decide +kernel⟩
  have hrow := Row.cons hslack hspace .nil (.last hwidth .nil)
  have hbox : Entry.Text _ "text_box:(slack:.5 ,width:1e1)".toList :=
    FieldText.intro .nil .nil (Entry.Value.textBox (.intro .absent (.intro .nil hrow)))
  have hgreater : Escaped "u\x7b3e\x7d".toList '>' :=
    .code (by decide : ['3', 'e'] ≠ []) (by decide) (by decide)
  have hquote : Escaped ['"'] '"' := .short (by decide)
  have hspelled : Spelled "\\u\x7b3e\x7d\\\"é".toList ">\"é".toList :=
    .escape hgreater (.escape hquote (.plain (by decide) (by decide) .nil))
  have hprompt : Entry.Text (.prompt ">\"é") "prompt:\"\\u\x7b3e\x7d\\\"é\"".toList :=
    .intro .nil .nil (.prompt hspelled)
  have hfields :=
    Row.cons horigin .nil hspace (.cons hbox .nil hspace (.cons hprompt .nil .nil .nil))
  have hlisting := Listing.intro .nil (.intro (.named .nil) (.intro hcomment hfields)) .nil
  refine Eq.mpr (congrArg (Listing _) ?_) hlisting
  decide +kernel

/-- An empty prompt, and one field twice in the text box. -/
def doubledText : String :=
  "(prompt:\"\",text_box:(width:1,slack:1,width:1))"

def doubledEntries : List Entry :=
  [.prompt "", .textBox [(.width, 1), (.slack, 1), (.width, 1)]]

theorem listing_doubledText : Listing doubledEntries doubledText.toList := by
  have hone : NumberText 1 ['1'] := ⟨⟨1, 2⟩, by decide +kernel⟩
  have hwidth : BoxEntry.Text (.width, 1) "width:1".toList := .intro .nil .nil hone
  have hslack : BoxEntry.Text (.slack, 1) "slack:1".toList := .intro .nil .nil hone
  have hrow := Row.cons hwidth .nil .nil (.cons hslack .nil .nil (.last hwidth .nil))
  have hbox : Entry.Text _ "text_box:(width:1,slack:1,width:1)".toList :=
    FieldText.intro .nil .nil (Entry.Value.textBox (.intro .absent (.intro .nil hrow)))
  have hempty : Spelled [] "".toList := .nil
  have hprompt : Entry.Text (.prompt "") "prompt:\"\"".toList :=
    FieldText.intro .nil .nil (Entry.Value.prompt hempty)
  have hfields := Row.cons hprompt .nil .nil (.last hbox .nil)
  have hlisting := Listing.intro .nil (.intro .absent (.intro .nil hfields)) .nil
  refine Eq.mpr (congrArg (Listing _) ?_) hlisting
  decide +kernel

theorem parse_listing_patchyText_doubledText :
    Listing patchyEntries patchyText.toList ∧ Distinct patchyEntries ∧
    parse patchyText = .ok
      { prompt := ">\"é"
        textBox := { width := 10, slack := Single.ofDecimal false 5 (-1) }
        promptOrigin := (Single.ofDecimal false 15 (-1), .infinite true) } ∧
    Listing doubledEntries doubledText.toList ∧ ¬ Distinct doubledEntries ∧
    ∃ failure, parse doubledText = .error (.text failure) ∧ Repeated doubledEntries failure.fault :=
  ⟨listing_patchyText, by decide, (parse_listing listing_patchyText).1 (by decide),
    listing_doubledText, by decide, (parse_listing listing_doubledText).2 (by decide)⟩

end TextAdventure.Settings
