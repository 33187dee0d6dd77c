import Mathlib.Data.List.ReduceOption
import TextAdventure.Proofs.Settings.Listing
import TextAdventure.Proofs.Settings.Values

/-!
# Unknown fields

Fields that the settings do not have may stand among those that they have, of the settings and of
the text box. Reading goes past them without a trace, so the text reads as the listing of the other
fields, as long as their values are not nested too deeply (`readDraft_of_wideListing`). How deep
that is follows from the depth that is left where a value stands: two levels go into every list or
tuple.
-/

namespace TextAdventure.Settings

open Source

/-! ## Texts with unknown fields -/

/-- A field with a name that is not among the known ones, and a value nested up to a depth. -/
inductive UnknownText (known : List String) (nesting : Nat) : List Char → Prop
  | intro {name : String} {spelling before after value : List Char} : name ∉ known →
      NameText name spelling → Blank before → Blank after → ValueText nesting value →
      UnknownText known nesting (spelling ++ (before ++ ':' :: (after ++ value)))

/-- An item, or a field that is none. -/
inductive OrUnknown {ι : Type} (Item : ι → List Char → Prop) (Unknown : List Char → Prop) :
    Option ι → List Char → Prop
  | known {i : ι} {text : List Char} : Item i text → OrUnknown Item Unknown (some i) text
  | unknown {text : List Char} : Unknown text → OrUnknown Item Unknown none text

def settingsNames : List String := ["prompt", "text_box", "prompt_origin"]

def boxNames : List String :=
  ["origin_x", "origin_y", "width", "slack", "line_height", "advance"]

/-- The texts of an entry's value, with unknown fields in a text box. -/
inductive Entry.WideValue (nesting : Nat) : Entry → List Char → Prop
  | textBox {items : List (Option BoxEntry)} {text : List Char} :
      StructText "LayoutBox" (OrUnknown BoxEntry.Text (UnknownText boxNames nesting)) items text →
      Entry.WideValue nesting (.textBox items.reduceOption) text
  | plain {entry : Entry} {text : List Char} : entry.Value text → Entry.WideValue nesting entry text

def Entry.WideText (nesting : Nat) (entry : Entry) : List Char → Prop :=
  FieldText entry.name (entry.WideValue nesting)

/-- The texts that list entries as the fields of a structure, with unknown fields anywhere among
them. Values of unknown fields are nested up to `outer`, and up to `inner` in a text box. -/
inductive WideListing (outer inner : Nat) (entries : List Entry) : List Char → Prop
  | intro {items : List (Option Entry)} {before struct after : List Char} :
      items.reduceOption = entries → Blank before →
      StructText "ShellConfig"
        (OrUnknown (Entry.WideText inner) (UnknownText settingsNames outer)) items struct →
      Blank after → WideListing outer inner entries (before ++ (struct ++ after))

/-! ## Going past unknown fields -/

theorem Source.NameText.opens {name : String} {text : List Char} (h : NameText name text)
    (rest : List Char) : Opens ')' (text ++ rest) := by
  cases h with
  | plain hname => exact opens_append hname rest
  | raw _ _ => exact ⟨by decide, by decide, by decide⟩

theorem UnknownText.opens {known : List String} {nesting : Nat} {text : List Char}
    (h : UnknownText known nesting text) : Opens ')' text := by
  obtain ⟨-, hspelling, -, -, -⟩ := h
  exact hspelling.opens _

section Structures

variable {σ ι : Type} {structName : String} {fields : List (Field σ)} {skip : Skipper}

/-- **A field of another name** leaves the draft as it is, and its value decides. -/
theorem readField_of_notMem {name : String} (hname : name ∉ fields.map Field.name)
    {spelling before after value : List Char} (hspelling : NameText name spelling)
    (hbefore : Blank before) (hafter : Blank after) {rest : List Char}
    (hstill : Still (value ++ rest)) (draft : σ) (p : Position) :
    readField structName fields skip draft
        ⟨spelling ++ (before ++ ':' :: (after ++ value)) ++ rest, p⟩
      = (fun s => (draft, s)) <$>
          skip ⟨value ++ rest, p.past (spelling ++ (before ++ ':' :: after))⟩ := by
  have hfind : fields.find? (fun field => field.name == name) = none := by
    rw [List.find?_eq_none]
    intro field hfield
    rw [beq_iff_eq]
    rintro rfl
    exact hname (List.mem_map_of_mem hfield)
  have hread := hspelling.reads (hbefore.parted_cons (c := ':') rfl (after ++ (value ++ rest))) p
  have hcolon := still_cons (c := ':') rfl (by decide) (after ++ (value ++ rest))
  simp only [readField, List.append_assoc, List.cons_append, hread, hfind, skipEntry, bind,
    Except.bind, skips_skipBlank hbefore hcolon _, skipText_cons ":" (c := ':') rfl,
    skips_skipBlank hafter hstill _, Position.past_append, Position.past_cons]
  rfl

/-- Takes an item, and nothing from an unknown field. -/
def taking (step : σ → ι → Except Fault σ) (draft : σ) : Option ι → Except Fault σ
  | some i => step draft i
  | none => .ok draft

theorem foldlM_taking (step : σ → ι → Except Fault σ) (items : List (Option ι)) (draft : σ) :
    items.foldlM (taking step) draft = items.reduceOption.foldlM step draft := by
  induction items generalizing draft with
  | nil => rfl
  | cons item items ih =>
      cases item with
      | none => exact ih draft
      | some i =>
          rw [List.reduceOption_cons_of_some, List.foldlM_cons, List.foldlM_cons]
          exact bind_congr fun draft => ih draft

/-- **A structure with unknown fields** comes to what taking the known ones comes to. -/
theorem gives_readStruct_orUnknown {Item : ι → List Char → Prop} {step : σ → ι → Except Fault σ}
    {nesting : Nat} (hname : isPlainName structName.toList = true)
    (hopens : ∀ i text, Item i text → Opens ')' text)
    (hitem : ∀ draft i text rest, Item i text → Parted rest →
      Gives (readField structName fields skip draft) text rest (step draft i))
    (hskip : ∀ value rest, ValueText nesting value → Parted rest → Skips skip value rest)
    {items : List (Option ι)} {text : List Char}
    (htext : StructText structName
      (OrUnknown Item (UnknownText (fields.map Field.name) nesting)) items text)
    (draft : σ) (rest : List Char) :
    Gives (readStruct structName fields skip draft) text rest
      (items.reduceOption.foldlM step draft) := by
  rw [← foldlM_taking]
  refine gives_readStruct hname ?_ ?_ htext draft rest
  · rintro _ text (htext | htext)
    · exact hopens _ _ htext
    · exact htext.opens
  · rintro draft _ text rest (htext | htext) hrest
    · exact hitem draft _ text rest htext hrest
    · obtain @⟨name, spelling, before, after, value, hname, hspelling, hbefore, hafter, hvalue⟩ :=
        htext
      intro p
      have hstill := (hvalue.opens (by decide : ')' ∈ closers)).still rest
      rw [readField_of_notMem hname hspelling hbefore hafter hstill, hskip value rest hvalue hrest]
      simp

end Structures

/-! ## The text box and the settings -/

theorem Entry.WideValue.still {nesting : Nat} {entry : Entry} {value : List Char}
    (h : entry.WideValue nesting value) (rest : List Char) : Still (value ++ rest) := by
  cases h with
  | textBox hstruct =>
      obtain ⟨c, tail, rfl, hseparator, hslash, -⟩ := hstruct.starts (by decide)
      exact still_cons hseparator hslash _
  | plain hvalue => exact hvalue.still rest

section Depths

variable {outer inner : Nat} (houter : 2 * outer ≤ valueDepth) (hinner : 2 * inner ≤ valueDepth - 2)

include hinner

theorem gives_readBox_orUnknown (bare : Bool) {items : List (Option BoxEntry)} {text : List Char}
    (h : StructText "LayoutBox" (OrUnknown BoxEntry.Text (UnknownText boxNames inner)) items text)
    (rest : List Char) :
    Gives (readBox bare) text rest
      ((boxSlots.takeAll items.reduceOption).map BoxDraft.toBox) := by
  refine Gives.map (gives_readStruct_orUnknown (by decide) ?_ ?_ ?_ h boxSlots.empty rest)
    BoxDraft.toBox
  · intro entry text htext
    exact FieldText.opens entry.1.isPlainName_name htext
  · intro draft entry text rest htext hrest
    exact gives_boxField _ draft entry htext hrest
  · intro value rest hvalue hrest
    exact skips_skipValue bare hvalue hinner hrest

theorem gives_settingsField_wide (bare : Bool) (skip : Skipper) (draft : Draft) (entry : Entry)
    {text : List Char} (h : entry.WideText inner text) (rest : List Char) :
    Gives (readField "ShellConfig" (settingsFields bare) skip draft) text rest
      (settingsSlots.take draft entry) := by
  obtain ⟨field, hfind, -, hread⟩ := settingsFields_spec bare entry
  refine gives_settingsField_of_values hfind h fun value hvalue => ⟨hvalue.still rest, ?_⟩
  cases hvalue with
  | plain hvalue => exact hread draft value rest hvalue
  | textBox hstruct =>
      cases hfind
      exact gives_textBox (gives_readBox_orUnknown hinner bare hstruct rest) draft

include houter

/-- **A listing among unknown fields** comes to what taking its entries comes to. -/
theorem readDraft_of_wideListing {entries : List Entry} {text : List Char}
    (h : WideListing outer inner entries text) :
    (∃ draft, settingsSlots.takeAll entries = .ok draft ∧ readDraft text = .ok draft) ∨
    ∃ fault q, settingsSlots.takeAll entries = .error fault ∧
      readDraft text = .error ⟨fault, q⟩ := by
  obtain @⟨items, before, struct, after, rfl, hbefore, hstruct, hafter⟩ := h
  refine readDraft_of_gives hbefore hafter (hstruct.starts (by decide)) ?_
  refine gives_readStruct_orUnknown (by decide) ?_ ?_ ?_ hstruct settingsSlots.empty after
  · intro entry text htext
    exact FieldText.opens entry.isPlainName_name htext
  · intro draft entry text rest htext _
    exact gives_settingsField_wide hinner false _ draft entry htext rest
  · intro value rest hvalue hrest
    exact skips_skipValue false hvalue houter hrest

end Depths

/-! ## Values nested too deeply -/

/-- So many lists, one in the other. -/
def brackets : Nat → List Char
  | 0 => []
  | n + 1 => '[' :: (brackets n ++ [']'])

theorem valueText_brackets (n more : Nat) : ValueText (n + 1 + more) (brackets (n + 1)) := by
  induction n with
  | zero =>
      rw [Nat.zero_add, Nat.add_comm 1 more]
      exact ValueOf.list .nil .nil
  | succ n ih =>
      have hrow : Row (fun _ : Unit => ValueText (n + 1 + more)) [()] (brackets (n + 1) ++ []) :=
        .last ih .nil
      rw [List.append_nil] at hrow
      rw [Nat.add_right_comm (n + 1) 1 more]
      exact ValueOf.list .nil hrow

theorem skipItems_eq_error {close : Char} {text rest : List Char} (hopens : Opens close text)
    {skip : Skipper} {fault : Fault}
    (hskip : ∀ p, ∃ q, skip ⟨text ++ rest, p⟩ = .error ⟨fault, q⟩) (missing : Fault)
    (p : Position) :
    ∃ q, skipItems close skip missing ⟨text ++ rest, p⟩ = .error ⟨fault, q⟩ := by
  let item : Unit → Reader Unit := fun () t => (fun u => ((), u)) <$> skip t
  have hitem : Refuses (item ()) text rest fault := by
    intro p
    obtain ⟨q, hq⟩ := hskip p
    refine ⟨q, ?_⟩
    simp only [item, hq]
    rfl
  obtain ⟨q, hq⟩ := refuses_readItems hopens .nil hitem p
  refine ⟨q, ?_⟩
  have hitems : readItems close (fun () t => (fun u => ((), u)) <$> skip t) () true
      ⟨text ++ rest, p⟩ = .error ⟨fault, q⟩ := hq
  simp only [skipItems, bind, Except.bind, hitems]

/-- One list too many for the depth that is left. By induction on the lists: each takes two levels,
and the innermost stands where none is left. -/
theorem skipValue_brackets (bare : Bool) (n : Nat) (rest : List Char) (p : Position) :
    ∃ q, skipValue bare (2 * n) ⟨brackets (n + 1) ++ rest, p⟩ = .error ⟨.tooDeep, q⟩ := by
  induction n generalizing rest p with
  | zero =>
      refine ⟨p.after '[', ?_⟩
      exact skipValueWith_bracket bare ⟨failTooDeep, none⟩ (']' :: rest) p
  | succ n ih =>
      have hopens : Opens ']' (brackets (n + 1)) := ⟨by decide, by decide, by decide⟩
      obtain ⟨q, hq⟩ :=
        skipItems_eq_error hopens (ih (']' :: rest)) .expectedListEnd (p.after '[')
      refine ⟨q, ?_⟩
      have hsplit : brackets (n + 1 + 1) ++ rest = '[' :: (brackets (n + 1) ++ ']' :: rest) := by
        simp [brackets]
      have hdepth : skipValue bare (2 * (n + 1)) = skipValueWith bare
          ⟨skipValue bare (2 * n + 1), some (some (skipValue bare (2 * n)))⟩ := rfl
      rw [hsplit, hdepth, skipValueWith_bracket]
      exact hq

/-- A field with one list more than `n`. -/
def deepField (n : Nat) : List Char := 'x' :: ':' :: brackets (n + 1)

def deepGroup (n : Nat) : List Char := '(' :: (deepField n ++ [')'])

theorem unknownText_deepField {known : List String} (hknown : "x" ∉ known) (n more : Nat) :
    UnknownText known (n + 1 + more) (deepField n) := by
  have hname : NameText "x" ['x'] := .plain (by decide)
  exact .intro hknown hname .nil .nil (valueText_brackets n more)

section Refusals

variable {σ : Type} {structName : String} {fields : List (Field σ)}
  (hname : isPlainName structName.toList = true) (hfields : "x" ∉ fields.map Field.name)

include hfields

theorem refuses_deepField (bare : Bool) (n : Nat) (draft : σ) (rest : List Char) :
    Refuses (readField structName fields (skipValue bare (2 * n)) draft) (deepField n) rest
      .tooDeep := by
  intro p
  have hspelling : NameText "x" ['x'] := .plain (by decide)
  have hstill : Still (brackets (n + 1) ++ rest) := still_cons (c := '[') rfl (by decide) _
  have hread : readField structName fields (skipValue bare (2 * n)) draft ⟨deepField n ++ rest, p⟩
      = (fun s => (draft, s)) <$>
          skipValue bare (2 * n) ⟨brackets (n + 1) ++ rest, p.past ['x', ':']⟩ :=
    readField_of_notMem hfields hspelling .nil .nil hstill draft p
  obtain ⟨q, hq⟩ := skipValue_brackets bare n rest (p.past ['x', ':'])
  refine ⟨q, ?_⟩
  rw [hread, hq]
  rfl

include hname

theorem refuses_deepGroup (bare : Bool) (n : Nat) (draft : σ) (rest : List Char) :
    Refuses (readStruct structName fields (skipValue bare (2 * n)) draft) (deepGroup n) rest
      .tooDeep := by
  let Item : Unit → List Char → Prop := fun _ text => text = deepField n
  let step : σ → Unit → Except Fault σ := fun _ _ => .error .tooDeep
  have hrow : Row Item [()] (deepField n ++ []) := .last rfl .nil
  have hstruct : StructText structName Item [()] (deepGroup n) := by
    have hwhole : StructText structName Item [()] ([] ++ _) := .intro .absent (.intro .nil hrow)
    simpa [deepGroup] using hwhole
  have hopens : ∀ i text, Item i text → Opens ')' text := by
    rintro _ _ rfl
    exact ⟨by decide, by decide, by decide⟩
  have hitem : ∀ draft i text rest, Item i text → Parted rest →
      Gives (readField structName fields (skipValue bare (2 * n)) draft) text rest
        (step draft i) := by
    rintro draft _ _ rest rfl _
    exact refuses_deepField hfields bare n draft rest
  exact gives_readStruct hname hopens hitem hstruct draft rest

end Refusals

/-- A text box with a field that is refused. -/
theorem refuses_textBox {value : List Char} {fault : Fault} (hstill : ∀ rest, Still (value ++ rest))
    (h : ∀ rest, Refuses (readBox false) value rest fault) (rest : List Char) :
    Refuses (readStruct "ShellConfig" (settingsFields false) (skipValue false valueDepth) {})
      ('(' :: ("text_box:".toList ++ value ++ [')'])) rest fault := by
  let Item : Unit → List Char → Prop := fun _ => FieldText "text_box" (· = value)
  let step : Draft → Unit → Except Fault Draft := fun draft _ =>
    if draft.textBox.isSome then .error (.duplicateField "text_box" "ShellConfig")
    else .error fault
  have hname : isPlainName "text_box".toList = true := by decide
  have hfield : Item () ("text_box".toList ++ ([] ++ ':' :: ([] ++ value))) := .intro .nil .nil rfl
  have hrow : Row Item [()] _ := .last hfield .nil
  have hstruct : StructText "ShellConfig" Item [()]
      ('(' :: ("text_box:".toList ++ value ++ [')'])) := by
    have hwhole : StructText "ShellConfig" Item [()] ([] ++ _) := .intro .absent (.intro .nil hrow)
    simpa using hwhole
  have hitem : ∀ draft i text rest, Item i text → Parted rest →
      Gives (readField "ShellConfig" (settingsFields false) (skipValue false valueDepth) draft) text
        rest (step draft i) := by
    intro draft i text rest htext _
    have hfind : (settingsFields false).find? (fun field => field.name == "text_box")
        = some _ := rfl
    refine gives_readField hname htext hfind ?_
    rintro _ rfl
    have hbox : Gives (readBox false) _ rest (.error fault) := h rest
    exact ⟨hstill rest, hbox.map fun x => { draft with textBox := some x }⟩
  exact gives_readStruct (by decide) (fun _ _ htext => htext.opens hname) hitem hstruct {} rest

theorem parse_of_refuses {struct : List Char} {fault : Fault}
    (h : Refuses (readStruct "ShellConfig" (settingsFields false) (skipValue false valueDepth) {})
      ('(' :: struct) [] fault) :
    ∃ failure, parse (String.ofList ('(' :: struct)) = .error (.text failure) ∧
      failure.fault = fault := by
  have hgives : Gives
      (readStruct "ShellConfig" (settingsFields false) (skipValue false valueDepth) {})
      ('(' :: struct) [] (.error fault) := h
  have hstarts : ∃ c tail, '(' :: struct = c :: tail ∧ isSeparator c = false ∧ c ≠ '/' ∧ c ≠ '#' :=
    ⟨'(', struct, rfl, by decide, by decide, by decide⟩
  rcases readDraft_of_gives .nil .nil hstarts hgives with
    ⟨draft, hok, -⟩ | ⟨fault, q, hfault, hread⟩
  · cases hok
  · cases hfault
    have htext : (String.ofList ('(' :: struct)).toList = [] ++ ('(' :: struct ++ []) := by simp
    exact ⟨⟨fault, q⟩, by rw [parse, htext, hread], rfl⟩

/-! ## Listings with unknown fields -/

/-- **Unknown fields are inert.** Where a listing is read, so is every listing of the same entries
with other fields among them, of the settings and of the text box, and it comes to the same
settings. The values of the other fields may be nested as far as two levels for each list or tuple
go into the depth that is left. -/
theorem parse_among_unknown_fields {entries : List Entry} {text wide : String}
    {settings : Settings} (h : Listing entries text.toList) (hparse : parse text = .ok settings)
    (hwide : WideListing 63 62 entries wide.toList) : parse wide = .ok settings := by
  rcases readDraft_of_listing h with ⟨draft, htake, hread⟩ | ⟨fault, q, -, hread⟩
  · rcases readDraft_of_wideListing (by decide) (by decide) hwide with
      ⟨draft', htake', hread'⟩ | ⟨fault, q, htake', -⟩
    · rw [htake] at htake'
      cases htake'
      rw [parse, hread']
      rwa [parse, hread] at hparse
    · rw [htake] at htake'
      cases htake'
  · rw [parse, hread] at hparse
    cases hparse

/-- Two fields. -/
def narrowText : String := "(prompt:\"> \",text_box:(width:5))"

def narrowEntries : List Entry := [.prompt "> ", .textBox [(.width, 5)]]

/-- The same two fields among others, whose values hold what parts fields from each other. -/
def wideText : String :=
  "(r#a.b:[1,(true,\"),prompt:\"),], prompt:\"> \",text_box:(x:-0x1f,width:5,y:()),z:+9_0)"

theorem numberText_five : NumberText 5 ['5'] := ⟨⟨1, 2⟩, by decide +kernel⟩

theorem spelled_plain {text : List Char} (hquote : '"' ∉ text) (hbackslash : '\\' ∉ text) :
    Spelled text text := by
  induction text with
  | nil => exact .nil
  | cons c text ih =>
      rw [List.mem_cons, not_or] at hquote hbackslash
      exact .plain (Ne.symm hquote.1) (Ne.symm hbackslash.1) (ih hquote.2 hbackslash.2)

theorem listing_narrowText : Listing narrowEntries narrowText.toList := by
  have hprompt : Entry.Text (.prompt "> ") "prompt:\"> \"".toList :=
    .intro .nil .nil (.prompt (spelled_plain (by decide) (by decide)))
  have hwidth : BoxEntry.Text (.width, 5) "width:5".toList := .intro .nil .nil numberText_five
  have hrow := Row.last hwidth .nil
  have hbox : Entry.Text _ "text_box:(width:5)".toList :=
    FieldText.intro .nil .nil (Entry.Value.textBox (.intro .absent (.intro .nil hrow)))
  have hfields := Row.cons hprompt .nil .nil (.last hbox .nil)
  have hlisting := Listing.intro .nil (.intro .absent (.intro .nil hfields)) .nil
  refine Eq.mpr (congrArg (Listing _) ?_) hlisting
  decide +kernel

/-- A list in which a tuple holds a string that looks like the end of the list and a field. -/
theorem unknownText_list :
    UnknownText settingsNames 63 "r#a.b:[1,(true,\"),prompt:\"),]".toList := by
  have hname : NameText "a.b" "r#a.b".toList := .raw (by decide) (List.all_eq_true.mp (by decide))
  have hnone : ∀ c ∈ ([] : List Char), c = '_' ∨ isDigitOf 10 c = true := by simp
  have hone : IntegerText 1 ['1'] :=
    .intro (by decide : ([], 1) ∈ signs) (by decide : ([], 10) ∈ bases)
      (by decide : isDigitOf 10 '1' = true) hnone
  have htrue : Scalar "true".toList := .truth (by decide)
  have hstring : Scalar "\"),prompt:\"".toList :=
    .string (spelled_plain (by decide : '"' ∉ "),prompt:".toList) (by decide))
  let Inner (n : Nat) : Unit → List Char → Prop := fun _ => ValueText n
  have hfirst : Inner 62 () ['1'] := (Scalar.integer hone (by decide) (by decide)).value 62
  have htruth : Inner 61 () "true".toList := htrue.value 61
  have hlast : Inner 61 () "\"),prompt:\"".toList := hstring.value 61
  have hpair : Row (Inner 61) [(), ()] _ := .cons htruth .nil .nil (.last hlast .nil)
  have htuple : Inner 62 () "(true,\"),prompt:\")".toList := ValueOf.tuple .nil hpair
  have hrow : Row (Inner 62) [(), ()] _ := .cons hfirst .nil .nil (.cons htuple .nil .nil .nil)
  have hlist : ValueText 63 "[1,(true,\"),prompt:\"),]".toList := ValueOf.list .nil hrow
  exact .intro (by decide) hname .nil .nil hlist

/-- Whole numbers in another base, or with an underscore. -/
theorem unknownText_numbers : UnknownText boxNames 62 "x:-0x1f".toList ∧
    UnknownText settingsNames 63 "z:+9_0".toList := by
  have hletter : ∀ c ∈ ['f'], c = '_' ∨ isDigitOf 16 c = true :=
    List.forall_mem_singleton.mpr (.inr rfl)
  have hhex : IntegerText (-31) "-0x1f".toList :=
    .intro (by decide : (['-'], -1) ∈ signs) (by decide : (['0', 'x'], 16) ∈ bases)
      (by decide : isDigitOf 16 '1' = true) hletter
  have hparted : ∀ c ∈ ['_', '0'], c = '_' ∨ isDigitOf 10 c = true :=
    List.forall_mem_cons.mpr ⟨.inl rfl, List.forall_mem_singleton.mpr (.inr rfl)⟩
  have hninety : IntegerText 90 "+9_0".toList :=
    .intro (by decide : (['+'], 1) ∈ signs) (by decide : ([], 10) ∈ bases)
      (by decide : isDigitOf 10 '9' = true) hparted
  have hx : NameText "x" ['x'] := .plain (by decide)
  have hz : NameText "z" ['z'] := .plain (by decide)
  exact ⟨.intro (by decide) hx .nil .nil ((Scalar.integer hhex (by decide) (by decide)).value 62),
    .intro (by decide) hz .nil .nil ((Scalar.integer hninety (by decide) (by decide)).value 63)⟩

theorem wideListing_wideText : WideListing 63 62 narrowEntries wideText.toList := by
  have hy : NameText "y" ['y'] := .plain (by decide)
  have hnone : Row (fun _ : Unit => ValueText 61) [] [] := .nil
  have hunit : UnknownText boxNames 62 "y:()".toList :=
    .intro (by decide) hy .nil .nil (ValueOf.tuple .nil hnone)
  have hwidth : BoxEntry.Text (.width, 5) "width:5".toList := .intro .nil .nil numberText_five
  let BoxItem := OrUnknown BoxEntry.Text (UnknownText boxNames 62)
  have hboxFirst : BoxItem none "x:-0x1f".toList := .unknown unknownText_numbers.1
  have hboxWidth : BoxItem (some (.width, 5)) "width:5".toList := .known hwidth
  have hboxLast : BoxItem none "y:()".toList := .unknown hunit
  have hboxRow := Row.cons hboxFirst .nil .nil (.cons hboxWidth .nil .nil (.last hboxLast .nil))
  have hbox : Entry.WideText 62 (.textBox [(.width, 5)]) "text_box:(x:-0x1f,width:5,y:())".toList :=
    FieldText.intro .nil .nil (.textBox (.intro .absent (.intro .nil hboxRow)))
  have hprompt : Entry.WideText 62 (.prompt "> ") "prompt:\"> \"".toList :=
    FieldText.intro .nil .nil (.plain (.prompt (spelled_plain (by decide) (by decide))))
  have hspace : Blank [' '] := .separator rfl .nil
  have hrow : Row (OrUnknown (Entry.WideText 62) (UnknownText settingsNames 63))
      [none, some (.prompt "> "), some (.textBox [(.width, 5)]), none] _ :=
    .cons (.unknown unknownText_list) .nil hspace (.cons (.known hprompt) .nil .nil
      (.cons (.known hbox) .nil .nil (.last (.unknown unknownText_numbers.2) .nil)))
  have hlisting : WideListing 63 62 narrowEntries _ :=
    .intro rfl .nil (.intro .absent (.intro .nil hrow)) .nil
  refine Eq.mpr (congrArg (WideListing 63 62 narrowEntries) ?_) hlisting
  decide +kernel

theorem parse_wideText_eq_narrowText :
    Listing narrowEntries narrowText.toList ∧
      parse narrowText = .ok { textBox := { width := 5 } } ∧
      WideListing 63 62 narrowEntries wideText.toList ∧
      parse wideText = .ok { textBox := { width := 5 } } := by
  have hnarrow : parse narrowText = .ok { textBox := { width := 5 } } :=
    parse_of_distinct listing_narrowText (by decide)
  exact ⟨listing_narrowText, hnarrow, wideListing_wideText,
    parse_among_unknown_fields listing_narrowText hnarrow wideListing_wideText⟩

/-- A listing of the one field. -/
def deepText (n : Nat) : String := String.ofList (deepGroup n)

/-- A listing of a text box with the one field. -/
def deepBoxText (n : Nat) : String :=
  String.ofList ('(' :: ("text_box:".toList ++ deepGroup n ++ [')']))

theorem wideListing_deepText (n more : Nat) :
    WideListing (n + 1 + more) 100 [] (deepText n).toList := by
  have hfield : OrUnknown (Entry.WideText 100) (UnknownText settingsNames (n + 1 + more)) none
      (deepField n) := .unknown (unknownText_deepField (by decide) n more)
  have hrow : Row _ [none] (deepField n ++ []) := .last hfield .nil
  have hlisting : WideListing (n + 1 + more) 100 [] ([] ++ ([] ++ _ ++ [])) :=
    .intro rfl .nil (.intro .absent (.intro .nil hrow)) .nil
  simpa [deepText, deepGroup] using hlisting

theorem wideValue_deepGroup (n more : Nat) :
    Entry.WideValue (n + 1 + more) (.textBox []) (deepGroup n) := by
  have hfield : OrUnknown BoxEntry.Text (UnknownText boxNames (n + 1 + more)) none (deepField n) :=
    .unknown (unknownText_deepField (by decide) n more)
  have hrow : Row _ [none] (deepField n ++ []) := .last hfield .nil
  have hvalue : Entry.WideValue (n + 1 + more)
      (.textBox ([none] : List (Option BoxEntry)).reduceOption) ([] ++ _) :=
    .textBox (.intro .absent (.intro .nil hrow))
  simpa [deepGroup] using hvalue

theorem wideListing_textBox {outer inner : Nat} {entries : List BoxEntry} {value : List Char}
    (h : Entry.WideValue inner (.textBox entries) value) :
    WideListing outer inner [.textBox entries]
      ('(' :: ("text_box:".toList ++ value ++ [')'])) := by
  have hentry : OrUnknown (Entry.WideText inner) (UnknownText settingsNames outer)
      (some (.textBox entries)) ("text_box".toList ++ ([] ++ ':' :: ([] ++ value))) :=
    .known (FieldText.intro .nil .nil h)
  have hrow : Row _ [some (Entry.textBox entries)] _ := .last hentry .nil
  have hlisting : WideListing outer inner [.textBox entries] ([] ++ ([] ++ _ ++ [])) :=
    .intro rfl .nil (.intro .absent (.intro .nil hrow)) .nil
  simpa using hlisting

theorem wideListing_deepBoxText (n more : Nat) :
    WideListing 100 (n + 1 + more) [.textBox []] (deepBoxText n).toList := by
  have htext : (deepBoxText n).toList = '(' :: ("text_box:".toList ++ deepGroup n ++ [')']) :=
    String.toList_ofList
  rw [htext]
  exact wideListing_textBox (wideValue_deepGroup n more)

theorem parse_deepText :
    ∃ failure, parse (deepText 63) = .error (.text failure) ∧ failure.fault = .tooDeep := by
  have hdepth : valueDepth = 2 * 63 := rfl
  have hname : isPlainName "ShellConfig".toList = true := by decide
  have hfields : "x" ∉ (settingsFields false).map Field.name := by decide
  refine parse_of_refuses ?_
  rw [hdepth]
  exact refuses_deepGroup hname hfields false 63 {} []

theorem refuses_readBox_deepGroup (rest : List Char) :
    Refuses (readBox false) (deepGroup 62) rest .tooDeep := by
  have hname : isPlainName "LayoutBox".toList = true := by decide
  have hfields : "x" ∉ boxFields.map Field.name := by decide
  have hstruct : Refuses (readStruct "LayoutBox" boxFields (skipValue false (2 * 62)) {})
      (deepGroup 62) rest .tooDeep := refuses_deepGroup hname hfields false 62 {} rest
  have hgives : Gives (readStruct "LayoutBox" boxFields (skipValue false (valueDepth - 2)) {})
      (deepGroup 62) rest (.error .tooDeep) := hstruct
  exact hgives.map BoxDraft.toBox

theorem parse_deepBoxText :
    ∃ failure, parse (deepBoxText 62) = .error (.text failure) ∧ failure.fault = .tooDeep := by
  have hstill : ∀ rest, Still (deepGroup 62 ++ rest) :=
    fun rest => still_cons (c := '(') rfl (by decide) _
  exact parse_of_refuses (refuses_textBox hstill refuses_readBox_deepGroup [])

/-- A hundred levels of nesting are too many. One field with `64` lists, put into a listing of no
fields at all, is refused, and so is one with `63` lists in an empty text box. -/
theorem deepText_not_inert :
    (Listing [] "()".toList ∧ parse "()" = .ok {} ∧ WideListing 64 100 [] (deepText 63).toList ∧
      ∃ failure, parse (deepText 63) = .error (.text failure) ∧ failure.fault = .tooDeep) ∧
    Listing [.textBox []] "(text_box:())".toList ∧ parse "(text_box:())" = .ok {} ∧
      WideListing 100 63 [.textBox []] (deepBoxText 62).toList ∧
      ∃ failure, parse (deepBoxText 62) = .error (.text failure) ∧ failure.fault = .tooDeep := by
  have hnone : Listing [] "()".toList :=
    Listing.intro .nil (.intro .absent (.intro .nil .nil)) .nil
  have hbox : Entry.Text (.textBox []) "text_box:()".toList :=
    FieldText.intro .nil .nil (Entry.Value.textBox (.intro .absent (.intro .nil .nil)))
  have hempty : Listing [.textBox []] "(text_box:())".toList :=
    Listing.intro .nil (.intro .absent (.intro .nil (.last hbox .nil))) .nil
  exact ⟨⟨hnone, parse_of_distinct hnone (by decide), wideListing_deepText 63 0, parse_deepText⟩,
    hempty, parse_of_distinct hempty (by decide), wideListing_deepBoxText 62 0, parse_deepBoxText⟩

end TextAdventure.Settings
