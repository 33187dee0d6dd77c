import Mathlib.Data.List.Duplicate
import TextAdventure.Settings.Reader

/-!
# Entries of settings

What a settings text lists: fields of the settings with their values, where the text box is in turn
a list of fields of its own. Reading takes entries one after another into a draft with a slot for
each field (`Slots.take`). Where no field is listed twice, what comes out is the defaults with the
listed values put over them; otherwise it is the fault of a field listed twice
(`takeAll_settingsSlots_cases`).
-/

namespace TextAdventure.Settings

/-! ## Drafts with slots -/

/-- Items that each fill a slot of a draft. An item can also be at fault by itself. -/
structure Slots (σ ι : Type) where
  structName : String
  name : ι → String
  empty : σ
  given : σ → ι → Bool
  fault? : ι → Option Fault
  put : σ → ι → σ
  given_empty : ∀ i, given empty i = false
  given_put : ∀ draft i j, given (put draft i) j = (given draft j || name i == name j)

namespace Slots

variable {σ ι : Type} (slots : Slots σ ι)

/-- Takes an item into a draft, unless its slot is filled. -/
def take (draft : σ) (i : ι) : Except Fault σ :=
  if slots.given draft i then .error (.duplicateField (slots.name i) slots.structName)
  else
    match slots.fault? i with
    | some fault => .error fault
    | none => .ok (slots.put draft i)

/-- What taking items can come to. `before` holds the names of the slots that are filled. -/
theorem foldlM_take_cases {draft : σ} {before : List String} (hbefore : before.Nodup)
    (hgiven : ∀ i, slots.given draft i = true ↔ slots.name i ∈ before) (is : List ι) :
    ((before ++ is.map slots.name).Nodup ∧ (∀ i ∈ is, slots.fault? i = none) ∧
      is.foldlM slots.take draft = .ok (is.foldl slots.put draft)) ∨
    ∃ fault, is.foldlM slots.take draft = .error fault ∧
      ((∃ name, List.Duplicate name (before ++ is.map slots.name) ∧
          fault = .duplicateField name slots.structName) ∨
        ∃ i ∈ is, slots.fault? i = some fault) := by
  induction is generalizing draft before with
  | nil =>
      left
      refine ⟨by simpa using hbefore, by simp, rfl⟩
  | cons i is ih =>
      by_cases hi : slots.given draft i = true
      · -- the slot was filled by an earlier item, whose name stands in `before`
        right
        have hmem : slots.name i ∈ before := (hgiven i).mp hi
        refine ⟨_, by rw [List.foldlM_cons, take, if_pos hi]; rfl, .inl ⟨slots.name i, ?_, rfl⟩⟩
        rw [List.duplicate_iff_sublist]
        exact (List.singleton_sublist.mpr hmem).append (List.singleton_sublist.mpr (by simp))
      cases hfault : slots.fault? i with
      | some fault =>
          right
          refine ⟨fault, ?_, .inr ⟨i, by simp, hfault⟩⟩
          rw [List.foldlM_cons, take, if_neg hi, hfault]
          rfl
      | none =>
          have hstep : slots.take draft i = .ok (slots.put draft i) := by
            rw [take, if_neg hi, hfault]
          have hnew : slots.name i ∉ before := fun hmem => hi ((hgiven i).mpr hmem)
          have hbefore' : (before ++ [slots.name i]).Nodup := by
            rw [List.nodup_append_comm]
            simpa using ⟨hnew, hbefore⟩
          have hgiven' : ∀ j, slots.given (slots.put draft i) j = true ↔
              slots.name j ∈ before ++ [slots.name i] := by
            intro j
            rw [slots.given_put, Bool.or_eq_true, hgiven j, beq_iff_eq]
            simp [eq_comm]
          have hrest := ih hbefore' hgiven'
          rw [List.append_assoc, List.singleton_append] at hrest
          rw [List.foldlM_cons, hstep, List.map_cons]
          rcases hrest with ⟨hnodup, hnone, hok⟩ | ⟨fault, herror, hcause⟩
          · left
            refine ⟨hnodup, ?_, hok⟩
            rintro j (_ | ⟨_, hj⟩)
            · exact hfault
            · exact hnone j hj
          · right
            refine ⟨fault, herror, hcause.imp_right ?_⟩
            rintro ⟨j, hj, hfault⟩
            exact ⟨j, List.mem_cons_of_mem i hj, hfault⟩

/-- The items taken one after another, from an empty draft on. -/
def takeAll (is : List ι) : Except Fault σ :=
  is.foldlM slots.take slots.empty

theorem takeAll_cases (is : List ι) :
    ((is.map slots.name).Nodup ∧ (∀ i ∈ is, slots.fault? i = none) ∧
      slots.takeAll is = .ok (is.foldl slots.put slots.empty)) ∨
    ∃ fault, slots.takeAll is = .error fault ∧
      ((∃ name, List.Duplicate name (is.map slots.name) ∧
          fault = .duplicateField name slots.structName) ∨
        ∃ i ∈ is, slots.fault? i = some fault) :=
  slots.foldlM_take_cases .nil (by simp [slots.given_empty]) is

end Slots

/-! ## Fields -/

/-- The fields of a text box. -/
inductive BoxKey where
  | originX | originY | width | slack | lineHeight | advance
deriving DecidableEq, Repr

namespace BoxKey

def name : BoxKey → String
  | .originX => "origin_x"
  | .originY => "origin_y"
  | .width => "width"
  | .slack => "slack"
  | .lineHeight => "line_height"
  | .advance => "advance"

/-- A box with another value in one field. -/
def set (box : TextBox) (x : Single) : BoxKey → TextBox
  | .originX => { box with originX := x }
  | .originY => { box with originY := x }
  | .width => { box with width := x }
  | .slack => { box with slack := x }
  | .lineHeight => { box with lineHeight := x }
  | .advance => { box with advance := x }

def get (draft : BoxDraft) : BoxKey → Option Single
  | .originX => draft.originX
  | .originY => draft.originY
  | .width => draft.width
  | .slack => draft.slack
  | .lineHeight => draft.lineHeight
  | .advance => draft.advance

def put (draft : BoxDraft) (x : Single) : BoxKey → BoxDraft
  | .originX => { draft with originX := some x }
  | .originY => { draft with originY := some x }
  | .width => { draft with width := some x }
  | .slack => { draft with slack := some x }
  | .lineHeight => { draft with lineHeight := some x }
  | .advance => { draft with advance := some x }

theorem toBox_put (draft : BoxDraft) (x : Single) (key : BoxKey) :
    (key.put draft x).toBox = key.set draft.toBox x := by
  cases key <;> rfl

theorem find?_boxFields (key : BoxKey) :
    boxFields.find? (fun field => field.name == key.name)
      = some (numberField key.name key.get fun draft x => key.put draft x) := by
  cases key <;> rfl

theorem isPlainName_name (key : BoxKey) : isPlainName key.name.toList = true := by
  cases key <;> decide

end BoxKey

/-- A field of a text box with its value. -/
abbrev BoxEntry := BoxKey × Single

/-- The default box with the listed values put over it. -/
def boxOf (entries : List BoxEntry) : TextBox :=
  entries.foldl (fun box entry => entry.1.set box entry.2) {}

def boxSlots : Slots BoxDraft BoxEntry where
  structName := "LayoutBox"
  name entry := entry.1.name
  empty := {}
  given draft entry := (entry.1.get draft).isSome
  fault? _ := none
  put draft entry := entry.1.put draft entry.2
  given_empty := by rintro ⟨key, x⟩; cases key <;> rfl
  given_put := by
    rintro draft ⟨i, x⟩ ⟨j, y⟩
    cases i <;> cases j <;> simp [BoxKey.get, BoxKey.put, BoxKey.name]

/-- A field of the settings with its value. -/
inductive Entry where
  | prompt (text : String)
  | textBox (entries : List BoxEntry)
  | promptOrigin (x y : Single)
deriving DecidableEq, Repr

namespace Entry

def name : Entry → String
  | .prompt _ => "prompt"
  | .textBox _ => "text_box"
  | .promptOrigin _ _ => "prompt_origin"

/-- The fields listed inside an entry. -/
def innerNames : Entry → List String
  | .textBox entries => entries.map fun entry => entry.1.name
  | _ => []

/-- Settings with an entry put over them. -/
def override (settings : Settings) : Entry → Settings
  | .prompt text => { settings with prompt := text }
  | .textBox entries => { settings with textBox := boxOf entries }
  | .promptOrigin x y => { settings with promptOrigin := (x, y) }

def given (draft : Draft) : Entry → Bool
  | .prompt _ => draft.prompt.isSome
  | .textBox _ => draft.textBox.isSome
  | .promptOrigin _ _ => draft.promptOrigin.isSome

def put (draft : Draft) : Entry → Draft
  | .prompt text => { draft with prompt := some text }
  | .textBox entries => { draft with textBox := some (boxOf entries) }
  | .promptOrigin x y => { draft with promptOrigin := some (x, y) }

/-- What is wrong inside an entry. -/
def fault? : Entry → Option Fault
  | .textBox entries =>
    match boxSlots.takeAll entries with
    | .ok _ => none
    | .error fault => some fault
  | _ => none

theorem toSettings_put (draft : Draft) (entry : Entry) :
    (entry.put draft).toSettings = entry.override draft.toSettings := by
  cases entry <;> rfl

theorem isPlainName_name (entry : Entry) : isPlainName entry.name.toList = true := by
  cases entry <;> simp only [name] <;> decide

end Entry

/-- The default settings with the listed values put over them. -/
def settingsOf (entries : List Entry) : Settings :=
  entries.foldl (fun settings entry => entry.override settings) {}

def settingsSlots : Slots Draft Entry where
  structName := "ShellConfig"
  name := Entry.name
  empty := {}
  given draft entry := entry.given draft
  fault? := Entry.fault?
  put draft entry := entry.put draft
  given_empty := by rintro (_ | _ | _) <;> rfl
  given_put := by
    intro draft i j
    cases i <;> cases j <;> simp [Entry.given, Entry.put, Entry.name]

theorem toBox_foldl_put (entries : List BoxEntry) :
    (entries.foldl boxSlots.put boxSlots.empty).toBox = boxOf entries := by
  refine (List.foldl_hom BoxDraft.toBox ?_).symm
  intro draft entry
  exact (entry.1.toBox_put draft entry.2).symm

theorem toSettings_foldl_put (entries : List Entry) :
    (entries.foldl settingsSlots.put settingsSlots.empty).toSettings = settingsOf entries := by
  refine (List.foldl_hom Draft.toSettings ?_).symm
  intro draft entry
  exact (entry.toSettings_put draft).symm

/-- A box that can be read is the listed one. -/
theorem map_toBox_takeAll (entries : List BoxEntry) :
    (boxSlots.takeAll entries).map BoxDraft.toBox =
      match (Entry.textBox entries).fault? with
      | some fault => .error fault
      | none => .ok (boxOf entries) := by
  rcases boxSlots.takeAll_cases entries with ⟨-, -, hok⟩ | ⟨fault, herror, -⟩
  · simp [Entry.fault?, hok, Except.map, toBox_foldl_put]
  · simp [Entry.fault?, herror, Except.map]

/-! ## Fields listed twice -/

/-- No field is listed twice, neither of the settings nor of a text box. -/
def Distinct (entries : List Entry) : Prop :=
  (entries.map Entry.name).Nodup ∧ ∀ entry ∈ entries, entry.innerNames.Nodup

instance (entries : List Entry) : Decidable (Distinct entries) :=
  inferInstanceAs (Decidable (_ ∧ _))

/-- The faults that name a field listed twice. -/
inductive Repeated (entries : List Entry) : Fault → Prop
  | settings {name : String} : List.Duplicate name (entries.map Entry.name) →
      Repeated entries (.duplicateField name "ShellConfig")
  | textBox {entry : Entry} {name : String} : entry ∈ entries →
      List.Duplicate name entry.innerNames → Repeated entries (.duplicateField name "LayoutBox")

/-- An entry is at fault exactly where a field is listed twice inside it. -/
theorem Entry.fault?_cases (entry : Entry) :
    (entry.innerNames.Nodup ∧ entry.fault? = none) ∨
    ∃ name, List.Duplicate name entry.innerNames ∧
      entry.fault? = some (.duplicateField name "LayoutBox") := by
  cases entry with
  | prompt _ => exact .inl ⟨.nil, rfl⟩
  | promptOrigin _ _ => exact .inl ⟨.nil, rfl⟩
  | textBox entries =>
      rcases boxSlots.takeAll_cases entries with ⟨hnodup, -, hok⟩ | ⟨fault, herror, hcause⟩
      · left
        refine ⟨hnodup, ?_⟩
        rw [Entry.fault?, hok]
      · right
        rcases hcause with ⟨name, hduplicate, rfl⟩ | ⟨_, -, hsome⟩
        · refine ⟨name, hduplicate, ?_⟩
          rw [Entry.fault?, herror]
          rfl
        · cases hsome

/-- What taking all entries comes to, by whether a field is listed twice. -/
theorem takeAll_settingsSlots_cases (entries : List Entry) :
    (Distinct entries ∧
      (settingsSlots.takeAll entries).map Draft.toSettings = .ok (settingsOf entries)) ∨
    ∃ fault, Repeated entries fault ∧ settingsSlots.takeAll entries = .error fault := by
  rcases settingsSlots.takeAll_cases entries with ⟨hnodup, hnone, hok⟩ | ⟨fault, herror, hcause⟩
  · left
    refine ⟨⟨hnodup, fun entry hentry => ?_⟩, ?_⟩
    · rcases entry.fault?_cases with ⟨hinner, -⟩ | ⟨name, -, hsome⟩
      · exact hinner
      · have hfault : entry.fault? = none := hnone entry hentry
        rw [hfault] at hsome
        cases hsome
    · rw [hok, Except.map, toSettings_foldl_put]
  · right
    refine ⟨fault, ?_, herror⟩
    rcases hcause with ⟨name, hduplicate, rfl⟩ | ⟨entry, hentry, hsome⟩
    · exact .settings hduplicate
    · have hfault : entry.fault? = some fault := hsome
      rcases entry.fault?_cases with ⟨-, hnone⟩ | ⟨name, hduplicate, hsome'⟩
      · rw [hfault] at hnone
        cases hnone
      · rw [hfault] at hsome'
        cases hsome'
        exact .textBox hentry hduplicate

theorem Repeated.not_distinct {entries : List Entry} {fault : Fault} (h : Repeated entries fault) :
    ¬ Distinct entries := by
  rintro ⟨hnodup, hinner⟩
  cases h with
  | settings hduplicate => exact hduplicate.not_nodup hnodup
  | textBox hentry hduplicate => exact hduplicate.not_nodup (hinner _ hentry)

end TextAdventure.Settings
