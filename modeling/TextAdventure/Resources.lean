/-!
# Resources

Loaded values under their names. Keeping a value under a name that is taken replaces the older
one, and a value that is taken out is gone.
-/

namespace TextAdventure

/-- What has been loaded, by name; no name stands twice. -/
structure Resources (α : Type) where
  entries : List (String × α) := []

namespace Resources

variable {α : Type}

/-- Keeps a value under a name, in place of one kept there before. -/
def insert (r : Resources α) (name : String) (value : α) : Resources α :=
  ⟨(name, value) :: r.entries.filter fun entry => entry.1 != name⟩

/-- The value kept under a name. -/
def get? (r : Resources α) (name : String) : Option α :=
  (r.entries.find? fun entry => entry.1 == name).map Prod.snd

/-- Takes a value out. -/
def take (r : Resources α) (name : String) : Option α × Resources α :=
  (r.get? name, ⟨r.entries.filter fun entry => entry.1 != name⟩)

/-- How many values are kept. -/
def size (r : Resources α) : Nat :=
  r.entries.length

/-- Whether no value is kept. -/
def isEmpty (r : Resources α) : Bool :=
  r.entries.isEmpty

/-- A value just kept is found. -/
theorem get?_insert_self (r : Resources α) (name : String) (value : α) :
    (r.insert name value).get? name = some value := by
  simp [get?, insert]

/-- Leaving out one name does not change what is found under another. -/
theorem find?_filter_ne {name other : String} (h : other ≠ name) (entries : List (String × α)) :
    (entries.filter fun entry => entry.1 != name).find? (fun entry => entry.1 == other) =
      entries.find? fun entry => entry.1 == other := by
  induction entries with
  | nil => rfl
  | cons entry rest ih =>
    by_cases hname : entry.1 = name
    · have hother : (name == other) = false := by simpa using fun heq => h heq.symm
      simp [hname, ih, hother]
    · simp [hname, ih, List.find?_cons]

/-- Keeping a value changes nothing under another name. -/
theorem get?_insert_of_ne (r : Resources α) {name other : String} (h : other ≠ name) (value : α) :
    (r.insert name value).get? other = r.get? other := by
  have hne : (name == other) = false := by simpa using fun heq => h heq.symm
  simp [get?, insert, hne, find?_filter_ne h]

/-- A value that was taken out is not found again. -/
theorem get?_take_self (r : Resources α) (name : String) : (r.take name).2.get? name = none := by
  simp [get?, take]

/-- Taking a value out changes nothing under another name. -/
theorem get?_take_of_ne (r : Resources α) {name other : String} (h : other ≠ name) :
    (r.take name).2.get? other = r.get? other := by
  simp [get?, take, find?_filter_ne h]

end Resources

end TextAdventure
