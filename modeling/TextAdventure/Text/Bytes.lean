/-!
# Bytes of a text

A place in a text can be given by the number of bytes before it. Not every such place lies between
two characters: one inside a character, or behind the end, cannot be cut at.
-/

namespace TextAdventure.Text

/-- The bytes of a text. -/
def bytes (text : String) : List UInt8 :=
  text.toByteArray.data.toList

@[simp] theorem length_bytes (text : String) : (bytes text).length = text.utf8ByteSize := rfl

@[simp] theorem bytes_append (a b : String) : bytes (a ++ b) = bytes a ++ bytes b := by
  simp [bytes]

/-- The two parts of a text around a byte. There are none if that byte lies inside a character or
behind the end. -/
def cutAt? : Nat → List Char → Option (List Char × List Char)
  | 0, text => some ([], text)
  | _ + 1, [] => none
  | n + 1, c :: text =>
    if c.utf8Size ≤ n + 1 then
      (cutAt? (n + 1 - c.utf8Size) text).map fun (before, after) => (c :: before, after)
    else none

theorem utf8ByteSize_ofList_cons (c : Char) (text : List Char) :
    (String.ofList (c :: text)).utf8ByteSize
      = c.utf8Size + (String.ofList text).utf8ByteSize := by
  rw [String.ofList_cons, String.utf8ByteSize_append, String.utf8ByteSize_singleton]

theorem cutAt?_append (before after : List Char) :
    cutAt? (String.ofList before).utf8ByteSize (before ++ after) = some (before, after) := by
  induction before with
  | nil => simp [cutAt?]
  | cons c before ih =>
    obtain ⟨n, hn⟩ : ∃ n, c.utf8Size + (String.ofList before).utf8ByteSize = n + 1 :=
      Nat.exists_eq_add_one.mpr (Nat.add_pos_left c.utf8Size_pos _)
    have hrest : n + 1 - c.utf8Size = (String.ofList before).utf8ByteSize := by omega
    have hfits : c.utf8Size ≤ n + 1 := by omega
    rw [utf8ByteSize_ofList_cons, hn, List.cons_append, cutAt?, if_pos hfits, hrest, ih]
    rfl

theorem eq_append_of_cutAt? {n : Nat} {text before after : List Char}
    (h : cutAt? n text = some (before, after)) :
    text = before ++ after ∧ (String.ofList before).utf8ByteSize = n := by
  induction text generalizing n before with
  | nil =>
    cases n with
    | zero => cases h; simp
    | succ n => cases h
  | cons c text ih =>
    cases n with
    | zero => cases h; simp
    | succ n =>
      rw [cutAt?] at h
      split at h
      · rename_i hfits
        obtain ⟨⟨front, back⟩, hcut, heq⟩ := Option.map_eq_some_iff.mp h
        cases heq
        obtain ⟨htext, hsize⟩ := ih hcut
        refine ⟨by rw [htext]; rfl, ?_⟩
        rw [utf8ByteSize_ofList_cons, hsize]
        omega
      · cases h

/-- A text can be cut behind its characters, and nowhere else. -/
theorem cutAt?_eq_some_iff {n : Nat} {text before after : List Char} :
    cutAt? n text = some (before, after) ↔
      text = before ++ after ∧ (String.ofList before).utf8ByteSize = n := by
  refine ⟨eq_append_of_cutAt?, ?_⟩
  rintro ⟨rfl, rfl⟩
  exact cutAt?_append before after

example : cutAt? 2 ['é', 'x'] = some (['é'], ['x']) ∧ cutAt? 1 ['é', 'x'] = none := by decide

end TextAdventure.Text
