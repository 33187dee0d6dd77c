/-!
# Fields between spaces

Every single space separates two fields, so that doubled, leading and trailing spaces give empty
fields, and a text without a space is one field.
-/

namespace TextAdventure.Text

/-- The fields of a text. -/
def splitFields : List Char → List (List Char)
  | [] => [[]]
  | c :: rest =>
    if c = ' ' then [] :: splitFields rest
    else
      match splitFields rest with
      | [] => [[c]]
      | field :: fields => (c :: field) :: fields

example : splitFields "a  b".toList = [['a'], [], ['b']] := by decide

/-- Texts are put together as their characters are. -/
theorem intercalate_map_ofList (separator : String) (fields : List (List Char)) :
    separator.intercalate (fields.map String.ofList)
      = String.ofList (separator.toList.intercalate fields) := by
  have hfields : (fields.map String.ofList).map String.toList = fields := by simp
  apply String.toList_inj.mp
  rw [String.toList_intercalate, hfields, String.toList_ofList]

end TextAdventure.Text
