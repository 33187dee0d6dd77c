import TextAdventure.Proofs.Settings.Spelling

/-!
# Escaped text

Text is written with escapes for what would not show, would join the character before it or would
end the text. Whichever characters these are, what is written between double quotes spells the text
(`spelled_escape`), so reading the spelling undoes the escaping. A quoted text therefore tells where
it ends and what it says, whatever stands behind it (`quoted_append_inj`).
-/

namespace TextAdventure.Settings

open Source

/-! ## Code points -/

theorem hexDigit?_digitChar : ∀ d < 16, hexDigit? d.digitChar = some d := by
  decide

theorem hexValue?_append (value : Nat) (a b : List Char) :
    hexValue? value (a ++ b) = (hexValue? value a).bind fun n => hexValue? n b :=
  List.foldlM_append

theorem hexValue?_toDigits (n : Nat) : hexValue? 0 (Nat.toDigits 16 n) = some n := by
  induction n using Nat.strongRecOn with
  | ind n ih =>
      rw [Nat.toDigits_eq_if (by decide)]
      split
      · rename_i hlt
        simp [hexValue?, hexDigit?_digitChar n hlt]
      · rename_i hge
        have hdigit := hexDigit?_digitChar (n % 16) (Nat.mod_lt n (by decide))
        rw [hexValue?_append, ih (n / 16) (by omega)]
        simp only [hexValue?, List.foldlM_cons, List.foldlM_nil, hdigit, Option.bind_some]
        simp
        omega

theorem spelled_codeEscape (c : Char) {spelling text : List Char} (h : Spelled spelling text) :
    Spelled (Text.codeEscape c ++ spelling) (c :: text) := by
  have hlength : (Nat.toDigits 16 c.toNat).length ≤ 6 := by
    rw [Nat.length_toDigits_le_iff (by decide) (by decide)]
    have hvalid : c.toNat.isValidChar := c.valid
    rcases hvalid with hlow | ⟨-, hhigh⟩ <;> omega
  have hescaped : Escaped ('u' :: '\x7b' :: (Nat.toDigits 16 c.toNat ++ ['\x7d'])) c :=
    .code Nat.toDigits_ne_nil hlength (hexValue?_toDigits c.toNat)
  simpa [Text.codeEscape] using Spelled.escape hescaped h

/-! ## Characters and texts -/

section Rules

variable {rule : Text.QuoteRule} (hrule : rule.double = true)

include hrule

/-- All short escapes but that of the single quote are in use under every rule. -/
theorem escapeChar_of_mem {mark c : Char} (hmem : (mark, c) ∈ shortEscapes) (hc : c ≠ '\'') :
    Text.escapeChar rule c = ['\\', mark] := by
  obtain ⟨single, double⟩ := rule
  cases hrule
  simp only [shortEscapes, List.mem_cons, Prod.mk.injEq, List.not_mem_nil, or_false] at hmem
  rcases hmem with ⟨rfl, rfl⟩ | ⟨rfl, rfl⟩ | ⟨rfl, rfl⟩ | ⟨rfl, rfl⟩ | ⟨rfl, rfl⟩ | ⟨rfl, rfl⟩ |
    ⟨rfl, rfl⟩
  · exact absurd rfl hc
  all_goals rfl

/-- A character is written so that it is read back, whatever follows it. -/
theorem spelled_escapeChar (c : Char) {spelling text : List Char} (h : Spelled spelling text) :
    Spelled (Text.escapeChar rule c ++ spelling) (c :: text) := by
  by_cases hsingle : c = '\''
  · subst hsingle
    have hescape : Text.escapeChar rule '\'' = if rule.single then ['\\', '\''] else ['\''] := rfl
    rw [hescape]
    split
    · exact .escape (.short (by decide)) h
    · exact .plain (by decide) (by decide) h
  by_cases hshort : c ∈ shortEscapes.map Prod.snd
  · obtain ⟨⟨mark, d⟩, hmem, rfl⟩ := List.mem_map.mp hshort
    rw [escapeChar_of_mem hrule hmem hsingle]
    exact .escape (.short hmem) h
  · simp only [shortEscapes, List.map_cons, List.map_nil, List.mem_cons, List.not_mem_nil, or_false,
      not_or] at hshort
    obtain ⟨-, hdouble, hbackslash, hnewline, hreturn, htab, hzero⟩ := hshort
    rw [Text.escapeChar, if_neg hzero, if_neg htab, if_neg hreturn, if_neg hnewline,
      if_neg hbackslash, if_neg hdouble, if_neg hsingle]
    split
    · exact spelled_codeEscape c h
    · exact .plain hdouble hbackslash h

/-- **Escaped text** spells the text, under every rule that escapes the double quote. -/
theorem spelled_escape (text : List Char) : Spelled (Text.escape rule text) text := by
  induction text with
  | nil => exact .nil
  | cons c text ih =>
      rw [Text.escape, List.flatMap_cons]
      exact spelled_escapeChar hrule c ih

end Rules

/-! ## Quoted texts -/

theorem reads_quoted (text : String) (rest : List Char) :
    Reads readString (Text.quoted text).toList rest text := by
  have hspelled : Spelled (Text.escape .inDouble text.toList) text.toList :=
    spelled_escape rfl text.toList
  have hread := reads_readString hspelled rest
  rwa [Text.quoted, String.toList_ofList]

/-- **A quoted text** can be told from what follows it. -/
theorem quoted_append_inj {a b : String} {x y : List Char}
    (h : (Text.quoted a).toList ++ x = (Text.quoted b).toList ++ y) : a = b ∧ x = y := by
  have ha := reads_quoted a x {}
  rw [h, reads_quoted b y {}] at ha
  obtain ⟨htext, hsource⟩ := Prod.mk.inj (Except.ok.inj ha)
  exact ⟨htext.symm, (congrArg Source.rest hsource).symm⟩

end TextAdventure.Settings
