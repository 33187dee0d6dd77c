import Mathlib.Data.List.TakeWhile
import TextAdventure.Proofs.Single.Rounding
import TextAdventure.Single.Shortest

/-!
# Decimals read back

The shortest decimal of a finite number has that number as its value (`ofDecimal_shortest`): either
a grid was accepted because it does, or the last resort is taken, the decimal of every digit, which
is exact. A written decimal is digits around a point, with the same value (`exists_pointed_eq`).
-/

namespace TextAdventure.Single

/-! ## Signs -/

theorem neg_ofUnits (m : Nat) : neg (ofUnits false m) = ofUnits true m := by
  simp only [ofUnits]
  split
  · rfl
  · split <;> rfl

theorem neg_ofDecimal (c : Nat) (e : Int) : neg (ofDecimal false c e) = ofDecimal true c e := by
  simp only [ofDecimal]
  split
  · rfl
  split
  · rfl
  split
  · rfl
  split <;> exact neg_ofUnits _

/-! ## The value of a decimal -/

theorem length_toDigits_mul_pow {c : Nat} (hc : 0 < c) (k : Nat) :
    (Nat.toDigits 10 (c * 10 ^ k)).length = (Nat.toDigits 10 c).length + k := by
  induction k with
  | zero => simp
  | succ k ih =>
      have hpos : 0 < c * 10 ^ k := Nat.mul_pos hc (Nat.pow_pos (by decide))
      have happend := Nat.toDigits_append_toDigits (b := 10) (d := 0) (by decide) hpos (by decide)
      rw [show c * 10 ^ (k + 1) = 10 * (c * 10 ^ k) + 0 by ring, ← happend, List.length_append, ih,
        Nat.toDigits_zero]
      rfl

/-- A zero behind the point, with the zeros before it, changes no value. -/
theorem ofDecimal_mul_pow (negative : Bool) (c k : Nat) :
    ofDecimal negative (c * 10 ^ (k + 1)) (-1) = ofDecimal negative c k := by
  by_cases hc : c = 0
  · simp [hc, ofDecimal]
  have hpos : 0 < c := Nat.pos_of_ne_zero hc
  have hpow : c * 10 ^ (k + 1) ≠ 0 := Nat.mul_ne_zero hc (Nat.pow_pos (by decide)).ne'
  have hmagnitude : ((Nat.toDigits 10 (c * 10 ^ (k + 1))).length : Int) + -1
      = (Nat.toDigits 10 c).length + k := by
    rw [length_toDigits_mul_pow hpos]
    omega
  have hratio : ofRatio negative (c * 10 ^ (k + 1) * unitsPerOne) 10
      = ofRatio negative (c * 10 ^ k * unitsPerOne) 1 := by
    rw [ofRatio, ofRatio, show c * 10 ^ (k + 1) * unitsPerOne = c * 10 ^ k * unitsPerOne * 10 by ring,
      ← roundUnits_mul_right _ 1 (by decide : 0 < 10)]
  rw [ofDecimal, ofDecimal, if_neg hc, if_neg hpow, hmagnitude]
  split
  · rfl
  split
  · rfl
  rw [if_neg (by decide), if_pos (Int.natCast_nonneg k), Int.toNat_natCast]
  exact hratio

/-! ## Shortest decimals -/

theorem ofDecimal_of_gridHit? {m c : Nat} {e : Int} (h : gridHit? m e = some c) :
    ofDecimal false c e = ofUnits false m := by
  have hfound := List.find?_some h
  simpa using hfound

/-- The decimal of every digit: `5 ^ 149` of the smallest place make one unit. -/
theorem ofDecimal_all_digits {m : Nat} (h : Exact m) (hm : 0 < m) :
    ofDecimal false (m * 5 ^ 149) (-149) = ofUnits false m := by
  have hpos : m * 5 ^ 149 ≠ 0 := Nat.mul_ne_zero hm.ne' (by decide +kernel)
  have hlong : (Nat.toDigits 10 (m * 5 ^ 149)).length ≤ 189 := by
    rw [Nat.length_toDigits_le_iff (by decide) (by decide)]
    obtain ⟨s, e, hs, he, rfl⟩ := h
    calc s * 2 ^ e * 5 ^ 149
        ≤ 2 ^ 24 * 2 ^ 253 * 5 ^ 149 := Nat.mul_le_mul_right _ (Nat.mul_le_mul hs.le
          (Nat.pow_le_pow_right (by decide) he))
      _ < 10 ^ 189 := by decide +kernel
  have hshort : 98 < (Nat.toDigits 10 (m * 5 ^ 149)).length := by
    by_contra hle
    rw [not_lt, Nat.length_toDigits_le_iff (by decide) (by decide)] at hle
    have hbig : (10 : Nat) ^ 98 ≤ 5 ^ 149 := by decide +kernel
    have hmul : 5 ^ 149 ≤ m * 5 ^ 149 := Nat.le_mul_of_pos_left _ hm
    omega
  have hden : m * 5 ^ 149 * unitsPerOne = m * 10 ^ 149 := by
    rw [Nat.mul_assoc]
    exact congrArg (m * ·) (by decide +kernel : 5 ^ 149 * unitsPerOne = 10 ^ 149)
  have hratio : ofRatio false (m * 5 ^ 149 * unitsPerOne) (10 ^ 149) = ofUnits false m := by
    rw [hden]
    exact ofRatio_of_exact false h (Nat.pow_pos (by decide))
  rw [ofDecimal, if_neg hpos, if_neg (by omega), if_neg (by omega), if_neg (by omega)]
  exact hratio

/-- **The shortest decimal** of an exact magnitude has it as its value. -/
theorem ofDecimal_shortest {m : Nat} (h : Exact m) :
    ofDecimal false (shortest m).1 (shortest m).2 = ofUnits false m := by
  unfold shortest
  split
  · rename_i hzero
    rw [hzero]
    decide
  · rename_i hzero
    cases hfound : gridExponents.findSome? fun e => (gridHit? m e).map fun c => (c, e) with
    | none => exact ofDecimal_all_digits h (Nat.pos_of_ne_zero hzero)
    | some decimal =>
        obtain ⟨e, -, hhit⟩ := List.exists_of_findSome?_eq_some hfound
        obtain ⟨c, hc, rfl⟩ := Option.map_eq_some_iff.mp hhit
        exact ofDecimal_of_gridHit? hc

theorem ofDecimal_shortest_units (negative : Bool) (e : Fin 255) (f : Fin 8388608) :
    ofDecimal negative (shortest (units e f)).1
      (shortest (units e f)).2 = .finite negative e f := by
  have hshortest := ofDecimal_shortest (exact_units e f)
  cases negative with
  | false => rw [hshortest, ofUnits_units]
  | true => rw [← neg_ofDecimal, hshortest, neg_ofUnits, ofUnits_units]

/-! ## Written decimals -/

theorem digitsValue_eq (text : List Char) : digitsValue text = Nat.ofDigitChars 10 text 0 := rfl

theorem splitRun_isDigit {digits : List Char} (h : ∀ c ∈ digits, c.isDigit = true)
    (rest : List Char) :
    splitRun Char.isDigit (digits ++ '.' :: rest) = (digits, '.' :: rest) := by
  rw [splitRun, List.takeWhile_append_of_pos h, List.dropWhile_append_of_pos h]
  simp

theorem parseDigits?_point (negative : Bool) {whole fraction : List Char} (hne : whole ≠ [])
    (hwhole : ∀ c ∈ whole, c.isDigit = true) (hfraction : ∀ c ∈ fraction, c.isDigit = true) :
    parseDigits? negative (whole ++ '.' :: fraction)
      = some (ofDecimal negative (digitsValue (whole ++ fraction)) (-(fraction.length : Int))) := by
  have hrest : splitRun Char.isDigit fraction = (fraction, []) := by
    rw [splitRun, List.takeWhile_eq_self_iff.mpr hfraction, List.dropWhile_eq_nil_iff.mpr hfraction]
  have hdigits : whole ++ fraction ≠ [] := by simp [hne]
  simp only [parseDigits?, splitRun_isDigit hwhole, hrest, if_neg hdigits, Int.zero_sub]

theorem parse?_signed (negative : Bool) {whole fraction : List Char} (hne : whole ≠ [])
    (hwhole : ∀ c ∈ whole, c.isDigit = true) (hfraction : ∀ c ∈ fraction, c.isDigit = true) :
    parse? ((if negative then ['-'] else []) ++ (whole ++ '.' :: fraction))
      = some (ofDecimal negative (digitsValue (whole ++ fraction))
          (-(fraction.length : Int))) := by
  have hdigits := parseDigits?_point negative hne hwhole hfraction
  cases negative with
  | true =>
      show parseUnsigned? true (whole ++ '.' :: fraction) = _
      rw [parseUnsigned?, hdigits]
      rfl
  | false =>
      have hunsigned : parse? (whole ++ '.' :: fraction)
          = parseUnsigned? false (whole ++ '.' :: fraction) := by
        cases whole with
        | nil => exact absurd rfl hne
        | cons c whole =>
            have hc := hwhole c (by simp)
            rw [List.cons_append, parse?]
            · intro rest heq
              rw [(List.cons.inj heq).1] at hc
              cases hc
            · intro rest heq
              rw [(List.cons.inj heq).1] at hc
              cases hc
      show parse? (whole ++ '.' :: fraction) = _
      rw [hunsigned, parseUnsigned?, hdigits]
      rfl

/-- A decimal as it is written: digits, a point and at least one digit. -/
def pointed (c : Nat) (e : Int) : List Char :=
  positional c e ++ if 0 ≤ e then ['.', '0'] else []

/-- **A written decimal** is digits around a point, and its value is read. -/
theorem exists_pointed_eq (c : Nat) (e : Int) : ∃ whole fraction,
    pointed c e = whole ++ '.' :: fraction ∧ whole ≠ [] ∧
    (∀ x ∈ whole, x.isDigit = true) ∧ (∀ x ∈ fraction, x.isDigit = true) ∧
    ∀ negative, ofDecimal negative (digitsValue (whole ++ fraction)) (-(fraction.length : Int))
      = ofDecimal negative c e := by
  have hdigit : ∀ x ∈ Nat.toDigits 10 c, x.isDigit = true := fun x hx =>
    Nat.isDigit_of_mem_toDigits (by decide) (by decide) hx
  have hzeros : ∀ k, ∀ x ∈ List.replicate k '0', x.isDigit = true := by
    intro k x hx
    rw [List.eq_of_mem_replicate hx]
    rfl
  unfold pointed positional
  by_cases he : 0 ≤ e
  · -- a whole number: the zeros up to the point and one behind it
    obtain ⟨k, rfl⟩ := Int.eq_ofNat_of_zero_le he
    refine ⟨Nat.toDigits 10 c ++ List.replicate k '0', ['0'], by simp, by simp, ?_, by simp, ?_⟩
    · intro x hx
      exact (List.mem_append.mp hx).elim (hdigit x) (hzeros k x)
    · intro negative
      have hvalue : digitsValue (Nat.toDigits 10 c ++ List.replicate k '0' ++ ['0'])
          = c * 10 ^ (k + 1) := by
        rw [digitsValue_eq, Nat.ofDigitChars_append, Nat.ofDigitChars_append,
          Nat.ofDigitChars_ten_toDigits, Nat.ofDigitChars_replicate_zero,
          show ['0'] = List.replicate 1 '0' from rfl, Nat.ofDigitChars_replicate_zero]
        ring
      rw [hvalue]
      exact ofDecimal_mul_pow negative c k
  · obtain ⟨places, hplaces⟩ : ∃ places : Nat, e = -(places : Int) :=
      ⟨(-e).toNat, by omega⟩
    have hcount : (-e).toNat = places := by omega
    rw [if_neg he, if_neg he, List.append_nil]
    simp only [hcount]
    split
    · rename_i hlt
      refine ⟨_, _, rfl, ?_, fun x hx => hdigit x (List.mem_of_mem_take hx),
        fun x hx => hdigit x (List.mem_of_mem_drop hx), fun negative => ?_⟩
      · intro hnil
        have hlength := congrArg List.length hnil
        simp only [List.length_take, List.length_nil] at hlength
        omega
      · rw [List.take_append_drop, digitsValue_eq, Nat.ofDigitChars_ten_toDigits, List.length_drop,
          hplaces]
        congr 2
        omega
    · rename_i hge
      refine ⟨['0'], List.replicate (places - (Nat.toDigits 10 c).length) '0' ++ Nat.toDigits 10 c,
        rfl, by simp, by simp, ?_, fun negative => ?_⟩
      · intro x hx
        exact (List.mem_append.mp hx).elim (hzeros _ x) (hdigit x)
      · have hvalue : digitsValue (['0'] ++
            (List.replicate (places - (Nat.toDigits 10 c).length) '0' ++ Nat.toDigits 10 c)) = c := by
          rw [digitsValue_eq, show ['0'] = List.replicate 1 '0' from rfl, Nat.ofDigitChars_append,
            Nat.ofDigitChars_append, Nat.ofDigitChars_replicate_zero,
            Nat.ofDigitChars_replicate_zero, Nat.mul_zero,
            Nat.ofDigitChars_ten_toDigits]
        rw [hvalue, List.length_append, List.length_replicate, hplaces]
        congr 2
        omega

end TextAdventure.Single
