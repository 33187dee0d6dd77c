import TextAdventure.Proofs.Single.Rounding

/-!
# Whole numbers

Sums and differences of whole numbers are exact as long as they stay within 24 bits, and so is a
quotient that comes out even. Comparing two of them is comparing the numbers they stand for.
-/

namespace TextAdventure.Single

/-- A number that has the value of a whole number; both zeros have the value `0`. -/
def Whole (x : Single) (n : Int) : Prop :=
  x.place = some (n * unitsPerOne)

theorem unitsPerOne_pos : (0 : Int) < unitsPerOne := by decide +kernel

theorem Whole.atMost_iff {x y : Single} {a b : Int} (hx : x.Whole a) (hy : y.Whole b) :
    x.atMost y = true ↔ a ≤ b := by
  unfold Whole at hx hy
  simp only [atMost, hx, hy, decide_eq_true_eq]
  exact ⟨fun h => Int.le_of_mul_le_mul_right h unitsPerOne_pos,
    fun h => Int.mul_le_mul_of_nonneg_right h unitsPerOne_pos.le⟩

theorem Whole.sameValue_iff {x y : Single} {a b : Int} (hx : x.Whole a) (hy : y.Whole b) :
    x.sameValue y = true ↔ a = b := by
  unfold Whole at hx hy
  simp only [sameValue, hx, hy, decide_eq_true_eq]
  exact Int.mul_eq_mul_right_iff unitsPerOne_pos.ne'

/-- The infinities stand far outside the whole numbers of 24 bits. -/
theorem Whole.exists_eq_finite {x : Single} {n : Int} (h : x.Whole n) (hn : n.natAbs ≤ 2 ^ 24) :
    ∃ negative e f, x = .finite negative e f ∧ signed negative (units e f) = n * unitsPerOne := by
  unfold Whole at h
  cases x with
  | nan => cases h
  | finite negative e f => exact ⟨negative, e, f, rfl, Option.some.inj h⟩
  | infinite negative =>
      have hfar : signed negative (Nat.pow 2 277) = n * unitsPerOne := Option.some.inj h
      have hunits : (unitsPerOne : Int) = 2 ^ 149 := by decide +kernel
      have hpow : ((Nat.pow 2 277 : Nat) : Int) = 2 ^ 128 * 2 ^ 149 := by decide +kernel
      cases negative <;> simp only [signed, hunits, hpow] at hfar <;> omega

theorem signed_decide_natAbs (n : Int) : signed (decide (n < 0)) n.natAbs = n := by
  unfold signed
  split <;> rename_i h <;> simp only [decide_eq_true_eq] at h <;> omega

theorem signed_not (negative : Bool) (m : Nat) : signed (!negative) m = -signed negative m := by
  cases negative <;> simp [signed]

theorem natAbs_signed (negative : Bool) (m : Nat) : (signed negative m).natAbs = m := by
  cases negative <;> simp [signed]

theorem signed_mul_signed (s t : Bool) (m n : Nat) :
    signed s m * signed t n = signed (s != t) (m * n) := by
  cases s <;> cases t <;> simp [signed]

theorem Whole.neg {x : Single} {n : Int} (h : x.Whole n) : (Single.neg x).Whole (-n) := by
  unfold Whole at h ⊢
  cases x with
  | nan => cases h
  | finite negative e f | infinite negative =>
      have hplace := Option.some.inj h
      simp only [Single.neg, place, signed_not, hplace, Int.neg_mul]

/-- **The sum of two whole numbers** is not rounded. -/
theorem Whole.add {x y : Single} {a b : Int} (hx : x.Whole a) (hy : y.Whole b)
    (ha : a.natAbs ≤ 2 ^ 24) (hb : b.natAbs ≤ 2 ^ 24) (hsum : (a + b).natAbs ≤ 2 ^ 24) :
    (x + y).Whole (a + b) := by
  obtain ⟨s, e, f, rfl, hxunits⟩ := hx.exists_eq_finite ha
  obtain ⟨t, g, k, rfl, hyunits⟩ := hy.exists_eq_finite hb
  have hunits : signed s (units e f) + signed t (units g k) = (a + b) * unitsPerOne := by
    rw [hxunits, hyunits, Int.add_mul]
  show (Single.add _ _).place = _
  simp only [Single.add, hunits]
  split
  · rename_i hzero
    rw [hzero]
    cases s <;> cases t <;> decide
  · have hmagnitude : ((a + b) * unitsPerOne).natAbs = (a + b).natAbs * unitsPerOne := by
      rw [Int.natAbs_mul, Int.natAbs_natCast]
    have hexact := exact_mul_unitsPerOne hsum
    have hround := ofRatio_of_exact (decide ((a + b) * unitsPerOne < 0)) hexact Nat.one_pos
    rw [Nat.mul_one] at hround
    rw [hmagnitude, hround, place_ofUnits _ hexact, ← hmagnitude, signed_decide_natAbs]

theorem Whole.sub {x y : Single} {a b : Int} (hx : x.Whole a) (hy : y.Whole b)
    (ha : a.natAbs ≤ 2 ^ 24) (hb : b.natAbs ≤ 2 ^ 24) (hdiff : (a - b).natAbs ≤ 2 ^ 24) :
    (x - y).Whole (a - b) := by
  rw [Int.sub_eq_add_neg] at hdiff ⊢
  exact hx.add hy.neg ha (by omega) hdiff

/-- **A quotient of whole numbers that comes out even** is not rounded. -/
theorem Whole.div {x y : Single} {a b : Int} (hx : x.Whole (a * b)) (hy : y.Whole b) (hne : b ≠ 0)
    (ha : a.natAbs ≤ 2 ^ 24) (hb : b.natAbs ≤ 2 ^ 24) (hab : (a * b).natAbs ≤ 2 ^ 24) :
    (x / y).Whole a := by
  obtain ⟨s, e, f, rfl, hxunits⟩ := hx.exists_eq_finite hab
  obtain ⟨t, g, k, rfl, hyunits⟩ := hy.exists_eq_finite hb
  have hnum : units e f = a.natAbs * b.natAbs * unitsPerOne := by
    rw [← natAbs_signed s (units e f), hxunits, Int.natAbs_mul, Int.natAbs_mul, Int.natAbs_natCast]
  have hden : units g k = b.natAbs * unitsPerOne := by
    rw [← natAbs_signed t (units g k), hyunits, Int.natAbs_mul, Int.natAbs_natCast]
  have hdenpos : 0 < units g k := by
    rw [hden]
    exact Nat.mul_pos (Int.natAbs_pos.mpr hne) (by exact_mod_cast unitsPerOne_pos)
  have hratio : units e f * unitsPerOne = a.natAbs * unitsPerOne * units g k := by
    rw [hnum, hden]
    ring
  have hexact := exact_mul_unitsPerOne ha
  have hquotient : signed (s != t) (a.natAbs * unitsPerOne) = a * unitsPerOne := by
    have hproduct : signed (s != t) (a.natAbs * unitsPerOne) * signed t (units g k)
        = a * unitsPerOne * signed t (units g k) := by
      calc signed (s != t) (a.natAbs * unitsPerOne) * signed t (units g k)
          = signed s (units e f * unitsPerOne) := by
            rw [signed_mul_signed, ← hratio]
            cases s <;> cases t <;> rfl
        _ = signed s (units e f) * unitsPerOne := by
            cases s <;> simp [signed]
        _ = a * unitsPerOne * signed t (units g k) := by
            rw [hxunits, hyunits]
            ring
    have hyne : signed t (units g k) ≠ 0 := by
      rw [hyunits]
      exact Int.mul_ne_zero hne unitsPerOne_pos.ne'
    exact Int.eq_of_mul_eq_mul_right hyne hproduct
  show (Single.div _ _).place = _
  rw [Single.div, if_neg hdenpos.ne', hratio, ofRatio_of_exact _ hexact hdenpos,
    place_ofUnits _ hexact, hquotient]

/-- Rounding a whole number to the nearest one only holds it between the limits. -/
theorem Whole.nearestNat {x : Single} {n : Int} (h : x.Whole n) (hn : n.natAbs ≤ 2 ^ 24)
    (limit : Nat) : x.nearestNat limit = min limit n.toNat := by
  obtain ⟨negative, e, f, rfl, hunits⟩ := h.exists_eq_finite hn
  cases negative with
  | true =>
      have hle : n * unitsPerOne ≤ 0 * unitsPerOne := by
        rw [← hunits]
        simp [signed]
      have hnonpos : n ≤ 0 := Int.le_of_mul_le_mul_right hle unitsPerOne_pos
      simp [Single.nearestNat, Int.toNat_of_nonpos hnonpos]
  | false =>
      have hge : 0 * (unitsPerOne : Int) ≤ n * unitsPerOne := by
        rw [← hunits]
        simp [signed]
      have hnonneg : 0 ≤ n := Int.le_of_mul_le_mul_right hge unitsPerOne_pos
      have hmagnitude : units e f = n.toNat * unitsPerOne := by
        rw [← natAbs_signed false (units e f), hunits, Int.natAbs_mul, Int.natAbs_natCast]
        congr 1
        omega
      have hhalf : unitsPerOne / 2 < unitsPerOne := by decide +kernel
      rw [Single.nearestNat, hmagnitude, Nat.add_comm, Nat.add_mul_div_right _ _ (by omega),
        Nat.div_eq_of_lt hhalf, Nat.zero_add]

end TextAdventure.Single
