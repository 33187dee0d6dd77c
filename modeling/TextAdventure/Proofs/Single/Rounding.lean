import Mathlib.Tactic.Ring
import TextAdventure.Single.Basic

/-!
# What rounding leaves alone

A magnitude of at most 24 significant bits that is small enough to be finite is its own rounding
(`roundUnits_of_exact`), and encoding it loses nothing (`place_ofUnits`, `ofUnits_units`). How a
quotient is rounded depends on its value alone and not on how it is written as a fraction
(`roundUnits_mul_right`).
-/

namespace TextAdventure.Single

/-! ## Exact magnitudes -/

/-- A finite magnitude with at most 24 significant bits. -/
def Exact (m : Nat) : Prop :=
  ∃ significand exponent, significand < 2 ^ 24 ∧ exponent ≤ 253 ∧ m = significand * 2 ^ exponent

/-- How many low bits rounding drops. -/
def dropped (m : Nat) : Nat := m.log2 - 23

theorem log2_mul_two_pow_lt {s e : Nat} (h : s < 2 ^ 24) : (s * 2 ^ e).log2 < 24 + e := by
  by_cases hzero : s = 0
  · simp [hzero]
  · rw [Nat.log2_lt (Nat.mul_ne_zero hzero (Nat.two_pow_pos e).ne'), Nat.pow_add]
    exact Nat.mul_lt_mul_of_pos_right h (Nat.two_pow_pos e)

theorem Exact.dvd {m : Nat} (h : Exact m) : 2 ^ dropped m ∣ m := by
  obtain ⟨s, e, hs, -, rfl⟩ := h
  have hlog := log2_mul_two_pow_lt (e := e) hs
  have hle : dropped (s * 2 ^ e) ≤ e := by unfold dropped; omega
  exact Dvd.dvd.mul_left (Nat.pow_dvd_pow 2 hle) s

theorem Exact.dropped_lt {m : Nat} (h : Exact m) : dropped m + 1 < 255 := by
  obtain ⟨s, e, hs, he, rfl⟩ := h
  have hlog := log2_mul_two_pow_lt (e := e) hs
  unfold dropped
  omega

theorem exact_mul_unitsPerOne {n : Nat} (h : n ≤ 2 ^ 24) : Exact (n * unitsPerOne) := by
  rcases Nat.lt_or_eq_of_le h with hlt | rfl
  · exact ⟨n, 149, hlt, by decide, rfl⟩
  · -- the one count of 25 bits that is still exact
    exact ⟨2 ^ 23, 150, by decide, by decide, by decide +kernel⟩

theorem exact_units (e : Fin 255) (f : Fin 8388608) : Exact (units e f) := by
  have hf := f.isLt
  have he := e.isLt
  unfold units
  split
  · exact ⟨f.val, 0, by omega, by decide, by simp⟩
  · exact ⟨8388608 + f.val, e.val - 1, by omega, by omega, rfl⟩

/-! ## Rounding -/

theorem divNearestEven_mul_self {q d : Nat} (hd : 0 < d) : divNearestEven (q * d) d = q := by
  simp [divNearestEven, Nat.mul_div_cancel _ hd, hd]

theorem divNearestEven_mul_right (num den : Nat) {c : Nat} (hc : 0 < c) :
    divNearestEven (num * c) (den * c) = divNearestEven num den := by
  have hdiv : num * c / (den * c) = num / den := Nat.mul_div_mul_right num den hc
  have hmod : 2 * (num * c % (den * c)) = 2 * (num % den) * c := by
    rw [Nat.mul_mod_mul_right, Nat.mul_assoc]
  simp only [divNearestEven, hdiv, hmod, Nat.mul_lt_mul_right hc]

theorem roundUnits_mul_right (num den : Nat) {c : Nat} (hc : 0 < c) :
    roundUnits (num * c) (den * c) = roundUnits num den := by
  simp only [roundUnits, Nat.mul_div_mul_right num den hc, Nat.mul_right_comm den c,
    divNearestEven_mul_right _ _ hc]

/-- **An exact magnitude is its own rounding**, however it is written as a quotient. -/
theorem roundUnits_of_exact {m den : Nat} (h : Exact m) (hden : 0 < den) :
    roundUnits (m * den) den = m := by
  obtain ⟨q, hq⟩ := h.dvd
  have hpos : 0 < den * 2 ^ dropped m := Nat.mul_pos hden (Nat.two_pow_pos _)
  have hnum : m * den = q * (den * 2 ^ dropped m) := by
    conv_lhs => rw [hq]
    ring
  have hround : divNearestEven (m * den) (den * 2 ^ dropped m) = q := by
    rw [hnum, divNearestEven_mul_self hpos]
  calc roundUnits (m * den) den
      = divNearestEven (m * den) (den * 2 ^ dropped m) * 2 ^ dropped m := by
        rw [roundUnits, Nat.mul_div_cancel m hden]; rfl
    _ = q * 2 ^ dropped m := by rw [hround]
    _ = m := by rw [Nat.mul_comm, ← hq]

/-! ## Encoding -/

theorem dropped_bounds {m : Nat} (h : 8388608 ≤ m) :
    8388608 ≤ m / 2 ^ dropped m ∧ m / 2 ^ dropped m < 16777216 := by
  have hne : m ≠ 0 := by omega
  have hlog : 23 ≤ m.log2 := (Nat.le_log2 hne).mpr h
  have hlow : 2 ^ (23 + dropped m) ≤ m := by
    rw [show 23 + dropped m = m.log2 by unfold dropped; omega]
    exact Nat.log2_self_le hne
  have hhigh : m < 2 ^ (24 + dropped m) := by
    rw [show 24 + dropped m = m.log2 + 1 by unfold dropped; omega]
    exact Nat.lt_log2_self
  rw [Nat.pow_add] at hlow hhigh
  exact ⟨(Nat.le_div_iff_mul_le (Nat.two_pow_pos _)).mpr hlow,
    (Nat.div_lt_iff_lt_mul (Nat.two_pow_pos _)).mpr hhigh⟩

theorem ofUnits_of_lt {negative : Bool} {m : Nat} (h : m < 8388608) :
    ofUnits negative m = .finite negative 0 ⟨m, h⟩ := by
  simp [ofUnits, h, Fin.ofNat, Nat.mod_eq_of_lt h]

theorem ofUnits_of_ge {negative : Bool} {m : Nat} (h : 8388608 ≤ m)
    (he : dropped m + 1 < 255) (hf : m / 2 ^ dropped m - 8388608 < 8388608) :
    ofUnits negative m
      = .finite negative ⟨dropped m + 1, he⟩ ⟨m / 2 ^ dropped m - 8388608, hf⟩ := by
  have hnot : ¬ m < 8388608 := by omega
  rw [ofUnits, if_neg hnot]
  exact (dif_pos he).trans
    (congrArg (Single.finite negative _) (Fin.ext (Nat.mod_eq_of_lt hf)))

/-- **Encoding an exact magnitude** gives the number that stands there. -/
theorem place_ofUnits {m : Nat} (negative : Bool) (h : Exact m) :
    (ofUnits negative m).place = some (signed negative m) := by
  rcases Nat.lt_or_ge m 8388608 with hlt | hge
  · rw [ofUnits_of_lt hlt]
    simp [place, units]
  · obtain ⟨hlow, hhigh⟩ := dropped_bounds hge
    rw [ofUnits_of_ge hge h.dropped_lt (by omega)]
    have hunits : (8388608 + (m / 2 ^ dropped m - 8388608)) * 2 ^ dropped m = m := by
      rw [Nat.add_sub_cancel' hlow]
      exact Nat.div_mul_cancel h.dvd
    simp only [place, units, Nat.add_one_ne_zero, if_false, Nat.add_sub_cancel]
    exact congrArg (fun n => some (signed negative n)) hunits

/-- Encoding the magnitude of a number gives its fields back. -/
theorem ofUnits_units (negative : Bool) (e : Fin 255) (f : Fin 8388608) :
    ofUnits negative (units e f) = .finite negative e f := by
  have hf := f.isLt
  by_cases he : e.val = 0
  · have hunits : units e f = f.val := by simp [units, he]
    rw [hunits, ofUnits_of_lt hf]
    congr 1
    exact Fin.ext he.symm
  · have hunits : units e f = (8388608 + f.val) * 2 ^ (e.val - 1) := by simp [units, he]
    have hpos : 0 < 2 ^ (e.val - 1) := Nat.two_pow_pos _
    have hge : 8388608 ≤ units e f := by
      rw [hunits]
      exact le_trans (by omega) (Nat.le_mul_of_pos_right _ hpos)
    have hdropped : dropped (units e f) = e.val - 1 := by
      have hlog : (units e f).log2 = 23 + (e.val - 1) := by
        rw [Nat.log2_eq_iff (by omega), hunits, Nat.add_right_comm, Nat.pow_add, Nat.pow_add]
        exact ⟨Nat.mul_le_mul_right _ (by omega), Nat.mul_lt_mul_of_pos_right (by omega) hpos⟩
      unfold dropped
      omega
    have hquotient : units e f / 2 ^ dropped (units e f) = 8388608 + f.val := by
      rw [hdropped, hunits, Nat.mul_div_cancel _ hpos]
    have hexponent : dropped (units e f) + 1 = e.val := by omega
    have hfraction : units e f / 2 ^ dropped (units e f) - 8388608 = f.val := by omega
    rw [ofUnits_of_ge hge (by omega) (by omega), Single.finite.injEq]
    exact ⟨rfl, Fin.ext hexponent, Fin.ext hfraction⟩

/-- A number that is an exact quotient is found by dividing. -/
theorem ofRatio_of_exact {m den : Nat} (negative : Bool) (h : Exact m) (hden : 0 < den) :
    ofRatio negative (m * den) den = ofUnits negative m := by
  rw [ofRatio, roundUnits_of_exact h hden]

end TextAdventure.Single
