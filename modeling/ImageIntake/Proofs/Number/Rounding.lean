import ImageIntake.Number.Rounding
import Mathlib.Algebra.Order.Field.Rat
import Mathlib.Data.Nat.Log
import Mathlib.Tactic.FieldSimp
import Mathlib.Tactic.Linarith
import Mathlib.Tactic.Positivity
import Mathlib.Tactic.Ring

namespace ImageIntake.Number

theorem abs_sub_div_le_iff {a n d e : ℚ} (hd : 0 < d) :
    |a - n / d| ≤ e ↔ |a * d - n| ≤ e * d := by
  have hsub : a - n / d = (a * d - n) / d := by field_simp
  rw [hsub, abs_div, abs_of_pos hd, div_le_iff₀ hd]

theorem abs_roundHalfEven_sub_le (n : Nat) {d : Nat} (hd : 0 < d) :
    |(roundHalfEven n d : ℚ) - n / d| ≤ 1 / 2 := by
  have hupper : (2 * (roundHalfEven n d * d) : ℚ) ≤ 2 * n + d := by
    exact_mod_cast roundHalfEven_mul_le hd
  have hlower : (2 * n : ℚ) ≤ 2 * (roundHalfEven n d * d) + d := by
    exact_mod_cast le_roundHalfEven_mul hd
  refine (abs_sub_div_le_iff (by exact_mod_cast hd)).mpr (abs_le.mpr ⟨?_, ?_⟩)
  · linarith
  · linarith

theorem roundHalfEven_one (n : Nat) : roundHalfEven n 1 = n := by
  simp [roundHalfEven, Nat.mod_one]

theorem abs_roundHalfUp_sub_le (n : Nat) {d : Nat} (hd : 0 < d) :
    |(roundHalfUp n d : ℚ) - n / d| ≤ 1 / 2 := by
  have hupper : (roundHalfUp n d * (2 * d) : ℚ) ≤ 2 * n + d := by
    exact_mod_cast Nat.div_mul_le_self (2 * n + d) (2 * d)
  have hlower : (2 * n + d : ℚ) < 2 * d * (roundHalfUp n d + 1) := by
    exact_mod_cast Nat.lt_mul_div_succ (2 * n + d) (show 0 < 2 * d by omega)
  refine (abs_sub_div_le_iff (by exact_mod_cast hd)).mpr (abs_le.mpr ⟨?_, ?_⟩)
  · linarith
  · linarith

def BinaryFraction.value (x : BinaryFraction) : ℚ := x.mantissa / 2 ^ x.scale

theorem BinaryFraction.abs_round_sub_le (x : BinaryFraction) :
    |(x.round : ℚ) - x.value| ≤ 1 / 2 := by
  have hround := abs_roundHalfUp_sub_le x.mantissa (Nat.two_pow_pos x.scale)
  rw [Nat.cast_pow, Nat.cast_ofNat] at hround
  rw [round, value, Nat.one_shiftLeft]
  exact hround

theorem two_pow_mul_le_shifted {n d : Nat} (hn : 0 < n) (hnd : n ≤ d) :
    2 ^ 52 * d ≤ n * 2 ^ quotientShift n d := by
  have hlog : Nat.log2 n ≤ Nat.log2 d := by
    rw [Nat.log2_eq_log_two, Nat.log2_eq_log_two]
    exact Nat.log_mono_right hnd
  rw [quotientShift]
  simp only [Nat.shiftLeft_eq, precision]
  split
  · next h =>
    obtain ⟨shift, hshift⟩ : ∃ shift, 53 + Nat.log2 d - Nat.log2 n = shift + 1 :=
      Nat.exists_eq_succ_of_ne_zero (by omega)
    rw [hshift, Nat.pow_succ 2 shift, ← Nat.mul_assoc] at h
    rw [hshift, Nat.add_sub_cancel]
    omega
  · calc 2 ^ 52 * d ≤ 2 ^ 52 * 2 ^ (Nat.log2 d + 1) :=
          Nat.mul_le_mul_left _ (Nat.le_of_lt Nat.lt_log2_self)
      _ = 2 ^ Nat.log2 n * 2 ^ (53 + Nat.log2 d - Nat.log2 n) := by
          rw [← Nat.pow_add, ← Nat.pow_add]
          congr 1
          omega
      _ ≤ n * 2 ^ (53 + Nat.log2 d - Nat.log2 n) :=
          Nat.mul_le_mul_right _ (Nat.log2_self_le (Nat.ne_of_gt hn))

theorem abs_quotient_sub_le {n d : Nat} (hn : 0 < n) (hnd : n ≤ d) :
    |(quotient n d).value - n / d| ≤ n / d / 2 ^ 53 := by
  have hd : 0 < d := Nat.lt_of_lt_of_le hn hnd
  have hd' : (0 : ℚ) < d := by exact_mod_cast hd
  have hround := abs_roundHalfEven_sub_le (n * 2 ^ quotientShift n d) hd
  have hdigits : (2 ^ 52 * d : ℚ) ≤ n * 2 ^ quotientShift n d := by
    exact_mod_cast two_pow_mul_le_shifted hn hnd
  have hpow : (0 : ℚ) < 2 ^ quotientShift n d := by positivity
  have hvalue : (quotient n d).value - n / d =
      (roundHalfEven (n * 2 ^ quotientShift n d) d - (n * 2 ^ quotientShift n d : ℕ) / d) /
        2 ^ quotientShift n d := by
    rw [BinaryFraction.value, quotient, Nat.shiftLeft_eq]
    push_cast
    field_simp
  rw [hvalue, abs_div, abs_of_pos hpow, div_le_iff₀ hpow]
  refine hround.trans ?_
  rw [div_div, div_mul_eq_mul_div, le_div_iff₀ (by positivity)]
  linarith

theorem abs_product_mantissa_sub_le (n : Nat) (x : BinaryFraction) :
    |((product n x).mantissa : ℚ) - n * x.mantissa| ≤ n * x.mantissa / 2 ^ 53 := by
  rw [product]
  simp only [Nat.shiftLeft_eq, Nat.one_mul, precision]
  generalize hexact : n * x.mantissa = exact
  have hcast : (n * x.mantissa : ℚ) = exact := by rw [← hexact, Nat.cast_mul]
  rw [hcast]
  by_cases hsurplus : Nat.log2 exact + 1 - 53 = 0
  · rw [hsurplus, Nat.pow_zero, roundHalfEven_one, Nat.mul_one, sub_self, abs_zero]
    positivity
  · have hne : exact ≠ 0 := by
      rintro rfl
      exact hsurplus (by decide)
    have hdigits : (2 ^ (Nat.log2 exact + 1 - 53) * 2 ^ 52 : ℚ) ≤ exact := by
      have hpow : 2 ^ (Nat.log2 exact + 1 - 53) * 2 ^ 52 ≤ exact := by
        rw [← Nat.pow_add, show Nat.log2 exact + 1 - 53 + 52 = Nat.log2 exact by omega]
        exact Nat.log2_self_le hne
      exact_mod_cast hpow
    generalize Nat.log2 exact + 1 - 53 = surplus at hdigits
    have hround := abs_roundHalfEven_sub_le exact (Nat.two_pow_pos surplus)
    have hpow : (0 : ℚ) < 2 ^ surplus := by positivity
    have hmantissa : ((roundHalfEven exact (2 ^ surplus) * 2 ^ surplus : ℕ) : ℚ) - exact =
        (roundHalfEven exact (2 ^ surplus) - exact / (2 ^ surplus : ℕ)) * 2 ^ surplus := by
      push_cast
      field_simp
    rw [hmantissa, abs_mul, abs_of_pos hpow]
    have := mul_le_mul_of_nonneg_right hround hpow.le
    linarith

theorem abs_product_sub_le (n : Nat) (x : BinaryFraction) :
    |(product n x).value - n * x.value| ≤ n * x.value / 2 ^ 53 := by
  have hpow : (0 : ℚ) < 2 ^ x.scale := by positivity
  have hvalue : (product n x).value - n * x.value =
      ((product n x).mantissa - n * x.mantissa) / 2 ^ x.scale := by
    rw [BinaryFraction.value, BinaryFraction.value, sub_div, mul_div_assoc]
    rfl
  have hbound : n * x.value / 2 ^ 53 = n * x.mantissa / 2 ^ 53 / 2 ^ x.scale := by
    rw [BinaryFraction.value]
    ring
  rw [hvalue, hbound, abs_div, abs_of_pos hpow]
  exact div_le_div_of_nonneg_right (abs_product_mantissa_sub_le n x) hpow.le

theorem abs_product_quotient_sub_le (k : Nat) {n d : Nat} (hn : 0 < n) (hnd : n ≤ d) :
    |(product k (quotient n d)).value - k * n / d| ≤ k * n / d / 2 ^ 51 := by
  have hk : (0 : ℚ) ≤ k := by positivity
  have hquotient : |k * (quotient n d).value - k * n / d| ≤ k * n / d / 2 ^ 53 := by
    have h := mul_le_mul_of_nonneg_left (abs_quotient_sub_le hn hnd) hk
    rw [← abs_of_nonneg hk, ← abs_mul, abs_of_nonneg hk] at h
    calc |k * (quotient n d).value - k * n / d| = |k * ((quotient n d).value - n / d)| := by
          rw [mul_sub, mul_div_assoc]
      _ ≤ k * (n / d / 2 ^ 53) := h
      _ = k * n / d / 2 ^ 53 := by ring
  have hproduct := abs_product_sub_le k (quotient n d)
  have hnonneg : (0 : ℚ) ≤ k * n / d := by positivity
  rw [abs_le] at hquotient hproduct ⊢
  constructor
  · linarith
  · linarith

end ImageIntake.Number
