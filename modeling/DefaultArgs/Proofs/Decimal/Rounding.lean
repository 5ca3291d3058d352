import DefaultArgs.Decimal.Layout
import Mathlib.Algebra.Order.Field.Power
import Mathlib.Data.Rat.Cast.Order
import Mathlib.Tactic.FieldSimp
import Mathlib.Tactic.NormNum
import Mathlib.Tactic.Positivity
import Mathlib.Tactic.Ring

/-!
# The magnitude of a decimal

A decimal is rounded by one division of whole numbers, and there are many divisions for one number:
the digits may end in zeros, and the exponent may be positive or negative. The quotient does not
depend on this, since rounding only looks at a ratio. So all decimals of one size have the same
magnitude, also those whose exponent alone settles it.

The shortest decimal of a magnitude is found by trying, so it reads back by construction. The search
cannot fail: the exact decimal is its last candidate, and an exact number is its own rounding.

## Main definitions

* `Decimal.size d`: the number that a decimal stands for, without its sign

## Main results

* `nearest_congr`: rounding depends on the ratio only
* `ofDecimal_eq`: the magnitude of a decimal is the rounding of its size
* `ofDecimal_congr`: decimals of one size have one magnitude
* `ofDecimal_shortest`: the shortest decimal of a finite magnitude reads back
-/

namespace DefaultArgs

/-- The number that a decimal stands for, without its sign. -/
def Decimal.size (d : Decimal) : ℚ :=
  d.digits * (10 : ℚ) ^ d.exponent

namespace FloatFormat

variable {f : FloatFormat} {num den num' den' k n e : ℕ} {d d' : Decimal}

section Ratios

theorem roundHalfEven_one (n : ℕ) : roundHalfEven n 1 = n := by
  simp [roundHalfEven, Nat.mod_one]

/-- Rounding does not see a common factor. -/
theorem roundHalfEven_mul_right (factor : 0 < k) :
    roundHalfEven (num * k) (den * k) = roundHalfEven num den := by
  have less : 2 * (num * k % (den * k)) < den * k ↔ 2 * (num % den) < den := by
    rw [Nat.mul_mod_mul_right, ← mul_assoc, Nat.mul_lt_mul_right factor]
  have half : 2 * (num * k % (den * k)) = den * k ↔ 2 * (num % den) = den := by
    rw [Nat.mul_mod_mul_right, ← mul_assoc, Nat.mul_left_inj factor.ne']
  simp only [roundHalfEven, less, half, Nat.mul_div_mul_right _ _ factor]

theorem nearest_mul_right (factor : 0 < k) : f.nearest (num * k) (den * k) = f.nearest num den := by
  rw [nearest, nearest, Nat.mul_div_mul_right _ _ factor]
  rw [Nat.mul_right_comm, roundHalfEven_mul_right factor]

/-- **Rounding depends on the ratio only.** -/
theorem nearest_congr (pos : 0 < den) (pos' : 0 < den') (same : num * den' = num' * den) :
    f.nearest num den = f.nearest num' den' :=
  calc f.nearest num den = f.nearest (num * den') (den * den') := (nearest_mul_right pos').symm
    _ = f.nearest (num' * den) (den' * den) := by rw [same, mul_comm den den']
    _ = f.nearest num' den' := nearest_mul_right pos

/-- A ratio below one half is rounded to zero. -/
theorem nearest_of_small (small : 2 * num < den) : f.nearest num den = 0 := by
  have lt : num < den := by omega
  have rounded : roundHalfEven num den = 0 := by
    simp [roundHalfEven, Nat.div_eq_of_lt lt, Nat.mod_eq_of_lt lt, small]
  simp [nearest, Nat.div_eq_of_lt lt, rounded]

/-- A ratio that needs more than the exponent field is rounded to infinity at least. -/
theorem infinity_le_nearest (pos : 0 < den)
    (large : 2 ^ (2 ^ f.exponentBits + f.fractionBits) * den ≤ num) :
    f.infinity ≤ f.nearest num den := by
  have quotient : 2 ^ (2 ^ f.exponentBits + f.fractionBits) ≤ num / den :=
    (Nat.le_div_iff_mul_le pos).2 large
  have positive : num / den ≠ 0 := (lt_of_lt_of_le (by positivity) quotient).ne'
  have shift : 2 ^ f.exponentBits ≤ (num / den).log2 - f.fractionBits :=
    Nat.le_sub_of_add_le ((Nat.le_log2 positive).2 quotient)
  calc f.infinity ≤ 2 ^ f.exponentBits * 2 ^ f.fractionBits :=
        Nat.mul_le_mul_right _ (Nat.sub_le _ _)
    _ ≤ ((num / den).log2 - f.fractionBits) * 2 ^ f.fractionBits := Nat.mul_le_mul_right _ shift
    _ ≤ f.nearest num den := Nat.le_add_right _ _

end Ratios

section Units

theorem units_of_lt (lt : n < 2 ^ f.fractionBits) : f.units n = n := by
  have field : n / Nat.pow 2 f.fractionBits = 0 := Nat.div_eq_of_lt lt
  simp only [units, field, if_pos]

theorem units_add {m : ℕ} (lt : m < 2 ^ f.fractionBits) :
    f.units ((k + 1) * 2 ^ f.fractionBits + m) = (2 ^ f.fractionBits + m) * 2 ^ k := by
  have field : ((k + 1) * 2 ^ f.fractionBits + m) / 2 ^ f.fractionBits = k + 1 := by
    rw [mul_comm, Nat.mul_add_div (by positivity), Nat.div_eq_of_lt lt, add_zero]
  have fraction : ((k + 1) * 2 ^ f.fractionBits + m) % 2 ^ f.fractionBits = m := by
    rw [mul_comm, Nat.mul_add_mod, Nat.mod_eq_of_lt lt]
  simp only [units, Nat.pow_eq, field, fraction, Nat.add_sub_cancel, Nat.succ_ne_zero, if_false]

/-- **An exact number is its own rounding.** Below the first exponent it counts units. Above, its
leading bit is the hidden one, moved up by the exponent field. -/
theorem nearest_units (n : ℕ) : f.nearest (f.units n) 1 = n := by
  rcases lt_or_ge n (2 ^ f.fractionBits) with lt | ge
  · have shift : n.log2 - f.fractionBits = 0 := by
      rcases eq_or_ne n 0 with rfl | positive
      · simp
      · have := (Nat.log2_lt positive).2 lt
        omega
    rw [units_of_lt lt, nearest, Nat.div_one, shift]
    simp [roundHalfEven_one]
  · obtain ⟨k, m, lt, rfl⟩ : ∃ k m, m < 2 ^ f.fractionBits ∧
        n = (k + 1) * 2 ^ f.fractionBits + m := by
      refine ⟨n / 2 ^ f.fractionBits - 1, n % 2 ^ f.fractionBits, Nat.mod_lt _ (by positivity), ?_⟩
      have field : 0 < n / 2 ^ f.fractionBits := Nat.div_pos ge (by positivity)
      rw [Nat.sub_add_cancel field]
      exact (Nat.div_add_mod' n _).symm
    have leading : ((2 ^ f.fractionBits + m) * 2 ^ k).log2 = f.fractionBits + k := by
      rw [Nat.log2_eq_iff (by positivity)]
      constructor
      · rw [pow_add]
        gcongr
        omega
      · rw [pow_succ, pow_add, mul_right_comm]
        gcongr
        omega
    rw [units_add lt, nearest, Nat.div_one, leading, Nat.add_sub_cancel_left, Nat.pow_eq, Nat.pow_eq,
      roundHalfEven_mul_right (by positivity), roundHalfEven_one]
    ring

end Units

section Decimals

/-- The units of a decimal with a non-negative exponent. -/
theorem num_eq_of_size (pos : 0 < den) (exponent : d.exponent = (e : ℤ))
    (ratio : (num : ℚ) / den = d.size * 2 ^ f.scale) :
    num = d.digits * 10 ^ e * 2 ^ f.scale * den := by
  have positive : (den : ℚ) ≠ 0 := by positivity
  rw [Decimal.size, exponent, zpow_natCast, div_eq_iff positive] at ratio
  exact_mod_cast ratio

/-- The units of a decimal with a negative exponent are a fraction. -/
theorem num_mul_eq_of_size (pos : 0 < den) (exponent : d.exponent = -(e : ℤ))
    (ratio : (num : ℚ) / den = d.size * 2 ^ f.scale) :
    num * 10 ^ e = d.digits * 2 ^ f.scale * den := by
  have positive : (den : ℚ) ≠ 0 := by positivity
  rw [Decimal.size, exponent, zpow_neg, zpow_natCast, div_eq_iff positive] at ratio
  have cleared : (num : ℚ) * 10 ^ e = d.digits * 2 ^ f.scale * den := by
    rw [ratio]
    field_simp
  exact_mod_cast cleared

/-- An exponent that is too large for the format. -/
theorem infinity_le_nearest_of_exponent (pos : 0 < den) (digits : d.digits ≠ 0)
    (large : (Nat.pow 2 f.exponentBits : ℤ) ≤ d.exponent)
    (ratio : (num : ℚ) / den = d.size * 2 ^ f.scale) : f.infinity ≤ f.nearest num den := by
  obtain ⟨e, exponent⟩ := Int.eq_ofNat_of_zero_le ((Int.natCast_nonneg _).trans large)
  rw [exponent, Int.ofNat_le, Nat.pow_eq] at large
  refine infinity_le_nearest pos ?_
  rw [num_eq_of_size pos exponent ratio]
  have bits : f.fractionBits ≤ f.scale := Nat.le_add_left _ _
  calc 2 ^ (2 ^ f.exponentBits + f.fractionBits) * den ≤ 2 ^ (e + f.scale) * den := by
        gcongr
        · omega
    _ = 1 * 2 ^ e * 2 ^ f.scale * den := by ring
    _ ≤ d.digits * 10 ^ e * 2 ^ f.scale * den := by gcongr <;> omega

/-- An exponent that is too small for the format. -/
theorem nearest_of_exponent (pos : 0 < den)
    (small : d.exponent + d.digits.log2 + f.scale + 2 < 0)
    (ratio : (num : ℚ) / den = d.size * 2 ^ f.scale) : f.nearest num den = 0 := by
  obtain ⟨k, exponent⟩ : ∃ k : ℕ, d.exponent = -(k : ℤ) := ⟨(-d.exponent).toNat, by omega⟩
  have units := num_mul_eq_of_size pos exponent ratio
  refine nearest_of_small (Nat.lt_of_mul_lt_mul_right (a := 10 ^ k) ?_)
  calc 2 * num * 10 ^ k = 2 * (num * 10 ^ k) := by ring
    _ = d.digits * (2 ^ (f.scale + 1) * den) := by rw [units]; ring
    _ < 2 ^ (d.digits.log2 + 1) * (2 ^ (f.scale + 1) * den) := by
        gcongr
        exact Nat.lt_log2_self
    _ = den * 2 ^ (d.digits.log2 + 1 + (f.scale + 1)) := by ring
    _ ≤ den * 2 ^ k := by gcongr <;> omega
    _ ≤ den * 10 ^ k := by gcongr; omega

/-- **The magnitude of a decimal is the rounding of its size**, counted in units. -/
theorem ofDecimal_eq (pos : 0 < den) (ratio : (num : ℚ) / den = d.size * 2 ^ f.scale) :
    f.ofDecimal d = min f.infinity (f.nearest num den) := by
  unfold ofDecimal
  split
  · next zero =>
    have none : num = 0 := by
      have positive : (den : ℚ) ≠ 0 := by positivity
      rw [Decimal.size, zero, Nat.cast_zero, zero_mul, zero_mul, div_eq_iff positive, zero_mul]
        at ratio
      exact_mod_cast ratio
    subst none
    rw [nearest_of_small (by omega), Nat.min_zero]
  · next digits =>
    split
    · next large =>
      exact (Nat.min_eq_left (infinity_le_nearest_of_exponent pos digits large ratio)).symm
    · split
      · next small => rw [nearest_of_exponent pos small ratio, Nat.min_zero]
      · split
        · next e exponent =>
          have units := num_eq_of_size pos exponent ratio
          congr 1
          refine nearest_congr (by omega) pos ?_
          rw [units]
          simp only [Nat.pow_eq]
          ring
        · next e exponent =>
          have units := num_mul_eq_of_size (e := e + 1) pos exponent ratio
          congr 1
          simp only [Nat.pow_eq]
          exact nearest_congr (by positivity) pos units.symm

/-- **Decimals of one size have one magnitude.** -/
theorem ofDecimal_congr (same : d.size = d'.size) : f.ofDecimal d = f.ofDecimal d' := by
  have positive : 0 ≤ d.size * 2 ^ f.scale := by
    rw [Decimal.size]
    positivity
  have ratio : ((d.size * 2 ^ f.scale).num.toNat : ℚ) / (d.size * 2 ^ f.scale).den =
      d.size * 2 ^ f.scale := by
    have whole : ((d.size * 2 ^ f.scale).num.toNat : ℤ) = (d.size * 2 ^ f.scale).num :=
      Int.toNat_of_nonneg (Rat.num_nonneg.2 positive)
    rw [← Int.cast_natCast, whole, Rat.num_div_den]
  rw [ofDecimal_eq (Rat.den_pos _) ratio, ofDecimal_eq (Rat.den_pos _) (ratio.trans (by rw [same]))]

/-- The exact decimal of a finite magnitude reads back. -/
theorem ofDecimal_exact (finite : n < f.infinity) :
    f.ofDecimal (f.dropping 0 (f.exactDigits n)) = n := by
  have ratio : ((f.units n : ℕ) : ℚ) / (1 : ℕ) =
      (f.dropping 0 (f.exactDigits n)).size * 2 ^ f.scale := by
    have exponent : ((0 : ℕ) : ℤ) - (f.scale : ℤ) = -(f.scale : ℤ) := by omega
    rw [Decimal.size, dropping, exactDigits, exponent, zpow_neg, zpow_natCast, Nat.pow_eq]
    push_cast
    rw [show (10 : ℚ) = 5 * 2 by norm_num, mul_pow]
    field_simp
  rw [ofDecimal_eq Nat.one_pos ratio, nearest_units, Nat.min_eq_right finite.le]

theorem ofDecimal_shortestFrom (finite : n < f.infinity) (dropped : ℕ) :
    f.ofDecimal (f.shortestFrom n (f.exactDigits n) dropped) = n := by
  induction dropped with
  | zero => exact ofDecimal_exact finite
  | succ dropped ih =>
    rw [shortestFrom]
    split
    · next d found => simpa using List.find?_some found
    · exact ih

/-- **The shortest decimal of a finite magnitude reads back.** -/
theorem ofDecimal_shortest (finite : n < f.infinity) : f.ofDecimal (f.shortest n) = n :=
  ofDecimal_shortestFrom finite _

end Decimals

end FloatFormat

end DefaultArgs
