import DeviceAlerts.Number.Binary64
import Mathlib.Algebra.Order.Field.Power
import Mathlib.Algebra.Order.Field.Rat
import Mathlib.Data.Rat.Cast.Order
import Mathlib.Tactic.FieldSimp
import Mathlib.Tactic.Linarith
import Mathlib.Tactic.NormNum
import Mathlib.Tactic.Positivity
import Mathlib.Tactic.Ring

/-! Rounding of exact ratios. The nearest number depends on nothing but the value of the ratio, it
is finite unless the ratio is very large, and it is the ratio itself where a numerator of 53 bits
stands over a power of two. -/

namespace DeviceAlerts.Number.Binary64

@[simp] theorem powerOfTwo_eq (e : Nat) : powerOfTwo e = 2 ^ e := rfl

/-! ### Naturals -/

theorem roundHalfEven_mul {num den c : Nat} (h : 0 < c) :
    roundHalfEven (c * num) (c * den) = roundHalfEven num den := by
  have twice : 2 * (c * (num % den)) = c * (2 * (num % den)) := by ring
  simp only [roundHalfEven, Nat.mul_div_mul_left _ _ h, Nat.mul_mod_mul_left, twice,
    Nat.mul_lt_mul_left h]

/-- Equal ratios are rounded alike. -/
theorem roundHalfEven_congr {a b c d : Nat} (hb : 0 < b) (hd : 0 < d)
    (h : (a : ℚ) / b = c / d) : roundHalfEven a b = roundHalfEven c d := by
  have cross : a * d = c * b := by
    have hb' : (b : ℚ) ≠ 0 := by positivity
    have hd' : (d : ℚ) ≠ 0 := by positivity
    exact_mod_cast (div_eq_div_iff hb' hd').mp h
  rw [← roundHalfEven_mul hd, ← @roundHalfEven_mul c d b hb, mul_comm d a, cross, mul_comm b c,
    mul_comm d b]

theorem roundHalfEven_of_eq {num den k : Nat} (h : 0 < den) (same : (num : ℚ) / den = k) :
    roundHalfEven num den = k := by
  rw [roundHalfEven_congr h Nat.one_pos (by simpa using same)]
  simp [roundHalfEven, Nat.mod_one]

theorem roundHalfEven_le {num den k : Nat} (h : 0 < den) (most : (num : ℚ) / den ≤ k) :
    roundHalfEven num den ≤ k := by
  have below : num ≤ k * den := by
    rw [div_le_iff₀ (by positivity)] at most
    exact_mod_cast most
  have floor : num / den ≤ k := Nat.div_le_of_le_mul (by rwa [mul_comm])
  have split := Nat.div_add_mod num den
  rcases floor.lt_or_eq with less | same
  · dsimp only [roundHalfEven]
    split_ifs <;> omega
  · have none : num % den = 0 := by
      rw [same, mul_comm] at split
      omega
    simp only [roundHalfEven, none]
    rw [if_pos (by omega)]
    exact floor

/-! ### Binades -/

theorem zpow_toNat {e : Int} (h : 0 ≤ e) : ((2 : ℚ) ^ e.toNat) = 2 ^ e := by
  rw [← zpow_natCast, Int.toNat_of_nonneg h]

/-- The test of the exponent that the lengths suggest. -/
theorem fits_iff {num den : Nat} (hd : 0 < den) (e : Int) :
    (if 0 ≤ e then den * powerOfTwo e.toNat ≤ num else den ≤ num * powerOfTwo (-e).toNat) ↔
      (2 : ℚ) ^ e ≤ num / den := by
  have positive : (0 : ℚ) < den := by positivity
  rw [le_div_iff₀ positive]
  split
  · next up =>
    rw [← zpow_toNat up, powerOfTwo_eq, mul_comm]
    exact_mod_cast Iff.rfl
  · next down =>
    have inverse : (2 : ℚ) ^ e = ((2 : ℚ) ^ (-e).toNat)⁻¹ := by
      rw [zpow_toNat (by omega), zpow_neg, inv_inv]
    have power : (0 : ℚ) < 2 ^ (-e).toNat := by positivity
    rw [inverse, inv_mul_le_iff₀ power, powerOfTwo_eq, mul_comm num]
    exact_mod_cast Iff.rfl

theorem binade_spec {num den : Nat} (hn : 0 < num) (hd : 0 < den) :
    (2 : ℚ) ^ binade num den ≤ num / den ∧ (num : ℚ) / den < 2 ^ (binade num den + 1) := by
  have positive : (0 : ℚ) < den := by positivity
  have numLow : (2 : ℚ) ^ (num.log2 : Int) ≤ num := by
    exact_mod_cast Nat.log2_self_le hn.ne'
  have numHigh : (num : ℚ) < 2 ^ (num.log2 + 1 : Int) := by
    exact_mod_cast @Nat.lt_log2_self num
  have denLow : (2 : ℚ) ^ (den.log2 : Int) ≤ den := by
    exact_mod_cast Nat.log2_self_le hd.ne'
  have denHigh : (den : ℚ) < 2 ^ (den.log2 + 1 : Int) := by
    exact_mod_cast @Nat.lt_log2_self den
  -- the lengths alone leave two binades
  have high : (num : ℚ) / den < 2 ^ ((num.log2 : Int) - den.log2 + 1) := by
    rw [div_lt_iff₀ positive]
    calc (num : ℚ) < 2 ^ (num.log2 + 1 : Int) := numHigh
      _ = 2 ^ ((num.log2 : Int) - den.log2 + 1) * 2 ^ (den.log2 : Int) := by
        rw [← zpow_add₀ two_ne_zero]
        congr 1
        ring
      _ ≤ 2 ^ ((num.log2 : Int) - den.log2 + 1) * den :=
        mul_le_mul_of_nonneg_left denLow (by positivity)
  have low : (2 : ℚ) ^ ((num.log2 : Int) - den.log2 - 1) ≤ num / den := by
    rw [le_div_iff₀ positive]
    calc (2 : ℚ) ^ ((num.log2 : Int) - den.log2 - 1) * den
        ≤ 2 ^ ((num.log2 : Int) - den.log2 - 1) * 2 ^ (den.log2 + 1 : Int) :=
        mul_le_mul_of_nonneg_left denHigh.le (by positivity)
      _ = 2 ^ (num.log2 : Int) := by
        rw [← zpow_add₀ two_ne_zero]
        congr 1
        ring
      _ ≤ num := numLow
  have fits := @fits_iff num den hd (Int.ofNat num.log2 - Int.ofNat den.log2)
  simp only [binade, Int.ofNat_eq_natCast] at fits ⊢
  by_cases h : (2 : ℚ) ^ ((num.log2 : Int) - den.log2) ≤ num / den
  · rw [if_pos (fits.mpr h)]
    exact ⟨h, high⟩
  · rw [if_neg fun fit => h (fits.mp fit), sub_add_cancel]
    exact ⟨low, not_le.mp h⟩

/-- A ratio lies in one binade only. -/
theorem binade_eq {num den : Nat} (hn : 0 < num) (hd : 0 < den) {e : Int}
    (low : (2 : ℚ) ^ e ≤ num / den) (high : (num : ℚ) / den < 2 ^ (e + 1)) :
    binade num den = e := by
  obtain ⟨hlow, hhigh⟩ := binade_spec hn hd
  have first := (zpow_lt_zpow_iff_right₀ (one_lt_two : (1 : ℚ) < 2)).mp (low.trans_lt hhigh)
  have second := (zpow_lt_zpow_iff_right₀ (one_lt_two : (1 : ℚ) < 2)).mp (hlow.trans_lt high)
  omega

/-! ### Magnitudes -/

/-- The size of the steps in which magnitudes of a binade go up, as an exponent. -/
def unit (binade : Int) : Int := max (binade - 52) (-1074)

/-- A ratio is rounded to a whole number of steps. -/
theorem roundRatio_eq {num den : Nat} (hn : 0 < num) (hd : 0 < den) : ∃ n d : Nat, 0 < d ∧
    (n : ℚ) / d = num / den / 2 ^ unit (binade num den) ∧ roundRatio num den =
      min ((unit (binade num den) + 1074).toNat * 2 ^ 52 + roundHalfEven n d)
        infiniteMagnitude := by
  have some : (num == 0) = false := by simpa using hn.ne'
  by_cases up : 0 ≤ unit (binade num den)
  · refine ⟨num, den * 2 ^ (unit (binade num den)).toNat, by positivity, ?_, ?_⟩
    · push_cast
      rw [zpow_toNat up, div_div]
    · rw [roundRatio, some]
      simp only [unit] at up
      simp [unit, up]
  · refine ⟨num * 2 ^ (-unit (binade num den)).toNat, den, hd, ?_, ?_⟩
    · push_cast
      rw [zpow_toNat (by omega), zpow_neg]
      ring
    · rw [roundRatio, some]
      simp only [unit] at up
      simp [unit, up]

/-- The nearest magnitude depends on nothing but the value of the ratio. -/
theorem roundRatio_congr {a b c d : Nat} (hb : 0 < b) (hd : 0 < d)
    (h : (a : ℚ) / b = c / d) : roundRatio a b = roundRatio c d := by
  rcases Nat.eq_zero_or_pos a with rfl | ha
  · have none : (c : ℚ) = 0 := by
      have hd' : (d : ℚ) ≠ 0 := by positivity
      simpa [hd'] using h.symm
    rw [show c = 0 by exact_mod_cast none]
    simp [roundRatio]
  have hc : 0 < c := by
    have positive : (0 : ℚ) < c / d := by
      rw [← h]
      positivity
    by_contra none
    rw [Nat.eq_zero_of_not_pos none] at positive
    simp at positive
  have same : binade a b = binade c d := by
    obtain ⟨low, high⟩ := binade_spec hc hd
    rw [← h] at low high
    exact binade_eq ha hb low high
  obtain ⟨n, m, hm, value, hleft⟩ := roundRatio_eq ha hb
  obtain ⟨n', m', hm', value', hright⟩ := roundRatio_eq hc hd
  rw [hleft, hright, same, roundHalfEven_congr hm hm' (by rw [value, value', h, same])]

/-- A ratio that is not very large has a finite magnitude. -/
theorem roundRatio_lt {num den e : Nat} (hd : 0 < den) (he : e ≤ 1023)
    (h : (num : ℚ) / den < 2 ^ e) : roundRatio num den < infiniteMagnitude := by
  rcases Nat.eq_zero_or_pos num with rfl | hn
  · simp [roundRatio, infiniteMagnitude]
  obtain ⟨n, d, hpos, value, hround⟩ := roundRatio_eq hn hd
  obtain ⟨low, high⟩ := binade_spec hn hd
  have small : binade num den < e := by
    have := low.trans_lt h
    rw [← zpow_natCast] at this
    exact (zpow_lt_zpow_iff_right₀ (one_lt_two : (1 : ℚ) < 2)).mp this
  have steps : roundHalfEven n d ≤ 2 ^ 53 := by
    refine roundHalfEven_le hpos ?_
    have within : binade num den + 1 - unit (binade num den) ≤ 53 := by
      simp only [unit]
      omega
    calc (n : ℚ) / d = num / den / 2 ^ unit (binade num den) := value
      _ ≤ 2 ^ (binade num den + 1) / 2 ^ unit (binade num den) := by gcongr
      _ = 2 ^ (binade num den + 1 - unit (binade num den)) := (zpow_sub₀ two_ne_zero _ _).symm
      _ ≤ 2 ^ (53 : Int) := zpow_le_zpow_right₀ one_le_two within
      _ = ((2 ^ 53 : Nat) : ℚ) := by norm_num
  have shift : (unit (binade num den) + 1074).toNat ≤ 2044 := by
    simp only [unit]
    omega
  have total : (unit (binade num den) + 1074).toNat * 2 ^ 52 + roundHalfEven n d <
      infiniteMagnitude := by
    rw [infiniteMagnitude]
    omega
  rw [hround, min_eq_left total.le]
  exact total

/-- A whole number of 53 bits times a power of two is its own magnitude. -/
theorem roundRatio_exact {num den k : Nat} {e : Int} (hd : 0 < den) (hk : 2 ^ 52 ≤ k)
    (hk' : k < 2 ^ 53) (he : -1074 ≤ e) (he' : e ≤ 970) (h : (num : ℚ) / den = k * 2 ^ e) :
    roundRatio num den = (e + 1074).toNat * 2 ^ 52 + k := by
  have low : (2 : ℚ) ^ (e + 52) ≤ num / den := by
    rw [h, add_comm, zpow_add₀ two_ne_zero]
    gcongr
    exact_mod_cast hk
  have high : (num : ℚ) / den < 2 ^ (e + 52 + 1) := by
    rw [h, add_assoc, add_comm, zpow_add₀ two_ne_zero]
    gcongr
    exact_mod_cast hk'
  have hn : 0 < num := by
    by_contra none
    rw [Nat.eq_zero_of_not_pos none, Nat.cast_zero, zero_div] at low
    exact absurd low (not_le.mpr (by positivity))
  have within : binade num den = e + 52 := binade_eq hn hd low high
  obtain ⟨n, d, hpos, value, hround⟩ := roundRatio_eq hn hd
  have hunit : unit (binade num den) = e := by
    rw [within, unit]
    omega
  rw [hunit] at value hround
  have steps : roundHalfEven n d = k := by
    refine roundHalfEven_of_eq hpos ?_
    rw [value, h, mul_div_assoc, div_self (by positivity), mul_one]
  rw [hround, steps, min_eq_left]
  rw [infiniteMagnitude]
  omega

/-! ### Numbers -/

/-- The rational number that a finite number is. -/
def value? : Binary64 → Option ℚ
  | nan => none
  | signed negative m =>
    if m.val < infiniteMagnitude then
      some ((if negative then -1 else 1) * ((ratio m.val).num / (ratio m.val).den))
    else none

/-- The nearest number to a rational number. -/
def nearest (q : ℚ) : Binary64 := ofQuotient q.num q.den

theorem ofQuotient_eq_nearest (a : Int) {b : Nat} (hb : 0 < b) :
    ofQuotient a b = nearest (a / b) := by
  have positive : (0 : ℚ) < b := by positivity
  have sign : a < 0 ↔ (a / b : ℚ).num < 0 := by
    rw [Rat.num_neg, div_lt_iff₀ positive, zero_mul]
    exact_mod_cast Iff.rfl
  have size : (a.natAbs : ℚ) / b = (a / b : ℚ).num.natAbs / (a / b : ℚ).den := by
    have whole : |(a / b : ℚ)| = |((a / b : ℚ).num : ℚ) / (a / b : ℚ).den| := by
      rw [Rat.num_div_den]
    rw [abs_div, abs_div, Nat.abs_cast, Nat.abs_cast] at whole
    simpa [Nat.cast_natAbs] using whole
  simp only [ofQuotient, nearest, ofRatio, roundRatio_congr hb (Rat.den_pos _) size, sign]

theorem ofInt_eq_nearest (i : Int) : ofInt i = nearest i := by
  rw [ofInt, nearest, ofQuotient, Rat.num_intCast, Rat.den_intCast]

section Finite

variable {e : Nat} (he : e ≤ 1023)

include he

theorem isFinite_ofQuotient {a : Int} {b : Nat} (hb : 0 < b) (h : a.natAbs < 2 ^ e) :
    (ofQuotient a b).isFinite = true := by
  have small : (a.natAbs : ℚ) / b < 2 ^ e := by
    have whole : (1 : ℚ) ≤ b := by exact_mod_cast hb
    refine (div_le_self (by positivity) whole).trans_lt ?_
    exact_mod_cast h
  have finite := roundRatio_lt hb he small
  simp [ofQuotient, ofRatio, ofMagnitude, isFinite, finite]

theorem ofQuotientChecked_ok {a : Int} {b : Nat} (hb : 0 < b) (h : a.natAbs < 2 ^ e) :
    ofQuotientChecked a b = .ok (nearest (a / b)) := by
  rw [ofQuotientChecked, if_pos (isFinite_ofQuotient he hb h), ofQuotient_eq_nearest a hb]

theorem ofIntChecked_ok {i : Int} (h : i.natAbs < 2 ^ e) : ofIntChecked i = .ok (nearest i) := by
  have finite : (ofInt i).isFinite = true := isFinite_ofQuotient he Nat.one_pos h
  rw [ofIntChecked, if_pos finite, ofInt_eq_nearest]

end Finite

theorem scaled_magnitude {k e : Nat} (hk : 2 ^ 52 ≤ k) (hk' : k < 2 ^ 53) :
    scaled (e * 2 ^ 52 + k) = ⟨k, (e : Int) - 1074⟩ := by
  have binade : (e * 2 ^ 52 + k) / 2 ^ 52 = e + 1 := by omega
  have rest : (e * 2 ^ 52 + k) % 2 ^ 52 = k - 2 ^ 52 := by omega
  rw [scaled, powerOfTwo_eq, if_neg (by omega), binade, rest]
  refine congrArg₂ Scaled.mk (Nat.add_sub_cancel' hk) ?_
  rw [Int.ofNat_eq_natCast]
  push_cast
  ring

theorem value_ratio (s : Scaled) :
    (s.ratio.num : ℚ) / s.ratio.den = s.mantissa * 2 ^ s.exponent := by
  rw [Scaled.ratio]
  split
  · next up => simp [zpow_toNat up]
  · next down =>
    push_cast [powerOfTwo_eq]
    rw [zpow_toNat (by omega), zpow_neg, div_inv_eq_mul]

/-- A fraction with a numerator of 53 bits over a power of two, its numerator shifted to full
length. -/
theorem exists_shifted {n j : Nat} (positive : 0 < n) (hn : n < 2 ^ 53) (hj : j ≤ 1000) :
    ∃ k e : Nat, 2 ^ 52 ≤ k ∧ k < 2 ^ 53 ∧ e ≤ 1074 ∧
      (n : ℚ) / (2 ^ j : Nat) = k * 2 ^ ((e : Int) - 1074) := by
  have low := Nat.log2_self_le positive.ne'
  have high := @Nat.lt_log2_self n
  have length : n.log2 ≤ 52 := by
    have := (Nat.log2_lt positive.ne').mpr hn
    omega
  have power : 2 ^ n.log2 * 2 ^ (52 - n.log2) = 2 ^ 52 := by
    rw [← Nat.pow_add, Nat.add_sub_cancel' length]
  refine ⟨n * 2 ^ (52 - n.log2), 1022 + n.log2 - j, ?_, ?_, by omega, ?_⟩
  · rw [← power]
    exact Nat.mul_le_mul_right _ low
  · have full : 2 ^ (n.log2 + 1) * 2 ^ (52 - n.log2) = 2 ^ 53 := by
      rw [Nat.pow_succ, mul_right_comm, power]
      rfl
    rw [← full]
    exact Nat.mul_lt_mul_of_pos_right high (by positivity)
  · have exponent :
        ((1022 + n.log2 - j : Nat) : Int) - 1074 = -((52 - n.log2 : Nat) : Int) - j := by
      omega
    rw [exponent, zpow_sub₀ two_ne_zero, zpow_neg, zpow_natCast, zpow_natCast]
    push_cast
    field_simp

/-- A fraction with a numerator of 53 bits and a denominator that is a power of two is a number. -/
theorem value?_nearest {n j : Nat} (hn : n < 2 ^ 53) (hj : j ≤ 1000) :
    (nearest ((n : ℚ) / 2 ^ j)).value? = some ((n : ℚ) / 2 ^ j) := by
  rcases Nat.eq_zero_or_pos n with rfl | positive
  · have zero : nearest 0 = ofMagnitude false 0 := by
      simp [nearest, ofQuotient, ofRatio, roundRatio]
    have nothing : (ratio 0).num = 0 := by decide
    rw [Nat.cast_zero, zero_div, zero, ofMagnitude, value?]
    simp only [Nat.zero_min, nothing, Nat.cast_zero, zero_div, mul_zero]
    rw [if_pos (by decide)]
  obtain ⟨k, e, hk, hk', he, hvalue⟩ := exists_shifted positive hn hj
  have hround : roundRatio n (2 ^ j) = e * 2 ^ 52 + k := by
    rw [roundRatio_exact (by positivity) hk hk' (by omega) (by omega) hvalue]
    congr 2
    omega
  have finite : e * 2 ^ 52 + k < infiniteMagnitude := by
    rw [infiniteMagnitude]
    omega
  have hnearest : nearest ((n : ℚ) / 2 ^ j) = ofMagnitude false (e * 2 ^ 52 + k) := by
    have h := ofQuotient_eq_nearest n (show 0 < 2 ^ j by positivity)
    push_cast at h
    rw [← h, ofQuotient, ofRatio, Int.natAbs_natCast, hround]
    rfl
  rw [hnearest, ofMagnitude, value?]
  simp only [min_eq_left finite.le, if_pos finite, ratio, scaled_magnitude hk hk', value_ratio,
    Bool.false_eq_true, if_false, one_mul]
  rw [← hvalue]
  push_cast
  rfl

end DeviceAlerts.Number.Binary64
