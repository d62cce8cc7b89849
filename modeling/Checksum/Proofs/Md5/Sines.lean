import Mathlib.Analysis.Complex.Exponential
import Mathlib.Analysis.SpecialFunctions.Trigonometric.Basic
import Mathlib.NumberTheory.Zsqrtd.GaussianInt
import Checksum.Md5

/-!
# The table of sines

The constants of MD5 are the integer parts of `2 ^ 32 * |sin i|` for `i` from 1 to 64, in radians.
The sine of `i` is the imaginary part of the `i`-th power of `exp I`, and `exp I` is close to a sum of
its Taylor series, whose numerator is a Gaussian integer over a factorial. Raising that number to the
64th power loses little, so integer arithmetic decides on which side of every table entry and of its
successor the sine lies.
-/

namespace Checksum.Md5.Sine

open Complex Finset Nat

/-- The integer part of `2 ^ 32` times the absolute value of a sine. -/
noncomputable def word (i : Nat) : UInt32 := UInt32.ofNat ⌊(4294967296 : ℝ) * |Real.sin i|⌋₊

/-- The numerator over `n !` of the Taylor series of `exp I`, taken up to the power `n`. -/
def taylorNumerator : Nat → GaussianInt
  | 0 => 1
  | n + 1 => (n + 1 : ℕ) * taylorNumerator n + ⟨0, 1⟩ ^ (n + 1)

theorem toComplex_taylorNumerator (n : Nat) :
    (taylorNumerator n : ℂ) = n ! * ∑ m ∈ range (n + 1), I ^ m / m ! := by
  induction n with
  | zero => simp [taylorNumerator]
  | succ n ih =>
      have hunit : ((⟨0, 1⟩ : GaussianInt) : ℂ) = I := by simp [GaussianInt.toComplex_def]
      have hfactorial : ((n + 1)! : ℂ) ≠ 0 := by exact_mod_cast (n + 1).factorial_ne_zero
      rw [taylorNumerator, map_add, map_mul, map_pow, map_natCast, hunit, ih, sum_range_succ _ (n + 1),
        mul_add, mul_div_cancel₀ _ hfactorial, Nat.factorial_succ]
      push_cast
      ring

/-- The degree to which the series is taken. -/
def degree : Nat := 33

/-- The rational point close to `exp I`. -/
noncomputable def nearby : ℂ := (taylorNumerator degree : ℂ) / (degree ! : ℕ)

theorem norm_exp_sub_nearby_le : ‖exp I - nearby‖ ≤ 1 / 2 ^ 120 := by
  have hfactorial : ((degree ! : ℕ) : ℂ) ≠ 0 := by exact_mod_cast degree.factorial_ne_zero
  have hsum : nearby = ∑ m ∈ range (degree + 1), I ^ m / m ! := by
    rw [nearby, toComplex_taylorNumerator, mul_div_cancel_left₀ _ hfactorial]
  have hbound := exp_bound (x := I) (by simp) (n := degree + 1) (by decide)
  rw [← hsum] at hbound
  refine hbound.trans ?_
  rw [norm_I, one_pow, one_mul]
  norm_num [degree, Nat.factorial]

theorem norm_pow_sub_pow_le {z w : ℂ} {ε : ℝ} (hε : 0 ≤ ε) (hz : ‖z‖ = 1) (hw : ‖w‖ ≤ 2)
    (h : ‖z - w‖ ≤ ε) (n : Nat) : ‖z ^ n - w ^ n‖ ≤ (2 ^ n - 1) * ε := by
  induction n with
  | zero => simp
  | succ n ih =>
      have hsplit : z ^ (n + 1) - w ^ (n + 1) = z * (z ^ n - w ^ n) + (z - w) * w ^ n := by ring
      have hpower : ‖w ^ n‖ ≤ 2 ^ n := by
        rw [norm_pow]
        exact pow_le_pow_left₀ (norm_nonneg w) hw n
      calc ‖z ^ (n + 1) - w ^ (n + 1)‖
          ≤ ‖z * (z ^ n - w ^ n)‖ + ‖(z - w) * w ^ n‖ := by
            rw [hsplit]
            exact norm_add_le _ _
        _ ≤ (2 ^ n - 1) * ε + ε * 2 ^ n := by
            rw [norm_mul, norm_mul, hz, one_mul]
            exact add_le_add ih (mul_le_mul h hpower (norm_nonneg _) hε)
        _ = (2 ^ (n + 1) - 1) * ε := by ring

theorem abs_sin_sub_le (i : Nat) :
    |(|Real.sin i| - |(nearby ^ i).im|)| ≤ 2 ^ i / 2 ^ 120 := by
  have hsin : (exp I ^ i).im = Real.sin i := by
    rw [← exp_nat_mul, ← exp_ofReal_mul_I_im]
    norm_cast
  have hunit : ‖exp I‖ = 1 := by simpa using norm_exp_ofReal_mul_I 1
  have hnear : ‖nearby‖ ≤ 2 := by
    have htriangle := norm_sub_norm_le nearby (exp I)
    rw [norm_sub_rev, hunit] at htriangle
    have hclose := norm_exp_sub_nearby_le
    norm_num at hclose
    linarith
  have hpower := norm_pow_sub_pow_le (by positivity) hunit hnear norm_exp_sub_nearby_le i
  calc |(|Real.sin i| - |(nearby ^ i).im|)|
      ≤ |Real.sin i - (nearby ^ i).im| := abs_abs_sub_abs_le_abs_sub _ _
    _ = |(exp I ^ i - nearby ^ i).im| := by rw [sub_im, hsin]
    _ ≤ ‖exp I ^ i - nearby ^ i‖ := abs_im_le_norm _
    _ ≤ (2 ^ i - 1) * (1 / 2 ^ 120) := hpower
    _ ≤ 2 ^ i / 2 ^ 120 := by
      rw [mul_one_div]
      gcongr
      linarith

theorem abs_im_nearby_pow (i : Nat) :
    |(nearby ^ i).im| = ((taylorNumerator degree ^ i).im.natAbs : ℝ) / (degree ! ^ i : ℕ) := by
  have hpower : nearby ^ i = ((taylorNumerator degree ^ i : GaussianInt) : ℂ) / (degree ! ^ i : ℕ) := by
    rw [nearby, div_pow, map_pow, Nat.cast_pow]
  rw [hpower, div_natCast_im, ← GaussianInt.intCast_im, abs_div, Nat.abs_cast, Nat.cast_natAbs,
    Int.cast_abs]

/-- The table entries in integer arithmetic, with room for what the approximation loses. -/
theorem sines_between (i : Fin 64) :
    ((sines.get i).toNat * 2 ^ 88 + 2 ^ (i.val + 1)) * degree ! ^ (i.val + 1)
        ≤ 2 ^ 120 * (taylorNumerator degree ^ (i.val + 1)).im.natAbs ∧
      2 ^ 120 * (taylorNumerator degree ^ (i.val + 1)).im.natAbs + 2 ^ (i.val + 1) * degree ! ^ (i.val + 1)
        < ((sines.get i).toNat + 1) * 2 ^ 88 * degree ! ^ (i.val + 1) := by
  revert i
  decide +kernel

theorem floor_eq_of_close {k m d e : Nat} {x : ℝ} (hd : 0 < d) (hx : 0 ≤ x)
    (hclose : |x - (m : ℝ) / d| ≤ 2 ^ e / 2 ^ 120) (hlow : (k * 2 ^ 88 + 2 ^ e) * d ≤ 2 ^ 120 * m)
    (hhigh : 2 ^ 120 * m + 2 ^ e * d < (k + 1) * 2 ^ 88 * d) : ⌊(4294967296 : ℝ) * x⌋₊ = k := by
  have hd : (0 : ℝ) < d := by exact_mod_cast hd
  obtain ⟨hleft, hright⟩ := abs_le.mp hclose
  have hlow : (k : ℝ) * 2 ^ 88 + 2 ^ e ≤ 2 ^ 120 * ((m : ℝ) / d) := by
    rw [← mul_div_assoc, le_div_iff₀ hd]
    exact_mod_cast hlow
  have hhigh : 2 ^ 120 * ((m : ℝ) / d) + 2 ^ e < ((k : ℝ) + 1) * 2 ^ 88 := by
    rw [← mul_div_assoc, div_add' _ _ _ hd.ne', div_lt_iff₀ hd]
    exact_mod_cast hhigh
  rw [Nat.floor_eq_iff (by positivity)]
  constructor <;> linarith

theorem sines_eq (i : Fin 64) : sines.get i = word (i + 1) := by
  have hclose := abs_sin_sub_le (i + 1)
  rw [abs_im_nearby_pow] at hclose
  obtain ⟨hlow, hhigh⟩ := sines_between i
  rw [word, floor_eq_of_close (Nat.pow_pos degree.factorial_pos) (abs_nonneg _) hclose hlow hhigh,
    UInt32.ofNat_toNat]

end Checksum.Md5.Sine
