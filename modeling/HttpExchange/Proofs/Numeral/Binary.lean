import HttpExchange.Numeral.Binary
import HttpExchange.Proofs.Numeral.Integer
import Mathlib.Data.List.TakeWhile
import Mathlib.Tactic.Linarith

/-!
# Integers in double precision

A run of digits, perhaps behind a minus sign, denotes an integer exactly. Double
precision may have to round it. An integer with more bits than a number of a
format has stands between two of its numbers, and the nearer one is never below
the power of two that the integer reaches; only from half a step above the
greatest number of the format on is there none. So an integer beyond 64 bits is
still beyond them when it has been rounded, and clamping brings it to the end of
their range.

## Main definitions

* `Format.bound` — the least integer that rounds to no number of a format.

## Main results

* `Decimal.read?_of_isDigits`, `Decimal.read?_minus` — what a numeral without point denotes.
* `two_pow_le_rounded_iff`, `Format.roundRatio_one` — what an integer rounds to.
* `truncate64_of_ge` — the integers beyond 64 bits after rounding and clamping.
-/

namespace HttpExchange.Numeral

theorem readUnsigned?_of_isDigits {digits : Text} (h : isDigits digits = true) (negative : Bool) :
    readUnsigned? negative digits = some ⟨negative, value digits, 0⟩ := by
  rw [isDigits, Bool.and_eq_true, Bool.not_eq_true', List.all_eq_true] at h
  obtain ⟨hempty, hdigits⟩ := h
  have htake : digits.takeWhile Char.isDigit = digits := List.takeWhile_eq_self_iff.mpr hdigits
  have hdrop : digits.dropWhile Char.isDigit = [] := List.dropWhile_eq_nil_iff.mpr hdigits
  simp only [readUnsigned?, htake, hdrop, List.append_nil, hempty]
  rfl

/-- A run of digits has no sign. -/
theorem splitSign_of_isDigits {digits : Text} (h : isDigits digits = true) :
    splitSign digits = (false, digits) := by
  unfold splitSign
  split
  · simp [isDigits] at h
  · simp [isDigits] at h
  · rfl

theorem Decimal.read?_of_isDigits {digits : Text} (h : isDigits digits = true) :
    Decimal.read? digits = some ⟨false, value digits, 0⟩ := by
  unfold Decimal.read?
  rw [splitSign_of_isDigits h]
  exact readUnsigned?_of_isDigits h false

theorem Decimal.read?_minus {digits : Text} (h : isDigits digits = true) :
    Decimal.read? ('-' :: digits) = some ⟨true, value digits, 0⟩ :=
  readUnsigned?_of_isDigits h true

/-! ## Rounding to the nearest integer -/

theorem divRoundEven_bounds (n d : Nat) :
    n / d ≤ divRoundEven n d ∧ divRoundEven n d ≤ n / d + 1 := by
  simp only [divRoundEven]
  split
  · omega
  · split
    · omega
    · split <;> omega

/-- A quotient is rounded up to an even number from the half below it on. -/
theorem lt_divRoundEven_iff {a n d : Nat} (hodd : a % 2 = 1) (hd : 0 < d) :
    a < divRoundEven n d ↔ (2 * a + 1) * d ≤ 2 * n := by
  have hn : n = d * (n / d) + n % d := (Nat.div_add_mod n d).symm
  have hr : n % d < d := Nat.mod_lt n hd
  have hbelow : a < n / d → (2 * a + 1) * d ≤ 2 * n := fun h => by
    have hmul : d * (a + 1) ≤ n := Nat.le_trans (Nat.mul_le_mul_left d h) (Nat.mul_div_le n d)
    linarith
  have habove : n / d < a → 2 * n < (2 * a + 1) * d := fun h => by
    have hmul : d * (n / d + 1) ≤ d * a := Nat.mul_le_mul_left d h
    linarith
  have hhalf : n / d = a → ((2 * a + 1) * d ≤ 2 * n ↔ d ≤ 2 * (n % d)) := fun h => by
    rw [h] at hn
    constructor <;> intro hle <;> linarith
  have hround : divRoundEven n d = if 2 * (n % d) < d then n / d
      else if d < 2 * (n % d) then n / d + 1
      else if n / d % 2 = 0 then n / d else n / d + 1 := rfl
  rcases Nat.lt_trichotomy (n / d) a with h | h | h
  · have hle := (divRoundEven_bounds n d).2
    have hnot := habove h
    omega
  · rw [hhalf h, hround]
    split
    · omega
    · split <;> (try split) <;> omega
  · have hle := (divRoundEven_bounds n d).1
    have hreached := hbelow h
    omega

theorem binaryExponent_one {n e : Nat} (hmin : 2 ^ e ≤ n) (hmax : n < 2 ^ (e + 1)) :
    binaryExponent n 1 = e := by
  have hpos : n ≠ 0 := Nat.ne_of_gt (Nat.lt_of_lt_of_le (Nat.two_pow_pos e) hmin)
  have hlog : n.log2 = e := (Nat.log2_eq_iff hpos).mpr ⟨hmin, hmax⟩
  have hone : Nat.log2 1 = 0 := by decide
  have hreached : 1 * 2 ^ e ≤ n := by rwa [Nat.one_mul]
  simp only [binaryExponent, Nat.pow_eq, hlog, hone, Int.natCast_zero, Int.sub_zero,
    Int.natCast_nonneg, if_true, Int.toNat_natCast]
  exact if_pos hreached

/-! ## Integers in a format -/

/-- The least integer that rounds to none of the numbers of a format. -/
def Format.bound (f : Format) : Nat :=
  (2 ^ (f.precision + 1) - 1) * 2 ^ (f.limit - f.precision - 1)

example : double.bound = 2 ^ 1024 - 2 ^ 970 := by decide +kernel

section Rounding

-- `k` bits of `n` are rounded away, and `p + 1` are left

variable {n k p l : Nat}

theorem le_coefficient (hmin : 2 ^ (p + k) ≤ n) : 2 ^ p ≤ divRoundEven n (2 ^ k) := by
  have hdiv : 2 ^ p ≤ n / 2 ^ k := by
    rw [Nat.le_div_iff_mul_le (Nat.two_pow_pos k), ← Nat.pow_add]
    exact hmin
  exact Nat.le_trans hdiv (divRoundEven_bounds n _).1

theorem le_rounded (hmin : 2 ^ (p + k) ≤ n) : 2 ^ (p + k) ≤ divRoundEven n (2 ^ k) * 2 ^ k := by
  rw [Nat.pow_add]
  exact Nat.mul_le_mul_right _ (le_coefficient hmin)

theorem coefficient_le (hmax : n < 2 ^ (p + k + 1)) : divRoundEven n (2 ^ k) ≤ 2 ^ (p + 1) := by
  have hdiv : n / 2 ^ k < 2 ^ (p + 1) := by
    rw [Nat.div_lt_iff_lt_mul (Nat.two_pow_pos k), ← Nat.pow_add]
    rwa [Nat.add_right_comm] at hmax
  have hle := (divRoundEven_bounds n (2 ^ k)).2
  omega

theorem rounded_le (hmax : n < 2 ^ (p + k + 1)) :
    divRoundEven n (2 ^ k) * 2 ^ k ≤ 2 ^ (p + k + 1) := by
  rw [Nat.add_right_comm, Nat.pow_add]
  exact Nat.mul_le_mul_right _ (coefficient_le hmax)

/-- In the last binade below a power of two, half a step below it decides. -/
theorem two_pow_le_rounded_iff_half :
    2 ^ (p + 1 + (k + 1)) ≤ divRoundEven n (2 ^ (k + 1)) * 2 ^ (k + 1) ↔
      (2 ^ (p + 2) - 1) * 2 ^ k ≤ n := by
  have hpos := Nat.two_pow_pos p
  have hodd : (2 ^ (p + 1) - 1) % 2 = 1 := by
    rw [Nat.pow_succ]
    omega
  have hcoefficient : 2 ^ (p + 1) ≤ divRoundEven n (2 ^ (k + 1)) ↔
      2 ^ (p + 1) - 1 < divRoundEven n (2 ^ (k + 1)) := by
    rw [Nat.pow_succ]
    omega
  have hhalf : 2 * (2 ^ (p + 1) - 1) + 1 = 2 ^ (p + 2) - 1 := by
    rw [Nat.pow_succ 2 (p + 1), Nat.pow_succ 2 p]
    omega
  rw [Nat.pow_add, Nat.mul_le_mul_right_iff (Nat.two_pow_pos _), hcoefficient,
    lt_divRoundEven_iff hodd (Nat.two_pow_pos _), hhalf, Nat.pow_succ' (n := k),
    Nat.mul_left_comm, Nat.mul_le_mul_left_iff (by decide)]

/-- **Rounding reaches a power of two** from half a step below it on. -/
theorem two_pow_le_rounded_iff (hmin : 2 ^ (p + k) ≤ n) (hmax : n < 2 ^ (p + k + 1))
    (hl : p + 1 < l) :
    2 ^ l ≤ divRoundEven n (2 ^ k) * 2 ^ k ↔ (2 ^ (p + 2) - 1) * 2 ^ (l - p - 2) ≤ n := by
  obtain ⟨j, rfl⟩ : ∃ j, l = p + 2 + j := ⟨l - (p + 2), by omega⟩
  have hj : p + 2 + j - p - 2 = j := by omega
  have hbound : (2 ^ (p + 2) - 1) * 2 ^ j + 2 ^ j = 2 ^ (p + 2 + j) := by
    rw [Nat.pow_add 2 (p + 2), ← Nat.succ_mul, Nat.succ_eq_add_one,
      Nat.sub_add_cancel Nat.one_le_two_pow]
  have hpos := Nat.two_pow_pos j
  rw [hj]
  rcases Nat.lt_trichotomy k (j + 1) with h | rfl | h
  · -- below the last binade, neither side holds
    have hrounded := rounded_le hmax
    have hlast : 2 ^ (p + k + 1) ≤ 2 ^ (p + 1 + j) := Nat.pow_le_pow_right (by decide) (by omega)
    have hstep : 2 ^ j ≤ 2 ^ (p + 1 + j) := Nat.pow_le_pow_right (by decide) (by omega)
    have htwice : 2 ^ (p + 2 + j) = 2 * 2 ^ (p + 1 + j) := by
      rw [← Nat.pow_succ']
      congr 1
      omega
    omega
  · have hexponent : p + 2 + j = p + 1 + (j + 1) := by omega
    rw [hexponent]
    exact two_pow_le_rounded_iff_half
  · -- from the power of two on, both do
    have hrounded := le_rounded hmin
    have hfirst : 2 ^ (p + 2 + j) ≤ 2 ^ (p + k) := Nat.pow_le_pow_right (by decide) (by omega)
    omega

end Rounding

/-- **An integer that needs all bits of a format** rounds to a number of it that is not below the
power of two below the integer, unless the integer reaches the bound of the format. -/
theorem Format.roundRatio_one {f : Format} {p n : Nat} (hprecision : f.precision = p + 1)
    (hlimit : p + 1 < f.limit) (hmin : f.minExponent ≤ 0) {e : Nat} (hp : p ≤ e)
    (hlow : 2 ^ e ≤ n) (hhigh : n < 2 ^ (e + 1)) :
    (f.bound ≤ n → f.roundRatio n 1 = none) ∧
      (n < f.bound → ∃ x, f.roundRatio n 1 = some x ∧ 2 ^ e ≤ x.floor) := by
  obtain ⟨k, rfl⟩ : ∃ k, e = p + k := ⟨e - p, by omega⟩
  have hpos : n ≠ 0 := Nat.ne_of_gt (Nat.lt_of_lt_of_le (Nat.two_pow_pos _) hlow)
  have hexponent : max (binaryExponent n 1 - (f.precision - 1)) f.minExponent = (k : Int) := by
    rw [binaryExponent_one hlow hhigh, hprecision]
    omega
  have hround : f.roundRatio n 1 =
      if 2 ^ f.limit ≤ divRoundEven n (2 ^ k) * 2 ^ k then none
      else if divRoundEven n (2 ^ k) = 2 ^ f.precision then
        some ⟨divRoundEven n (2 ^ k) / 2, k + 1⟩
      else some ⟨divRoundEven n (2 ^ k), k⟩ := by
    unfold Format.roundRatio
    simp only [Nat.pow_eq, if_neg hpos, hexponent, if_pos (Int.natCast_nonneg k),
      Int.toNat_natCast, Nat.one_mul]
  have hbound : 2 ^ f.limit ≤ divRoundEven n (2 ^ k) * 2 ^ k ↔ f.bound ≤ n := by
    rw [two_pow_le_rounded_iff hlow hhigh hlimit, Format.bound, hprecision]
    rfl
  have hrounded := le_rounded hlow
  refine ⟨fun hreached => ?_, fun hbelow => ?_⟩
  · rw [hround, if_pos (hbound.mpr hreached)]
  · rw [hround, if_neg (mt hbound.mp (Nat.not_le.mpr hbelow))]
    by_cases hlong : divRoundEven n (2 ^ k) = 2 ^ f.precision
    · refine ⟨_, if_pos hlong, ?_⟩
      have hfloor : Dyadic.floor ⟨divRoundEven n (2 ^ k) / 2, k + 1⟩ =
          divRoundEven n (2 ^ k) / 2 * 2 ^ (k + 1) := if_pos (Int.natCast_nonneg (k + 1))
      have heven : divRoundEven n (2 ^ k) / 2 * 2 = divRoundEven n (2 ^ k) := by
        rw [hlong, hprecision, Nat.pow_succ]
        omega
      rw [hfloor, Nat.pow_succ', ← Nat.mul_assoc, heven]
      exact hrounded
    · refine ⟨_, if_neg hlong, ?_⟩
      have hfloor : Dyadic.floor ⟨divRoundEven n (2 ^ k), k⟩ =
          divRoundEven n (2 ^ k) * 2 ^ k := if_pos (Int.natCast_nonneg k)
      rw [hfloor]
      exact hrounded

/-! ## Integers in double precision -/

/-- Whole numbers beyond 64 bits, in double precision. -/
theorem double_round_of_ge {n : Nat} (h : 2 ^ 63 ≤ n) (negative : Bool) :
    (double.bound ≤ n → double.round ⟨negative, n, 0⟩ = none) ∧
      (n < double.bound → ∃ x, double.round ⟨negative, n, 0⟩ = some x ∧ 2 ^ 63 ≤ x.floor) := by
  have hpos : n ≠ 0 := by omega
  have hlow := Nat.log2_self_le hpos
  have hhigh : n < 2 ^ (n.log2 + 1) := Nat.lt_log2_self
  have hlog : 63 ≤ n.log2 := (Nat.le_log2 hpos).mpr h
  obtain ⟨hnone, hsome⟩ :=
    Format.roundRatio_one (f := double) (p := 52) rfl (by decide) (by decide) (by omega) hlow hhigh
  have hmagnitude : (⟨negative, n, 0⟩ : Decimal).magnitude = (ofNat n).length := Int.add_zero _
  have hleast : ¬ (⟨negative, n, 0⟩ : Decimal).magnitude < -400 := by omega
  by_cases hlong : 400 < (⟨negative, n, 0⟩ : Decimal).magnitude
  · have hround : double.round ⟨negative, n, 0⟩ = none := by
      rw [Format.round, if_neg hpos, if_pos hlong]
    have hn : 10 ^ 400 ≤ n := by
      refine Nat.not_lt.mp fun hlt => ?_
      have hlength := length_ofNat_le (by decide) hlt
      omega
    have hbound : double.bound ≤ 10 ^ 400 := by decide +kernel
    exact ⟨fun _ => hround, fun hlt => absurd hlt (Nat.not_lt.mpr (Nat.le_trans hbound hn))⟩
  · have hround : double.round ⟨negative, n, 0⟩ = double.roundRatio n 1 := by
      rw [Format.round, if_neg hpos, if_neg hlong, if_neg hleast, if_pos (Int.le_refl 0)]
      exact congrArg (double.roundRatio · 1) (Nat.mul_one n)
    rw [hround]
    refine ⟨hnone, fun hlt => ?_⟩
    obtain ⟨x, hx, hfloor⟩ := hsome hlt
    exact ⟨x, hx, Nat.le_trans (Nat.pow_le_pow_right (by decide) hlog) hfloor⟩

theorem bounds_of_truncate64 {d : Decimal} {i : Int} (h : truncate64 d = some i) :
    minInt64 ≤ i ∧ i ≤ maxInt64 := by
  obtain ⟨x, -, rfl⟩ := Option.map_eq_some_iff.mp h
  simp only [clamp64, minInt64, maxInt64]
  omega

/-- **An integer beyond 64 bits is brought to the end of their range**, unless it is beyond double
precision. -/
theorem truncate64_of_ge {n : Nat} (h : 2 ^ 63 ≤ n) (negative : Bool) :
    truncate64 ⟨negative, n, 0⟩ =
      if n < double.bound then some (if negative then minInt64 else maxInt64) else none := by
  obtain ⟨hnone, hsome⟩ := double_round_of_ge h negative
  by_cases hbelow : n < double.bound
  · obtain ⟨x, hx, hfloor⟩ := hsome hbelow
    rw [truncate64, hx, if_pos hbelow, Option.map_some]
    cases negative <;>
      simp only [clamp64, minInt64, maxInt64, if_true, Bool.false_eq_true, if_false,
        Option.some.injEq] <;> omega
  · rw [truncate64, hnone (Nat.not_lt.mp hbelow), if_neg hbelow, Option.map_none]

end HttpExchange.Numeral
