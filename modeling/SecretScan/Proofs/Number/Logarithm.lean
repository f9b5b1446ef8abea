import Mathlib.Analysis.SpecialFunctions.Log.Base
import SecretScan.Number.Logarithm

/-!
# The whole part of a logarithm

`floorLog` computes with brackets and is right only if each of them holds its number. The invariant
is `Bracketed.Holds p x v`: the lower bound has exactly `p` binary places, and

```
x.low * 2 ^ x.exponent ≤ v * 2 ^ p ≤ x.high * 2 ^ x.exponent
```

It is set up for a quotient (`holds_ofQuotient`), kept by a product (`Holds.mul`) and so by a power
(`Holds.pow`). Rounding only ever moves the bounds apart, so a bracket that does not reach the next
power of two tells the whole part of the logarithm (`Holds.floorLog?_spec`); how many places that
takes does not matter, because the search answers from such a bracket or from the powers themselves.
-/

namespace SecretScan

namespace Bracketed

theorem le_ceilDiv_mul {a b : ℕ} (hb : 0 < b) : a ≤ ceilDiv a b * b := by
  have hlt : a + b - 1 < (a + b - 1) / b * b + b := Nat.lt_div_mul_add hb
  rw [ceilDiv]
  omega

/-- A number lies in a bracket whose lower bound has `p` places. -/
structure Holds (p : ℕ) (x : Bracketed) (v : ℝ) : Prop where
  /-- The lower bound has at least `p` places. -/
  two_pow_le : 2 ^ p ≤ x.low
  /-- The lower bound has no more than `p` places. -/
  lt_two_pow : x.low < 2 ^ (p + 1)
  /-- The number is at least the lower bound. -/
  low_le : (x.low : ℝ) * 2 ^ x.exponent ≤ v * 2 ^ p
  /-- The number is at most the upper bound. -/
  le_high : v * 2 ^ p ≤ (x.high : ℝ) * 2 ^ x.exponent

variable {p k : ℕ} {x y : Bracketed} {v w : ℝ}

theorem Holds.nonneg (h : x.Holds p v) : 0 ≤ v := by
  have hlow : (0 : ℝ) ≤ x.low * 2 ^ x.exponent := by positivity
  exact nonneg_of_mul_nonneg_left (hlow.trans h.low_le) (by positivity)

/-! ### Setting brackets up -/

/-- A quotient of at least one lies in its bracket. -/
theorem holds_ofQuotient {a b : ℕ} (hb : 0 < b) (hab : b ≤ a) :
    (ofQuotient p a b).Holds p (a / b : ℝ) := by
  set e := (a / b).log2 with he
  have hpos : 0 < b * 2 ^ e := by positivity
  have hle : b * 2 ^ e ≤ a := by
    rw [mul_comm, ← Nat.le_div_iff_mul_le hb]
    exact Nat.log2_self_le (Nat.div_pos hab hb).ne'
  have hlt : a < 2 ^ (e + 1) * b := by
    rw [← Nat.div_lt_iff_lt_mul hb]
    exact Nat.lt_log2_self
  have hlow : a * 2 ^ p / (b * 2 ^ e) * (b * 2 ^ e) ≤ a * 2 ^ p := Nat.div_mul_le_self _ _
  have hhigh : a * 2 ^ p ≤ ceilDiv (a * 2 ^ p) (b * 2 ^ e) * (b * 2 ^ e) := le_ceilDiv_mul hpos
  have hb' : (0 : ℝ) < b := by exact_mod_cast hb
  refine ⟨?_, ?_, ?_, ?_⟩
  · show 2 ^ p ≤ a * 2 ^ p / (b * 2 ^ e)
    rw [Nat.le_div_iff_mul_le hpos, mul_comm]
    gcongr
  · show a * 2 ^ p / (b * 2 ^ e) < 2 ^ (p + 1)
    rw [Nat.div_lt_iff_lt_mul hpos]
    calc a * 2 ^ p < 2 ^ (e + 1) * b * 2 ^ p := by gcongr
      _ = 2 ^ (p + 1) * (b * 2 ^ e) := by ring
  · show ((a * 2 ^ p / (b * 2 ^ e) : ℕ) : ℝ) * 2 ^ e ≤ a / b * 2 ^ p
    rw [div_mul_eq_mul_div, le_div_iff₀ hb', mul_assoc, mul_comm (2 ^ e)]
    exact_mod_cast hlow
  · show (a / b * 2 ^ p : ℝ) ≤ (ceilDiv (a * 2 ^ p) (b * 2 ^ e) : ℕ) * 2 ^ e
    rw [div_mul_eq_mul_div, div_le_iff₀ hb', mul_assoc, mul_comm (2 ^ e)]
    exact_mod_cast hhigh

theorem holds_one : (one p).Holds p 1 where
  two_pow_le := le_rfl
  lt_two_pow := Nat.pow_lt_pow_right one_lt_two p.lt_succ_self
  low_le := by simp [one]
  le_high := by simp [one]

/-! ### Computing with brackets -/

/-- The product of two lower bounds has `2 * p` places, or one more. -/
theorem Holds.carry (hx : x.Holds p v) (hy : y.Holds p w) {carry : ℕ}
    (hcarry : carry = if x.low * y.low < 2 ^ (2 * p + 1) then 0 else 1) :
    2 ^ p * 2 ^ (p + carry) ≤ x.low * y.low ∧ x.low * y.low < 2 ^ (p + 1) * 2 ^ (p + carry) := by
  have hlow : 2 ^ p * 2 ^ p ≤ x.low * y.low := Nat.mul_le_mul hx.two_pow_le hy.two_pow_le
  have hhigh : x.low * y.low < 2 ^ (p + 1) * 2 ^ (p + 1) :=
    Nat.mul_lt_mul'' hx.lt_two_pow hy.lt_two_pow
  have hmid : 2 ^ (2 * p + 1) = 2 ^ (p + 1) * 2 ^ p := by ring
  split at hcarry
  · next hlt =>
    subst hcarry
    exact ⟨hlow, hmid ▸ hlt⟩
  · next hge =>
    subst hcarry
    refine ⟨?_, hhigh⟩
    rw [mul_comm, ← hmid]
    exact Nat.le_of_not_lt hge

variable {l m bound e f carry : ℕ}

/-- A product of lower bounds, rounded down, is a lower bound. The inequality is multiplied by `2 ^
p` once more, so that no exponent is subtracted. -/
theorem low_mul_le (hbound : bound * 2 ^ (p + carry) ≤ l * m) (hl : (l : ℝ) * 2 ^ e ≤ v * 2 ^ p)
    (hm : (m : ℝ) * 2 ^ f ≤ w * 2 ^ p) (hv : 0 ≤ v) :
    (bound : ℝ) * 2 ^ (e + f + carry) ≤ v * w * 2 ^ p := by
  have hp : (0 : ℝ) < 2 ^ p := by positivity
  have hbound' : (bound : ℝ) * 2 ^ (p + carry) ≤ l * m := by exact_mod_cast hbound
  refine le_of_mul_le_mul_right ?_ hp
  calc (bound : ℝ) * 2 ^ (e + f + carry) * 2 ^ p
      = bound * 2 ^ (p + carry) * (2 ^ e * 2 ^ f) := by ring
    _ ≤ l * m * (2 ^ e * 2 ^ f) := by gcongr
    _ = l * 2 ^ e * (m * 2 ^ f) := by ring
    _ ≤ v * 2 ^ p * (w * 2 ^ p) := mul_le_mul hl hm (by positivity) (mul_nonneg hv hp.le)
    _ = v * w * 2 ^ p * 2 ^ p := by ring

/-- A product of upper bounds, rounded up, is an upper bound. -/
theorem le_high_mul (hbound : l * m ≤ bound * 2 ^ (p + carry)) (hl : v * 2 ^ p ≤ (l : ℝ) * 2 ^ e)
    (hm : w * 2 ^ p ≤ (m : ℝ) * 2 ^ f) (hw : 0 ≤ w) :
    v * w * 2 ^ p ≤ (bound : ℝ) * 2 ^ (e + f + carry) := by
  have hp : (0 : ℝ) < 2 ^ p := by positivity
  have hbound' : (l * m : ℝ) ≤ bound * 2 ^ (p + carry) := by exact_mod_cast hbound
  refine le_of_mul_le_mul_right ?_ hp
  calc v * w * 2 ^ p * 2 ^ p = v * 2 ^ p * (w * 2 ^ p) := by ring
    _ ≤ l * 2 ^ e * (m * 2 ^ f) := mul_le_mul hl hm (mul_nonneg hw hp.le) (by positivity)
    _ = l * m * (2 ^ e * 2 ^ f) := by ring
    _ ≤ bound * 2 ^ (p + carry) * (2 ^ e * 2 ^ f) := by gcongr
    _ = bound * 2 ^ (e + f + carry) * 2 ^ p := by ring

/-- **A product** lies in the product of the brackets. -/
theorem Holds.mul (hx : x.Holds p v) (hy : y.Holds p w) : (mul p x y).Holds p (v * w) := by
  obtain ⟨carry, hcarry⟩ : ∃ carry, carry = if x.low * y.low < 2 ^ (2 * p + 1) then 0 else 1 :=
    ⟨_, rfl⟩
  obtain ⟨hle, hlt⟩ := hx.carry hy hcarry
  have hmul : Bracketed.mul p x y = ⟨x.low * y.low / 2 ^ (p + carry),
      ceilDiv (x.high * y.high) (2 ^ (p + carry)), x.exponent + y.exponent + carry⟩ := by
    rw [hcarry]
    rfl
  have hpos : 0 < 2 ^ (p + carry) := by positivity
  rw [hmul]
  refine ⟨?_, ?_, ?_, ?_⟩
  · show 2 ^ p ≤ x.low * y.low / 2 ^ (p + carry)
    rwa [Nat.le_div_iff_mul_le hpos]
  · show x.low * y.low / 2 ^ (p + carry) < 2 ^ (p + 1)
    rwa [Nat.div_lt_iff_lt_mul hpos]
  · exact low_mul_le (Nat.div_mul_le_self _ _) hx.low_le hy.low_le hx.nonneg
  · exact le_high_mul (le_ceilDiv_mul hpos) hx.le_high hy.le_high hy.nonneg

/-- **A power** lies in the power of the bracket. -/
theorem Holds.pow (h : x.Holds p v) {fuel : ℕ} (hk : k < 2 ^ fuel) :
    (pow p x fuel k).Holds p (v ^ k) := by
  induction fuel generalizing k with
  | zero =>
    obtain rfl : k = 0 := by omega
    exact (pow_zero v).symm ▸ holds_one
  | succ fuel ih =>
    rw [Bracketed.pow]
    split
    · next hzero => exact hzero ▸ (pow_zero v).symm ▸ holds_one
    · have hhalf : (pow p x fuel (k / 2)).Holds p (v ^ (k / 2)) := ih (by omega)
      have hsquare := hhalf.mul hhalf
      rw [← pow_add] at hsquare
      split
      · next heven =>
        have hk2 : k / 2 + k / 2 = k := by omega
        rwa [hk2] at hsquare
      · next hodd =>
        have hpow : v ^ k = v ^ (k / 2 + k / 2) * v := by
          rw [← pow_succ, show k / 2 + k / 2 + 1 = k by omega]
        rw [hpow]
        exact hsquare.mul h

/-- **A bracket that decides.** If the upper bound stays below the next power of two, both bounds
have the same whole part of the logarithm. -/
theorem Holds.floorLog?_spec (h : x.Holds p v) {r : ℕ} (hr : x.floorLog? p = some r) :
    2 ^ r ≤ v ∧ v < 2 ^ (r + 1) := by
  have hp : (0 : ℝ) < 2 ^ p := by positivity
  rw [floorLog?] at hr
  split at hr
  · next hhigh =>
    obtain rfl := Option.some.inj hr
    have hlow : (2 ^ p : ℝ) ≤ x.low := by exact_mod_cast h.two_pow_le
    have hhigh' : (x.high : ℝ) < 2 ^ (p + 1) := by exact_mod_cast hhigh
    constructor
    · refine le_of_mul_le_mul_right ?_ hp
      calc (2 ^ x.exponent * 2 ^ p : ℝ) ≤ 2 ^ x.exponent * x.low := by gcongr
        _ = x.low * 2 ^ x.exponent := mul_comm _ _
        _ ≤ v * 2 ^ p := h.low_le
    · refine lt_of_mul_lt_mul_right ?_ hp.le
      calc v * 2 ^ p ≤ x.high * 2 ^ x.exponent := h.le_high
        _ < 2 ^ (p + 1) * 2 ^ x.exponent := by gcongr
        _ = 2 ^ (x.exponent + 1) * 2 ^ p := by ring
  · cases hr

end Bracketed

/-! ### The search -/

variable {a b k r : ℕ}

/-- The powers themselves tell the whole part. -/
theorem log2_pow_div_pow_spec (hb : 0 < b) (hab : b ≤ a) :
    (2 ^ (a ^ k / b ^ k).log2 : ℝ) ≤ (a / b : ℝ) ^ k ∧
      (a / b : ℝ) ^ k < 2 ^ ((a ^ k / b ^ k).log2 + 1) := by
  have hbk : 0 < b ^ k := by positivity
  have hbk' : (0 : ℝ) < (b : ℝ) ^ k := by exact_mod_cast hbk
  have hne : a ^ k / b ^ k ≠ 0 := (Nat.div_pos (Nat.pow_le_pow_left hab k) hbk).ne'
  have hle : 2 ^ (a ^ k / b ^ k).log2 * b ^ k ≤ a ^ k :=
    (Nat.le_div_iff_mul_le hbk).mp (Nat.log2_self_le hne)
  have hlt : a ^ k < 2 ^ ((a ^ k / b ^ k).log2 + 1) * b ^ k :=
    (Nat.div_lt_iff_lt_mul hbk).mp Nat.lt_log2_self
  rw [div_pow, le_div_iff₀ hbk', div_lt_iff₀ hbk']
  exact ⟨by exact_mod_cast hle, by exact_mod_cast hlt⟩

/-- However many places it takes, the answer is the right one. -/
theorem floorLogFrom_spec (hb : 0 < b) (hab : b ≤ a) (tries p : ℕ) :
    (2 ^ floorLogFrom a b k tries p : ℝ) ≤ (a / b : ℝ) ^ k ∧
      (a / b : ℝ) ^ k < 2 ^ (floorLogFrom a b k tries p + 1) := by
  induction tries generalizing p with
  | zero => exact log2_pow_div_pow_spec hb hab
  | succ tries ih =>
    rw [floorLogFrom]
    have hpow := (Bracketed.holds_ofQuotient (p := p) hb hab).pow (Nat.lt_log2_self (n := k))
    split
    · next r hr => exact hpow.floorLog?_spec hr
    · exact ih (2 * p)

/-- **`floorLog` is the whole part of the logarithm.** -/
theorem floorLog_eq_floor (hb : 0 < b) (hab : b ≤ a) :
    floorLog a b k = ⌊k * Real.logb 2 (a / b)⌋₊ := by
  have hb' : (0 : ℝ) < b := by exact_mod_cast hb
  have hone : (1 : ℝ) ≤ a / b := by
    rw [one_le_div hb']
    exact_mod_cast hab
  have hpos : (0 : ℝ) < (a / b : ℝ) ^ k := by positivity
  have hnonneg : (0 : ℝ) ≤ k * Real.logb 2 (a / b) :=
    mul_nonneg k.cast_nonneg (Real.logb_nonneg one_lt_two hone)
  obtain ⟨hle, hlt⟩ := floorLogFrom_spec (k := k) hb hab 24 (k.log2 + 64)
  refine ((Nat.floor_eq_iff hnonneg).mpr ?_).symm
  rw [← Real.logb_pow, Real.le_logb_iff_rpow_le one_lt_two hpos,
    Real.logb_lt_iff_lt_rpow one_lt_two hpos]
  constructor
  · rw [Real.rpow_natCast]
    exact hle
  · rw [← Nat.cast_add_one, Real.rpow_natCast]
    exact hlt

end SecretScan
