import Mathlib.Algebra.Order.Field.Rat
import Mathlib.Tactic.FieldSimp
import Mathlib.Tactic.Positivity
import SecretScan.Proofs.Number.Rounding

/-!
# The nearest number

Every rational number has a binary64 number nearest to it, or an infinity if it is too large
(`Binary64.nearest`). It does not matter how the rational number is written as a quotient
(`nearest_div`), and so it does not matter either how a decimal is written: whatever its digits and
its power of ten are, `Binary64.ofDecimal` gives the number nearest to its value
(`same_nearest_of_isFinite`).
-/

namespace SecretScan.Binary64

/-- The number nearest to a rational number. -/
def nearest (q : ℚ) : Binary64 := ofUnits (decide (q < 0)) (q.num.natAbs * one) q.den

/-- A rational number with a sign in front, or without. -/
def signed (negative : Bool) (q : ℚ) : ℚ := if negative then -q else q

theorem signed_zero (negative : Bool) : signed negative 0 = 0 := by
  cases negative <;> simp [signed]

theorem ofUnits_eq_of_roundUnits_eq {negative : Bool} {num den num' den' : ℕ}
    (h : roundUnits num den = roundUnits num' den') :
    ofUnits negative num den = ofUnits negative num' den' := by
  rw [ofUnits, ofUnits, h]

theorem nearest_zero : nearest 0 = finite false 0 := by
  have hround : roundUnits (0 * one) 1 = 0 := roundUnits_eq_zero (by rw [Nat.zero_mul]; decide)
  have hsign : decide ((0 : ℚ) < 0) = false := decide_eq_false (lt_irrefl 0)
  rw [nearest, hsign, Rat.num_zero, Rat.den_zero, Int.natAbs_zero, ofUnits, hround]
  exact if_pos unitLimit_pos

/-- **Any quotient** will do. -/
theorem nearest_div (negative : Bool) {a b : ℕ} (ha : 0 < a) (hb : 0 < b) :
    nearest (signed negative (a / b)) = ofUnits negative (a * one) b := by
  have ha' : (0 : ℚ) < a := Nat.cast_pos.mpr ha
  have hb' : (0 : ℚ) < b := Nat.cast_pos.mpr hb
  have hpos : (0 : ℚ) < a / b := div_pos ha' hb'
  have hnum : ((a / b : ℚ).num.natAbs : ℤ) = (a / b : ℚ).num :=
    Int.natAbs_of_nonneg (Rat.num_nonneg.mpr hpos.le)
  -- Both quotients are the same rational number, so they agree crosswise.
  have hcross : (a / b : ℚ).num.natAbs * b = a * (a / b : ℚ).den := by
    have hquot : ((a / b : ℚ).num : ℚ) / (a / b : ℚ).den = a / b := Rat.num_div_den _
    have hden : ((a / b : ℚ).den : ℚ) ≠ 0 := Nat.cast_ne_zero.mpr (Rat.den_nz _)
    rw [div_eq_div_iff hden hb'.ne'] at hquot
    have hint : (a / b : ℚ).num * b = a * (a / b : ℚ).den := by exact_mod_cast hquot
    rw [← hnum] at hint
    exact_mod_cast hint
  have hround : roundUnits ((a / b : ℚ).num.natAbs * one) (a / b : ℚ).den =
      roundUnits (a * one) b := by
    have hcommon : roundUnits (a * one * (a / b : ℚ).den) (b * (a / b : ℚ).den) = _ :=
      roundUnits_mul_right (Rat.den_pos _)
    rw [← roundUnits_mul_right hb, ← hcommon, Nat.mul_right_comm, hcross, Nat.mul_right_comm a one,
      Nat.mul_comm b]
  cases negative with
  | false =>
    have hsign : decide ((a / b : ℚ) < 0) = false := decide_eq_false hpos.not_gt
    show ofUnits (decide ((a / b : ℚ) < 0)) _ _ = _
    rw [hsign]
    exact ofUnits_eq_of_roundUnits_eq hround
  | true =>
    have hsign : decide (-(a / b : ℚ) < 0) = true := decide_eq_true (neg_neg_of_pos hpos)
    show ofUnits (decide (-(a / b : ℚ) < 0)) ((-(a / b : ℚ)).num.natAbs * one)
      (-(a / b : ℚ)).den = _
    rw [hsign, Rat.neg_num, Int.natAbs_neg, Rat.neg_den]
    exact ofUnits_eq_of_roundUnits_eq hround

/-! ### Decimals -/

/-- The rational number of a decimal. -/
def decimal (negative : Bool) (n : ℕ) (e : ℤ) : ℚ := signed negative (n * 10 ^ e)

theorem decimal_zero (negative : Bool) (e : ℤ) : decimal negative 0 e = 0 := by
  rw [decimal, Nat.cast_zero, zero_mul, signed_zero]

theorem decimal_of_nonneg (negative : Bool) (n k : ℕ) :
    decimal negative n k = signed negative ((n * 10 ^ k : ℕ) / (1 : ℕ)) := by
  rw [decimal, zpow_natCast, Nat.cast_one, div_one]
  push_cast
  rfl

theorem decimal_of_neg (negative : Bool) (n k : ℕ) :
    decimal negative n (-(k : ℤ)) = signed negative (n / (10 ^ k : ℕ)) := by
  rw [decimal, zpow_neg, zpow_natCast, Nat.cast_pow, div_eq_mul_inv]
  rfl

/-- A decimal so far below one that no power is computed is nearest to zero. -/
theorem roundUnits_of_far {n k : ℕ} (h : 400 + n.log2 < k) :
    roundUnits (n * one) (10 ^ k) = 0 := by
  refine roundUnits_eq_zero ?_
  have hn : n < 2 ^ (n.log2 + 1) := Nat.lt_log2_self
  have hpow : 2 ^ (n.log2 + 1) * one * 2 ≤ 2 ^ (3 * k) := by
    rw [one_eq, ← Nat.pow_add, ← Nat.pow_succ]
    exact Nat.pow_le_pow_right Nat.two_pos (by omega)
  have hten : 2 ^ (3 * k) ≤ 10 ^ k := by
    rw [Nat.pow_mul]
    exact Nat.pow_le_pow_left (by decide) k
  calc 2 * (n * one) = n * (one * 2) := by ring
    _ < 2 ^ (n.log2 + 1) * (one * 2) :=
      Nat.mul_lt_mul_of_pos_right hn (Nat.mul_pos one_pos Nat.two_pos)
    _ = 2 ^ (n.log2 + 1) * one * 2 := (Nat.mul_assoc _ _ _).symm
    _ ≤ 10 ^ k := hpow.trans hten

/-- **The nearest number** is what a decimal is read as, if it is not too large. -/
theorem same_nearest_of_isFinite {negative : Bool} {n : ℕ} {e : ℤ}
    (h : (ofDecimal negative n e).isFinite = true) :
    Same (ofDecimal negative n e) (nearest (decimal negative n e)) := by
  suffices heq : 0 < n → ofDecimal negative n e = nearest (decimal negative n e) by
    rcases Nat.eq_zero_or_pos n with rfl | hn
    · -- A decimal that is zero keeps its sign, and a rational number has none.
      rw [decimal_zero, nearest_zero, ofDecimal, if_pos rfl]
      exact same_zero _ _
    · rw [← heq hn]
      exact same_of_isFinite h
  intro hn
  -- Powers that are far too large or too small are not computed; the first are not finite.
  rw [ofDecimal, if_neg hn.ne'] at h ⊢
  split at h
  · cases h
  · next hlarge =>
    rw [if_neg hlarge]
    by_cases hnonneg : 0 ≤ e
    · obtain ⟨k, rfl⟩ := Int.eq_ofNat_of_zero_le hnonneg
      have hfar : ¬ (k : ℤ) < -(400 + (n.log2 : ℤ)) := by omega
      rw [if_neg hfar, if_pos hnonneg, Int.toNat_natCast, decimal_of_nonneg,
        nearest_div negative (Nat.mul_pos hn (Nat.pow_pos (by decide))) Nat.one_pos]
      rfl
    · obtain ⟨k, rfl⟩ := Int.exists_eq_neg_ofNat (Int.not_le.mp hnonneg).le
      rw [decimal_of_neg, nearest_div negative hn (Nat.pow_pos (by decide))]
      split
      · next hfar =>
        have hround := roundUnits_of_far (n := n) (k := k) (by omega)
        rw [ofUnits, hround]
        exact (if_pos unitLimit_pos).symm
      · rw [neg_neg, Int.toNat_natCast]
        rfl

end SecretScan.Binary64
