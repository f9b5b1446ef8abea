import Mathlib.Algebra.Order.Field.Basic
import Mathlib.Data.Real.Basic
import Mathlib.Tactic.Positivity
import SecretScan.Number.Binary64

/-!
# What a binary64 number stands for

A finite number of the format is a whole multiple of `2 ^ -1074` and stands for a real number
(`Binary64.toReal`); the others stand for none. That a number is finite and at least zero, of which
there are two, is a question about this real number (`Binary64.isNonneg_iff_toReal`), and it is what
the check of a threshold asks (`Binary64.isNonneg_iff`). Finite numbers are compared as the real
numbers that they stand for (`Binary64.le_iff_toReal`).
-/

namespace SecretScan.Binary64

/-- The real number that a finite one stands for. The others stand for none, and are sent to zero.
-/
noncomputable def toReal : Binary64 → ℝ
  | .finite false units => units / (one : ℝ)
  | .finite true units => -(units / (one : ℝ))
  | .nan | .infinite _ => 0

theorem one_pos : 0 < one := by
  unfold one
  exact Nat.two_pow_pos 1074

theorem cast_one_pos : (0 : ℝ) < (one : ℝ) := by
  exact_mod_cast one_pos

theorem toReal_finite_false (units : ℕ) :
    (finite false units).toReal = units / (one : ℝ) := rfl

theorem toReal_finite_true_nonpos (units : ℕ) : (finite true units).toReal ≤ 0 :=
  neg_nonpos.mpr (div_nonneg units.cast_nonneg cast_one_pos.le)

/-- A number as a quotient of natural numbers in lowest terms. -/
theorem toReal_lowest (units : ℕ) :
    0 < one / units.gcd one ∧
      (finite false units).toReal =
        ((units / units.gcd one : ℕ) : ℝ) / ((one / units.gcd one : ℕ) : ℝ) := by
  obtain ⟨p, hp⟩ := Nat.gcd_dvd_left units one
  obtain ⟨k, hk⟩ := Nat.gcd_dvd_right units one
  have hcommon : 0 < units.gcd one := Nat.gcd_pos_of_pos_right _ one_pos
  have hcommon' : (units.gcd one : ℝ) ≠ 0 := by exact_mod_cast hcommon.ne'
  have hp' : (units : ℝ) = units.gcd one * p := by rw [← Nat.cast_mul, ← hp]
  have hk' : (one : ℝ) = units.gcd one * k := by rw [← Nat.cast_mul, ← hk]
  rw [Nat.div_eq_of_eq_mul_right hcommon hp, Nat.div_eq_of_eq_mul_right hcommon hk]
  constructor
  · exact Nat.pos_of_mul_pos_left (hk ▸ one_pos)
  · rw [toReal_finite_false, hp', hk', mul_div_mul_left _ _ hcommon']

/-! ### Numbers that are not negative -/

/-- A number that is finite and at least zero, of either sign. -/
def IsNonneg : Binary64 → Prop
  | .finite negative units => negative = false ∨ units = 0
  | .nan | .infinite _ => False

theorem isNonneg_iff {x : Binary64} :
    x.IsNonneg ↔ (x.isFinite && (finite false 0).le x) = true := by
  rcases x with - | - | ⟨negative, units⟩
  · simp [IsNonneg, isFinite]
  · simp [IsNonneg, isFinite]
  · cases negative <;> simp [IsNonneg, isFinite, le]

instance : DecidablePred IsNonneg := fun _ ↦ decidable_of_iff _ isNonneg_iff.symm

theorem isFinite_of_isNonneg {x : Binary64} (h : x.IsNonneg) : x.isFinite = true := by
  rw [isNonneg_iff, Bool.and_eq_true] at h
  exact h.1

/-- Finite and not negative is finite and at least the real number zero. -/
theorem isNonneg_iff_toReal {x : Binary64} : x.IsNonneg ↔ x.isFinite = true ∧ 0 ≤ x.toReal := by
  rcases x with - | - | ⟨negative, units⟩
  · simp [IsNonneg, isFinite]
  · simp [IsNonneg, isFinite]
  · have hnonneg : (0 : ℝ) ≤ units / (one : ℝ) := div_nonneg units.cast_nonneg cast_one_pos.le
    cases negative with
    | false => exact iff_of_true (.inl rfl) ⟨rfl, hnonneg⟩
    | true =>
      have hzero : units / (one : ℝ) ≤ 0 ↔ units = 0 := by
        rw [div_le_iff₀ cast_one_pos, zero_mul, Nat.cast_nonpos]
      show true = false ∨ units = 0 ↔ true = true ∧ 0 ≤ -(units / (one : ℝ))
      rw [neg_nonneg, hzero]
      simp

/-! ### Comparison -/

variable {x y z : Binary64}

theorem exists_eq_finite (h : x.isFinite = true) : ∃ negative units, x = finite negative units := by
  rcases x with _ | _ | ⟨negative, units⟩
  · cases h
  · cases h
  · exact ⟨negative, units, rfl⟩

/-- **Finite numbers are compared as the real numbers that they stand for.** -/
theorem le_iff_toReal (hx : x.isFinite = true) (hy : y.isFinite = true) :
    x.le y = true ↔ x.toReal ≤ y.toReal := by
  obtain ⟨negative, a, rfl⟩ := exists_eq_finite hx
  obtain ⟨negative', b, rfl⟩ := exists_eq_finite hy
  have hnonneg (units : ℕ) : (0 : ℝ) ≤ units / (one : ℝ) :=
    div_nonneg units.cast_nonneg cast_one_pos.le
  have hle (a b : ℕ) : a / (one : ℝ) ≤ b / (one : ℝ) ↔ a ≤ b := by
    rw [div_le_div_iff_of_pos_right cast_one_pos, Nat.cast_le]
  have hzero (units : ℕ) : units / (one : ℝ) = 0 ↔ units = 0 := by
    rw [div_eq_zero_iff, or_iff_left cast_one_pos.ne', Nat.cast_eq_zero]
  cases negative with
  | false =>
    cases negative' with
    | false => rw [le, decide_eq_true_iff, toReal, toReal, hle]
    | true =>
      -- A sum of two numbers that are not negative is at most zero if both are zero.
      show (a == 0 && b == 0) = true ↔ a / (one : ℝ) ≤ -(b / (one : ℝ))
      rw [Bool.and_eq_true, beq_iff_eq, beq_iff_eq, ← hzero a, ← hzero b,
        ← add_eq_zero_iff_of_nonneg (hnonneg a) (hnonneg b), le_neg_iff_add_nonpos_right]
      exact ((add_nonneg (hnonneg a) (hnonneg b)).ge_iff_eq').symm
  | true =>
    cases negative' with
    | false => exact iff_of_true rfl ((neg_nonpos.mpr (hnonneg a)).trans (hnonneg b))
    | true => rw [le, decide_eq_true_iff, toReal, toReal, neg_le_neg_iff, hle]

/-- What reaches a finite number reaches every lesser one, even if it is infinite itself. -/
theorem le_of_toReal_le (hx : x.isFinite = true) (hy : y.isFinite = true)
    (hxy : x.toReal ≤ y.toReal) (h : y.le z = true) : x.le z = true := by
  obtain ⟨negative, a, rfl⟩ := exists_eq_finite hx
  obtain ⟨negative', b, rfl⟩ := exists_eq_finite hy
  rcases z with _ | negative'' | ⟨negative'', units⟩
  · cases negative' <;> cases h
  · cases negative'' with
    | false => rfl
    | true => cases h
  · have hz : (finite negative'' units).isFinite = true := rfl
    exact (le_iff_toReal hx hz).mpr (hxy.trans ((le_iff_toReal hy hz).mp h))

end SecretScan.Binary64
