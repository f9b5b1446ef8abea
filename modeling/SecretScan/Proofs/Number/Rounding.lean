import Mathlib.Tactic.NormNum
import Mathlib.Tactic.Ring
import SecretScan.Proofs.Number.Binary64

/-!
# Rounding that changes nothing

Rounding depends on a quotient only, so a factor that stands above and below cancels
(`roundUnits_mul_right`). A whole number of at most 53 significant bits is not changed
(`roundUnits_of_significant`). These two facts decide where a decimal that is rounded in several
steps comes out as if it had been rounded once.
-/

namespace SecretScan.Binary64

/-! ### Common factors -/

theorem roundQuotient_mul_right {num den k : ℕ} (hk : 0 < k) :
    roundQuotient (num * k) (den * k) = roundQuotient num den := by
  have hquot : num * k / (den * k) = num / den := Nat.mul_div_mul_right num den hk
  have hrest : num * k % (den * k) = num % den * k := Nat.mul_mod_mul_right k num den
  have htwice : 2 * (num % den * k) = 2 * (num % den) * k := by rw [Nat.mul_assoc]
  rw [roundQuotient, roundQuotient, hquot, hrest, htwice]
  simp only [Nat.mul_lt_mul_right hk]

theorem roundUnits_mul_right {num den k : ℕ} (hk : 0 < k) :
    roundUnits (num * k) (den * k) = roundUnits num den := by
  have hcomm (m : ℕ) : den * k * m = den * m * k := by ring
  rw [roundUnits, roundUnits, Nat.mul_div_mul_right num den hk]
  simp only [hcomm, roundQuotient_mul_right hk]

/-! ### Whole numbers -/

theorem one_eq : one = 2 ^ 1074 := by
  rw [one, Nat.pow_eq]

theorem unitLimit_eq : unitLimit = 2 ^ 2098 := by
  rw [unitLimit, Nat.pow_eq]

theorem unitLimit_pos : 0 < unitLimit := by
  rw [unitLimit_eq]
  exact Nat.two_pow_pos 2098

/-- A quotient without a rest is not rounded. -/
theorem roundQuotient_of_dvd {num den : ℕ} (hden : 0 < den) (h : den ∣ num) :
    roundQuotient num den = num / den := by
  have hrest : num % den = 0 := Nat.mod_eq_zero_of_dvd h
  rw [roundQuotient, hrest]
  simp only [Nat.mul_zero, if_pos hden]

/-- Not more than 53 bits of a number are significant. -/
def FitsSignificand (n : ℕ) : Prop := ∃ t j, t < Nat.pow 2 53 ∧ n = t * Nat.pow 2 j

/-- **A number of at most 53 significant bits is not rounded.** -/
theorem roundUnits_of_fits {n : ℕ} (h : FitsSignificand n) : roundUnits (n * one) 1 = n * one := by
  obtain ⟨t, j, ht, rfl⟩ := h
  rcases Nat.eq_zero_or_pos t with rfl | hpos
  · simp [roundUnits, roundQuotient]
  · -- How many bits the number one has does not matter.
    obtain ⟨b, hone⟩ : ∃ b, one = 2 ^ b := ⟨1074, one_eq⟩
    have hn : t * Nat.pow 2 j * one = t * 2 ^ (j + b) := by
      rw [hone, Nat.pow_add, ← Nat.mul_assoc]
      rfl
    have hlog : (t * 2 ^ (j + b)).log2 < 53 + (j + b) := by
      have hne : t * 2 ^ (j + b) ≠ 0 := (Nat.mul_pos hpos (Nat.two_pow_pos _)).ne'
      rw [Nat.log2_lt hne, Nat.pow_add 2 53]
      exact Nat.mul_lt_mul_of_pos_right ht (Nat.two_pow_pos _)
    -- What is cut off are zeros.
    have hdvd : 2 ^ ((t * 2 ^ (j + b)).log2 - 52) ∣ t * 2 ^ (j + b) := by
      have hshift : (t * 2 ^ (j + b)).log2 - 52 ≤ j + b := by omega
      exact (Nat.pow_dvd_pow 2 hshift).mul_left t
    rw [hn, roundUnits, Nat.div_one, Nat.one_mul]
    show roundQuotient _ (2 ^ _) * 2 ^ _ = _
    rw [roundQuotient_of_dvd (Nat.two_pow_pos _) hdvd, Nat.div_mul_cancel hdvd]

/-- Numbers up to `2 ^ 53` fit. -/
theorem fitsSignificand_of_le {n : ℕ} (h : n ≤ 0x20000000000000) : FitsSignificand n := by
  rcases Nat.lt_or_eq_of_le h with hlt | rfl
  · exact ⟨n, 0, hlt, (Nat.mul_one n).symm⟩
  · exact ⟨1, 53, by decide, by decide⟩

/-- So do powers of ten up to the twenty-second: their powers of five do. -/
theorem fitsSignificand_ten_pow {e : ℕ} (h : e ≤ 22) : FitsSignificand (10 ^ e) := by
  refine ⟨5 ^ e, e, ?_, ?_⟩
  · exact Nat.lt_of_le_of_lt (Nat.pow_le_pow_right (by decide) h) (by decide)
  · show 10 ^ e = 5 ^ e * 2 ^ e
    rw [← Nat.mul_pow]

/-! ### Bounds -/

/-- Less than half a unit is rounded to nothing. -/
theorem roundUnits_eq_zero {num den : ℕ} (h : 2 * num < den) : roundUnits num den = 0 := by
  have hlt : num < den := by omega
  have hquot : num / den = 0 := Nat.div_eq_of_lt hlt
  have hunit : den * Nat.pow 2 (Nat.log2 0 - 52) = den := Nat.mul_one den
  have hround : roundQuotient num den = 0 := by
    rw [roundQuotient, hquot, Nat.mod_eq_of_lt hlt]
    exact if_pos h
  rw [roundUnits, hquot]
  simp only [hunit, hround, Nat.zero_mul]

theorem roundQuotient_le (num den : ℕ) : roundQuotient num den ≤ num / den + 1 := by
  rw [roundQuotient]
  split
  · exact Nat.le_succ _
  · split
    · exact Nat.le_refl _
    · have hrest : num / den % 2 < 2 := Nat.mod_lt _ Nat.two_pos
      omega

/-- Rounding does not get beyond twice the quotient. -/
theorem roundUnits_le (num den : ℕ) : roundUnits num den ≤ 2 * (num / den) + 1 := by
  have hle := roundQuotient_le num (den * Nat.pow 2 ((num / den).log2 - 52))
  rw [← Nat.div_div_eq_div_mul] at hle
  have hcut : num / den / Nat.pow 2 ((num / den).log2 - 52) * Nat.pow 2 ((num / den).log2 - 52) ≤
      num / den := Nat.div_mul_le_self _ _
  have hpow : Nat.pow 2 ((num / den).log2 - 52) ≤ num / den + 1 := by
    rcases Nat.eq_zero_or_pos (num / den) with hzero | hpos
    · rw [hzero]
      decide
    · have hself := Nat.log2_self_le hpos.ne'
      have hshift : Nat.pow 2 ((num / den).log2 - 52) ≤ 2 ^ (num / den).log2 :=
        Nat.pow_le_pow_right Nat.two_pos (Nat.sub_le _ _)
      omega
  rw [roundUnits]
  calc roundQuotient num (den * Nat.pow 2 ((num / den).log2 - 52)) *
        Nat.pow 2 ((num / den).log2 - 52)
      ≤ (num / den / Nat.pow 2 ((num / den).log2 - 52) + 1) *
        Nat.pow 2 ((num / den).log2 - 52) := Nat.mul_le_mul_right _ hle
    _ ≤ num / den + (num / den + 1) := by
      rw [Nat.add_mul, Nat.one_mul]
      exact Nat.add_le_add hcut hpow
    _ = 2 * (num / den) + 1 := by omega

/-- A quotient that is not large stays finite. -/
theorem ofUnits_of_le {negative : Bool} {num den : ℕ} (h : num / den ≤ 2 ^ 2000) :
    ofUnits negative num den = .finite negative (roundUnits num den) := by
  have hround := roundUnits_le num den
  have hlimit : 2 * 2 ^ 2000 + 1 < 2 ^ 2098 := by
    have hsplit : 2 ^ 2098 = 2 ^ 2000 * 2 ^ 98 := by rw [← Nat.pow_add]
    have hpos : 0 < 2 ^ 2000 := Nat.two_pow_pos 2000
    omega
  rw [ofUnits]
  exact if_pos (by rw [unitLimit_eq]; omega)

/-! ### The same number -/

/-- Numbers that compare as equal: both zeros are, and otherwise only a number with itself. -/
def Same (x y : Binary64) : Prop := x.le y = true ∧ y.le x = true

variable {x y z : Binary64}

theorem same_zero (negative negative' : Bool) : Same (finite negative 0) (finite negative' 0) := by
  cases negative <;> cases negative' <;> exact ⟨rfl, rfl⟩

theorem same_of_isFinite (h : x.isFinite = true) : Same x x := by
  rcases x with _ | _ | ⟨negative, units⟩
  · cases h
  · cases h
  · cases negative <;> simp [Same, le]

theorem Same.symm (h : Same x y) : Same y x := ⟨h.2, h.1⟩

/-- Numbers that compare as equal are equal, or both are zero. -/
theorem Same.eq_or_zero (h : Same x y) :
    x = y ∨ ∃ negative negative', x = finite negative 0 ∧ y = finite negative' 0 := by
  obtain ⟨hxy, hyx⟩ := h
  rcases x with - | negative | ⟨negative, units⟩
  · cases hxy
  · rcases y with - | negative' | ⟨negative', units'⟩
    · cases hyx
    · cases negative <;> cases negative' <;> simp_all [le]
    · cases negative <;> cases negative' <;> simp_all [le]
  · rcases y with - | negative' | ⟨negative', units'⟩
    · cases hyx
    · cases negative <;> cases negative' <;> simp_all [le]
    · cases negative <;> cases negative' <;> simp_all [le] <;> omega

theorem Same.trans (h : Same x y) (h' : Same y z) : Same x z := by
  rcases h.eq_or_zero with rfl | ⟨negative, negative', rfl, rfl⟩
  · exact h'
  · rcases h'.eq_or_zero with rfl | ⟨-, negative'', -, rfl⟩
    · exact same_zero negative negative'
    · exact same_zero negative negative''

theorem Same.isNonneg_iff (h : Same x y) : x.IsNonneg ↔ y.IsNonneg := by
  rcases h.eq_or_zero with rfl | ⟨negative, negative', rfl, rfl⟩
  · rfl
  · simp [IsNonneg]

end SecretScan.Binary64
