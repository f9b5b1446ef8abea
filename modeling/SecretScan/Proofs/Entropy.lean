import SecretScan.Entropy
import SecretScan.Proofs.Number.Binary64
import SecretScan.Proofs.Number.Logarithm
import SecretScan.Proofs.Tally

/-!
# Entropies and real numbers

The entropy of counted characters is a sum of logarithms, `Histogram.bits`. A program that compares
it with a threshold cannot compute it; it compares powers of natural numbers instead. The link
between the two is one equation about the quotient that an `Entropy` is made of,

```
logb 2 (num / den) = total * bits
```

which needs no more than that no counter exceeds the total (`Histogram.Sound`). Asking for a
positive entropy and asking for one that reaches a finite number are then both comparisons of `bits`
(`Entropy.isPositive_iff`, `Entropy.reaches_iff`): nothing is rounded on the way.
-/

namespace SecretScan

namespace Histogram

/-- The entropy of counted characters in bits a character: each character that occurs contributes
the binary logarithm of its frequency, weighted with this frequency. -/
noncomputable def bits (h : Histogram) : ℝ :=
  max 0 ((h.counters.filter (0 < ·)).map fun c : ℕ ↦
    -((c : ℝ) / h.total) * Real.logb 2 (c / h.total)).sum

/-- No character is counted more often than there are characters. -/
def Sound (h : Histogram) : Prop := ∀ c ∈ h.counters, c ≤ h.total

/-- A histogram is that of a text if it has a counter for each of its characters, and none twice. -/
structure Counts (h : Histogram) (text : List Char) : Prop where
  /-- The total stops below the limit. -/
  total : h.total = min text.length (counterLimit - 1)
  /-- Counters go round at the limit. -/
  counters : ∃ keys : List Char, keys.Nodup ∧ (∀ c ∈ text, c ∈ keys) ∧
    h.counters = keys.map fun c ↦ text.count c % counterLimit

theorem counts_ofText (text : List Char) : (ofText text).Counts text := by
  have hrecords := Tally.records_ofText text
  refine ⟨hrecords.total, _, hrecords.nodup_keys, fun c ↦ hrecords.mem_keys, ?_⟩
  rw [ofText, ofTally, hrecords.counters_eq, List.map_map]
  exact List.map_congr_left fun c _ ↦ hrecords.counter c

/-- Where the total stops and counters go round, counters still do not exceed the total. -/
theorem Counts.sound {h : Histogram} {text : List Char} (hh : h.Counts text) : h.Sound := by
  obtain ⟨keys, -, -, hcounters⟩ := hh.counters
  intro n hn
  rw [hcounters] at hn
  obtain ⟨c, -, rfl⟩ := List.mem_map.mp hn
  have hcount : text.count c ≤ text.length := List.count_le_length
  have hmod : text.count c % counterLimit ≤ text.count c := Nat.mod_le _ _
  have hlt : text.count c % counterLimit < counterLimit := Nat.mod_lt _ (Nat.two_pow_pos 32)
  rw [hh.total]
  omega

theorem sound_ofText (text : List Char) : (ofText text).Sound := (counts_ofText text).sound

/-! ### Sums of logarithms -/

variable {n c : ℕ} {cs : List ℕ}

/-- A counter that is zero would contribute nothing. -/
theorem sum_filter_pos (f : ℕ → ℝ) (hf : f 0 = 0) (cs : List ℕ) :
    ((cs.filter (0 < ·)).map f).sum = (cs.map f).sum := by
  induction cs with
  | nil => rfl
  | cons c cs ih =>
    rcases Nat.eq_zero_or_pos c with rfl | hc
    · rw [List.filter_cons_of_neg (by simp), ih, List.map_cons, List.sum_cons, hf, zero_add]
    · rw [List.filter_cons_of_pos (by simpa using hc), List.map_cons, List.sum_cons, ih,
        List.map_cons, List.sum_cons]

/-- What one character contributes, multiplied by the number of all characters. -/
theorem total_mul_term (hn : 0 < n) :
    n * (-((c : ℝ) / n) * Real.logb 2 (c / n)) = c * Real.logb 2 (n / c) := by
  have hn' : (n : ℝ) ≠ 0 := by exact_mod_cast hn.ne'
  have hinv : (c / n : ℝ) = (n / c : ℝ)⁻¹ := (inv_div _ _).symm
  rw [hinv, Real.logb_inv, ← hinv]
  field_simp

theorem term_nonneg (hc : c ≤ n) : 0 ≤ (c : ℝ) * Real.logb 2 (n / c) := by
  rcases Nat.eq_zero_or_pos c with rfl | hpos
  · simp
  · have hpos' : (0 : ℝ) < c := by exact_mod_cast hpos
    refine mul_nonneg hpos'.le (Real.logb_nonneg one_lt_two ?_)
    rw [one_le_div hpos']
    exact_mod_cast hc

/-- **The entropy without a fraction.** -/
theorem total_mul_bits {h : Histogram} (hh : h.Sound) (hn : 0 < h.total) :
    h.total * h.bits = (h.counters.map fun c : ℕ ↦ (c : ℝ) * Real.logb 2 (h.total / c)).sum := by
  have hsum : h.total * ((h.counters.filter (0 < ·)).map fun c : ℕ ↦
        -((c : ℝ) / h.total) * Real.logb 2 (c / h.total)).sum =
      (h.counters.map fun c : ℕ ↦ (c : ℝ) * Real.logb 2 (h.total / c)).sum := by
    rw [sum_filter_pos _ (by simp), ← List.sum_map_mul_left]
    simp only [total_mul_term hn]
  have hnonneg : 0 ≤ (h.counters.map fun c : ℕ ↦ (c : ℝ) * Real.logb 2 (h.total / c)).sum := by
    refine List.sum_nonneg fun x hx ↦ ?_
    obtain ⟨c, hc, rfl⟩ := List.mem_map.mp hx
    exact term_nonneg (hh c hc)
  have hpos : (0 : ℝ) < h.total := by exact_mod_cast hn
  rw [bits, max_eq_right, hsum]
  rw [← hsum] at hnonneg
  exact nonneg_of_mul_nonneg_right hnonneg hpos

theorem bits_nonneg (h : Histogram) : 0 ≤ h.bits := le_max_left _ _

/-! ### Products of powers -/

/-- The product of counters, each raised to the power of itself. -/
def selfPowers (cs : List ℕ) : ℕ := (cs.map fun c ↦ c ^ c).prod

theorem selfPowers_cons (c : ℕ) (cs : List ℕ) :
    selfPowers (c :: cs) = c ^ c * selfPowers cs := by
  rw [selfPowers, List.map_cons, List.prod_cons, selfPowers]

theorem selfPowers_pos (cs : List ℕ) : 0 < selfPowers cs := by
  refine List.prod_pos fun m hm ↦ ?_
  obtain ⟨c, -, rfl⟩ := List.mem_map.mp hm
  exact Nat.pow_self_pos

theorem selfPowers_le (hcs : ∀ c ∈ cs, c ≤ n) : selfPowers cs ≤ n ^ cs.sum := by
  induction cs with
  | nil => rfl
  | cons c cs ih =>
    rw [List.forall_mem_cons] at hcs
    rw [selfPowers_cons, List.sum_cons, pow_add]
    exact Nat.mul_le_mul (Nat.pow_le_pow_left hcs.1 c) (ih hcs.2)

/-- **The logarithm of the quotient** is the sum of all contributions. -/
theorem logb_pow_div_selfPowers (hn : 0 < n) (cs : List ℕ) :
    Real.logb 2 ((n : ℝ) ^ cs.sum / selfPowers cs) =
      (cs.map fun c : ℕ ↦ (c : ℝ) * Real.logb 2 (n / c)).sum := by
  induction cs with
  | nil => simp [selfPowers]
  | cons c cs ih =>
    have hn' : (n : ℝ) ≠ 0 := by exact_mod_cast hn.ne'
    have hc : (c : ℝ) ^ c ≠ 0 := by exact_mod_cast (Nat.pow_self_pos (n := c)).ne'
    have hcs : (selfPowers cs : ℝ) ≠ 0 := by exact_mod_cast (selfPowers_pos cs).ne'
    have hsplit : (n : ℝ) ^ (c :: cs).sum / selfPowers (c :: cs) =
        (n / c) ^ c * (n ^ cs.sum / selfPowers cs) := by
      rw [selfPowers_cons, List.sum_cons, pow_add, Nat.cast_mul, Nat.cast_pow, div_pow,
        mul_div_mul_comm]
    -- A counter that is zero is the exponent too, so the quotient is not zero even then.
    have hhead : ((n : ℝ) / c) ^ c ≠ 0 := by
      rw [div_pow]
      exact div_ne_zero (pow_ne_zero c hn') hc
    rw [hsplit, Real.logb_mul hhead (div_ne_zero (pow_ne_zero _ hn') hcs), Real.logb_pow, ih,
      List.map_cons, List.sum_cons]

end Histogram

/-! ### Comparisons -/

namespace Entropy

open Histogram

variable {h : Histogram}

theorem den_ofHistogram (h : Histogram) : (ofHistogram h).den = selfPowers h.counters :=
  List.prod_eq_foldl.symm

theorem den_pos (h : Histogram) : 0 < (ofHistogram h).den := by
  rw [den_ofHistogram]
  exact selfPowers_pos h.counters

theorem den_le_num (hh : h.Sound) : (ofHistogram h).den ≤ (ofHistogram h).num := by
  rw [den_ofHistogram]
  exact selfPowers_le hh

/-- **The link.** The quotient of natural numbers is two to the power of all bits together. -/
theorem logb_num_div_den (hh : h.Sound) (hn : 0 < h.total) :
    Real.logb 2 ((ofHistogram h).num / (ofHistogram h).den) = h.total * h.bits := by
  rw [total_mul_bits hh hn, ← logb_pow_div_selfPowers hn, den_ofHistogram]
  show Real.logb 2 (((h.total ^ h.counters.sum : ℕ) : ℝ) / _) = _
  rw [Nat.cast_pow]

/-- Where nothing has been counted there is no entropy. -/
theorem isPositive_of_total_eq_zero (hh : h.Sound) (hn : h.total = 0) :
    (ofHistogram h).isPositive = false ∧ h.bits = 0 := by
  have hzero : ∀ c ∈ h.counters, c = 0 := fun c hc ↦ Nat.le_zero.mp (hn ▸ hh c hc)
  constructor
  · have hnum : (ofHistogram h).num ≤ 1 := by
      show h.total ^ h.counters.sum ≤ 1
      rw [List.sum_eq_zero hzero, pow_zero]
    exact decide_eq_false (Nat.not_lt.mpr (hnum.trans (den_pos h)))
  · have hnone : h.counters.filter (0 < ·) = [] :=
      List.filter_eq_nil_iff.mpr fun c hc ↦ by simp [hzero c hc]
    rw [bits, hnone, List.map_nil, List.sum_nil, max_self]

theorem total_pos_of_bits_pos (hh : h.Sound) (hbits : 0 < h.bits) : 0 < h.total := by
  refine Nat.pos_of_ne_zero fun hn ↦ ?_
  exact hbits.ne' (isPositive_of_total_eq_zero hh hn).2

/-- **Positive entropy.** -/
theorem isPositive_iff (hh : h.Sound) : (ofHistogram h).isPositive = true ↔ 0 < h.bits := by
  rcases Nat.eq_zero_or_pos h.total with hn | hn
  · obtain ⟨hpos, hbits⟩ := isPositive_of_total_eq_zero hh hn
    rw [hpos, hbits]
    simp
  · have hn' : (0 : ℝ) < h.total := by exact_mod_cast hn
    have hden : (0 : ℝ) < (ofHistogram h).den := by exact_mod_cast den_pos h
    have hquot : (0 : ℝ) < (ofHistogram h).num / (ofHistogram h).den :=
      div_pos (by exact_mod_cast (den_pos h).trans_le (den_le_num hh)) hden
    rw [← mul_pos_iff_of_pos_left hn', ← logb_num_div_den hh hn, isPositive, decide_eq_true_iff,
      Real.logb_pos_iff one_lt_two hquot, one_lt_div hden, Nat.cast_lt]

/-- **Reaching a number.** -/
theorem reaches_iff (hh : h.Sound) (hn : 0 < h.total) {x : Binary64} (hx : x.isFinite = true) :
    (ofHistogram h).reaches x = true ↔ x.toReal ≤ h.bits := by
  rcases x with _ | _ | ⟨_ | _, units⟩
  · cases hx
  · cases hx
  · obtain ⟨hk, hreal⟩ := Binary64.toReal_lowest units
    rw [reaches, decide_eq_true_iff, hreal]
    generalize units / units.gcd Binary64.one = p
    generalize Binary64.one / units.gcd Binary64.one = k at hk ⊢
    have hk' : (0 : ℝ) < k := by exact_mod_cast hk
    have hn' : (0 : ℝ) < h.total := by exact_mod_cast hn
    have hbits : 0 ≤ k * (h.total * h.bits) :=
      mul_nonneg hk'.le (mul_nonneg hn'.le (bits_nonneg h))
    rw [floorLog_eq_floor (den_pos h) (den_le_num hh), logb_num_div_den hh hn,
      Nat.le_floor_iff hbits, div_le_iff₀ hk']
    -- The total stands on both sides and cancels.
    show ((h.total * p : ℕ) : ℝ) ≤ _ ↔ _
    rw [Nat.cast_mul, mul_left_comm, mul_le_mul_iff_right₀ hn', mul_comm h.bits]
  · exact iff_of_true rfl ((Binary64.toReal_finite_true_nonpos units).trans (bits_nonneg h))

end Entropy

namespace Histogram

/-- Nothing has no entropy. -/
theorem bits_ofText_nil : (ofText []).bits = 0 :=
  (Entropy.isPositive_of_total_eq_zero (sound_ofText []) rfl).2

end Histogram

/-- The entropy of a text in bits a character. -/
noncomputable def textBits (text : String) : ℝ := (Histogram.ofText text.toList).bits

end SecretScan
