import Mathlib.Algebra.BigOperators.Field
import Mathlib.Algebra.BigOperators.Group.Finset.Basic
import SecretScan.Proofs.Entropy

/-!
# Entropy by characters

The counters of a histogram are a list with zeros in it, in an order that says more of the program
than of the text. Sums and products over them are sums and products over the characters of the text
(`Histogram.Counts.sum_map_counters`, `Histogram.Counts.prod_map_counters`), so what is computed of
a histogram depends on nothing but how often each character comes. Below the limit of the counters

```
text.length * bits = ∑ c ∈ text.toFinset, text.count c * logb 2 (text.length / text.count c)
num                = text.length ^ text.length
den                = ∏ c ∈ text.toFinset, text.count c ^ text.count c
```
-/

namespace SecretScan

/-! ### Counts as real numbers -/

theorem cast_length_pos {text : List Char} (hne : text ≠ []) : (0 : ℝ) < text.length := by
  exact_mod_cast List.length_pos_iff.mpr hne

namespace Histogram

variable {h h' : Histogram} {text : List Char}

/-! ### Sums and products over counters -/

/-- Counters of characters that do not come add nothing. -/
theorem Counts.sum_map_counters {M : Type*} [AddCommMonoid M] (hh : h.Counts text) {f : ℕ → M}
    (hf : f 0 = 0) :
    (h.counters.map f).sum = ∑ c ∈ text.toFinset, f (text.count c % counterLimit) := by
  obtain ⟨keys, hnodup, hmem, hcounters⟩ := hh.counters
  rw [hcounters, List.map_map, ← List.sum_toFinset _ hnodup]
  refine (Finset.sum_subset (fun c hc ↦ ?_) fun c _ hc ↦ ?_).symm
  · exact List.mem_toFinset.mpr (hmem c (List.mem_toFinset.mp hc))
  · rw [List.mem_toFinset] at hc
    rw [Function.comp_apply, List.count_eq_zero_of_not_mem hc, Nat.zero_mod, hf]

/-- Counters of characters that do not come are no factors. -/
theorem Counts.prod_map_counters {M : Type*} [CommMonoid M] (hh : h.Counts text) {f : ℕ → M}
    (hf : f 0 = 1) :
    (h.counters.map f).prod = ∏ c ∈ text.toFinset, f (text.count c % counterLimit) := by
  obtain ⟨keys, hnodup, hmem, hcounters⟩ := hh.counters
  rw [hcounters, List.map_map, ← List.prod_toFinset _ hnodup]
  refine (Finset.prod_subset (fun c hc ↦ ?_) fun c _ hc ↦ ?_).symm
  · exact List.mem_toFinset.mpr (hmem c (List.mem_toFinset.mp hc))
  · rw [List.mem_toFinset] at hc
    rw [Function.comp_apply, List.count_eq_zero_of_not_mem hc, Nat.zero_mod, hf]

theorem Counts.selfPowers_counters (hh : h.Counts text) :
    selfPowers h.counters = ∏ c ∈ text.toFinset,
      (text.count c % counterLimit) ^ (text.count c % counterLimit) :=
  hh.prod_map_counters (pow_zero 0)

/-- **The entropy of a text does not depend on who counts it.** -/
theorem Counts.entropy_eq (hh : h.Counts text) (hh' : h'.Counts text) :
    Entropy.ofHistogram h = Entropy.ofHistogram h' := by
  have htotal : h.total = h'.total := hh.total.trans hh'.total.symm
  have hsum : h.counters.sum = h'.counters.sum := by
    rw [← List.map_id h.counters, ← List.map_id h'.counters, hh.sum_map_counters rfl,
      hh'.sum_map_counters rfl]
  have hden : (Entropy.ofHistogram h).den = (Entropy.ofHistogram h').den := by
    rw [Entropy.den_ofHistogram, Entropy.den_ofHistogram, hh.selfPowers_counters,
      hh'.selfPowers_counters]
  have hnum : (Entropy.ofHistogram h).num = (Entropy.ofHistogram h').num := by
    show h.total ^ h.counters.sum = h'.total ^ h'.counters.sum
    rw [htotal, hsum]
  show Entropy.mk _ _ _ = Entropy.mk _ _ _
  rw [Entropy.mk.injEq]
  exact ⟨htotal, hnum, hden⟩

/-! ### Texts in parts -/

/-- The text that is given in parts. -/
def writtenOut (parts : List (List Char × ℕ)) : List Char :=
  parts.flatMap fun p ↦ (List.replicate p.2 p.1).flatten

theorem count_writtenOut (parts : List (List Char × ℕ)) (c : Char) :
    (writtenOut parts).count c = parts.foldr (fun p n ↦ p.1.count c * p.2 + n) 0 := by
  induction parts with
  | nil => rfl
  | cons p parts ih =>
    rw [List.foldr_cons, ← ih, writtenOut, List.flatMap_cons, List.count_append, ← writtenOut,
      List.count_flatten, List.map_replicate, List.sum_replicate, smul_eq_mul, Nat.mul_comm]

theorem length_writtenOut (parts : List (List Char × ℕ)) :
    (writtenOut parts).length = parts.foldr (fun p n ↦ p.1.length * p.2 + n) 0 := by
  induction parts with
  | nil => rfl
  | cons p parts ih =>
    rw [List.foldr_cons, ← ih, writtenOut, List.flatMap_cons, List.length_append, ← writtenOut,
      List.length_flatten, List.map_replicate, List.sum_replicate, smul_eq_mul, Nat.mul_comm]

theorem counts_ofParts (parts : List (List Char × ℕ)) :
    (ofParts parts).Counts (writtenOut parts) := by
  refine ⟨?_, (parts.flatMap Prod.fst).eraseDups, nodup_eraseDups _, fun c hc ↦ ?_, ?_⟩
  · rw [length_writtenOut]
    rfl
  · obtain ⟨p, hp, hc⟩ := List.mem_flatMap.mp hc
    obtain ⟨copy, hcopy, hc⟩ := List.mem_flatten.mp hc
    obtain rfl := List.eq_of_mem_replicate hcopy
    exact List.mem_eraseDups.mpr (List.mem_flatMap.mpr ⟨p, hp, hc⟩)
  · simp only [count_writtenOut]
    rfl

/-- **A text need not be written out** to know its entropy. -/
theorem ofParts_eq (parts : List (List Char × ℕ)) :
    Entropy.ofParts parts = Entropy.ofText (writtenOut parts) :=
  (counts_ofParts parts).entropy_eq (counts_ofText _)

/-! ### Below the limit -/

theorem Counts.total_mul_bits (hh : h.Counts text) :
    h.total * h.bits = ∑ c ∈ text.toFinset,
      ((text.count c % counterLimit : ℕ) : ℝ) *
        Real.logb 2 (h.total / (text.count c % counterLimit : ℕ)) := by
  rcases Nat.eq_zero_or_pos h.total with hn | hn
  · rw [hn]
    simp
  · rw [Histogram.total_mul_bits hh.sound hn]
    exact hh.sum_map_counters (f := fun n : ℕ ↦ (n : ℝ) * Real.logb 2 (h.total / n)) (by simp)

variable (hlength : text.length < counterLimit)

include hlength

theorem total_ofText_of_lt : (ofText text).total = text.length := by
  rw [(counts_ofText text).total]
  omega

theorem count_mod_of_lt (c : Char) : text.count c % counterLimit = text.count c :=
  Nat.mod_eq_of_lt (Nat.lt_of_le_of_lt List.count_le_length hlength)

/-- **The entropy by characters.** -/
theorem length_mul_bits :
    text.length * (ofText text).bits = ∑ c ∈ text.toFinset,
      (text.count c : ℝ) * Real.logb 2 (text.length / text.count c) := by
  have h := (counts_ofText text).total_mul_bits
  simpa only [total_ofText_of_lt hlength, count_mod_of_lt hlength] using h

end Histogram

/-! ### Frequencies -/

section Frequency

variable {text : List Char}

/-- The share of a character in a text. -/
noncomputable def frequency (text : List Char) (c : Char) : ℝ := text.count c / text.length

/-- **The entropy by frequencies.** -/
theorem Histogram.bits_eq_sum_frequency (hlength : text.length < counterLimit) :
    (ofText text).bits =
      ∑ c ∈ text.toFinset, frequency text c * Real.logb 2 (frequency text c)⁻¹ := by
  rcases eq_or_ne text [] with rfl | hne
  · rw [bits_ofText_nil]
    simp
  · have hn : (text.length : ℝ) ≠ 0 := (cast_length_pos hne).ne'
    refine mul_left_cancel₀ hn ?_
    rw [length_mul_bits hlength, Finset.mul_sum]
    refine Finset.sum_congr rfl fun c _ ↦ ?_
    rw [frequency, inv_div]
    field_simp

end Frequency

end SecretScan
