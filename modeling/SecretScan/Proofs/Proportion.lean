import SecretScan.Proofs.Alphabet
import SecretScan.Proofs.Calculation
import SecretScan.Proofs.Frequencies
import SecretScan.Proofs.Verdict

/-!
# Texts in proportion

Two texts are compared here in which every character comes `k` times as often in one as in the
other: one is the other with its characters rearranged if `k` is one, and it may be the other
written `k` times. They have the same characters, hence the same alphabet, and the same share of
each character, hence the same entropy,

```
textBits t = textBits s
```

A threshold is compared with nothing but this number (`Entropy.reaches_congr`), so both texts have
high entropy or neither has, under thresholds of every kind.
-/

namespace SecretScan

section

variable {s t : List Char} {k : ℕ} (hk : 0 < k) (hcount : ∀ c, t.count c = k * s.count c)

include hk hcount

/-! ### The same characters -/

theorem mem_iff_of_count (c : Char) : c ∈ t ↔ c ∈ s := by
  rw [← List.count_pos_iff, ← List.count_pos_iff, hcount, Nat.mul_pos_iff_of_pos_left hk]

theorem toFinset_eq_of_count : t.toFinset = s.toFinset := by
  ext c
  rw [List.mem_toFinset, List.mem_toFinset, mem_iff_of_count hk hcount]

theorem isEmpty_eq_of_count : t.isEmpty = s.isEmpty := by
  rw [Bool.eq_iff_iff, List.isEmpty_iff, List.isEmpty_iff, List.eq_nil_iff_forall_not_mem,
    List.eq_nil_iff_forall_not_mem]
  simp only [mem_iff_of_count hk hcount]

/-- **The alphabet** depends on which characters come, and not on how often. -/
theorem classify_eq_of_count : Alphabet.classify t = .classify s := by
  have hall (sign : Char → Bool) : t.all sign = s.all sign := by
    rw [Bool.eq_iff_iff, List.all_eq_true, List.all_eq_true]
    simp only [mem_iff_of_count hk hcount]
  rw [Alphabet.classify_eq, Alphabet.classify_eq, isEmpty_eq_of_count hk hcount, hall, hall, hall]

/-! ### The same shares -/

theorem length_eq_of_count : t.length = k * s.length := by
  rw [← List.sum_toFinset_count_eq_length t, ← List.sum_toFinset_count_eq_length s,
    toFinset_eq_of_count hk hcount, Finset.mul_sum]
  exact Finset.sum_congr rfl fun c _ ↦ hcount c

/-- **The factor cancels.** -/
theorem frequency_eq_of_count (c : Char) : frequency t c = frequency s c := by
  have hk' : (k : ℝ) ≠ 0 := by exact_mod_cast hk.ne'
  rw [frequency, frequency, hcount, length_eq_of_count hk hcount, Nat.cast_mul, Nat.cast_mul,
    mul_div_mul_left _ _ hk']

/-- **The entropy** depends on the shares. -/
theorem Histogram.bits_eq_of_count (hs : s.length < counterLimit) (ht : t.length < counterLimit) :
    (ofText t).bits = (ofText s).bits := by
  rw [bits_eq_sum_frequency ht, bits_eq_sum_frequency hs, toFinset_eq_of_count hk hcount]
  simp only [frequency_eq_of_count hk hcount]

end

/-! ### Comparisons -/

namespace Entropy

variable {h h' : Histogram} (hh : h.Sound) (hh' : h'.Sound) (hbits : h.bits = h'.bits)

include hh hh' hbits

theorem isPositive_congr : (ofHistogram h).isPositive = (ofHistogram h').isPositive := by
  rw [Bool.eq_iff_iff, isPositive_iff hh, isPositive_iff hh', hbits]

/-- **Only the bits are compared** with a threshold, be it a number or not. -/
theorem reaches_congr (hpos : 0 < h.bits) (x : Binary64) :
    (ofHistogram h).reaches x = (ofHistogram h').reaches x := by
  have hn := total_pos_of_bits_pos hh hpos
  have hn' := total_pos_of_bits_pos hh' (hbits ▸ hpos)
  rcases x with _ | negative | ⟨negative, units⟩
  · rw [reaches, reaches]
  · rw [reaches, reaches]
  · rw [Bool.eq_iff_iff, reaches_iff hh hn rfl, reaches_iff hh' hn' rfl, hbits]

/-- Without any entropy the threshold does not matter. -/
theorem exceeds_congr (x : Binary64) :
    ((ofHistogram h).isPositive && (ofHistogram h).reaches x) =
      ((ofHistogram h').isPositive && (ofHistogram h').reaches x) := by
  rw [← isPositive_congr hh hh' hbits]
  rcases hpos : (ofHistogram h).isPositive
  · rw [Bool.false_and, Bool.false_and]
  · rw [reaches_congr hh hh' hbits ((isPositive_iff hh).mp hpos)]

end Entropy

namespace Configuration

variable {s t : String}

/-- **High entropy** of texts that are long enough depends on their alphabet and their bits. -/
theorem isHighEntropy_congr {config : Configuration}
    (halphabet : Alphabet.classify s.toList = .classify t.toList) (hbits : textBits s = textBits t)
    (hs : config.minimumLength ≤ s.length) (ht : config.minimumLength ≤ t.length) :
    config.isHighEntropy s = config.isHighEntropy t := by
  rw [← String.length_toList] at hs ht
  rw [isHighEntropy, isHighEntropy, Score.ofText, Score.ofText, if_neg (Nat.not_lt.mpr hs),
    if_neg (Nat.not_lt.mpr ht), Option.any_some, Option.any_some, Score.exceeds, Score.exceeds,
    halphabet]
  exact Entropy.exceeds_congr (Histogram.sound_ofText _) (Histogram.sound_ofText _) hbits _

end Configuration

/-- **Entropy depends on relative frequencies.** Where every character comes in `t` exactly `k`
times as often as in `s`, both texts have the same alphabet and the same bits a character, which are
what is calculated of them if nothing is rounded. If they are texts of ASCII and `k` is one, then
what is calculated is the same, operation by operation, so its value is the same however numbers are
rounded. In every session where both are long enough, literals of these texts that are not skipped
both have high entropy or neither has. -/
theorem entropy_of_proportional_texts {s t : String} {k : ℕ} (hk : 1 ≤ k)
    (hs : s.length < counterLimit) (ht : t.length < counterLimit)
    (hcount : ∀ c, t.toList.count c = k * s.toList.count c) :
    Alphabet.classify s.toList = .classify t.toList ∧ textBits s = textBits t ∧
      (Calculation.ofText s.toList).value .real = textBits s ∧
      (Calculation.ofText t.toList).value .real = textBits t ∧
      (k = 1 → (∀ c ∈ s.toList, c.toNat < 128) →
        Calculation.ofText s.toList = .ofText t.toList ∧
          ∀ (α : Type) (A : Arithmetic α),
            (Calculation.ofText s.toList).value A = (Calculation.ofText t.toList).value A) ∧
      ∀ (config : Configuration) (c d : Candidate), c.text = s → d.text = t →
        config.minimumLength ≤ s.length → config.minimumLength ≤ t.length →
        Suppression.check config c = none → Suppression.check config d = none →
        (.highEntropy ∈ config.evaluate c ↔ .highEntropy ∈ config.evaluate d) := by
  rw [← String.length_toList] at hs ht
  have halphabet : Alphabet.classify s.toList = .classify t.toList :=
    (classify_eq_of_count hk hcount).symm
  have hbits : textBits s = textBits t := (Histogram.bits_eq_of_count hk hcount hs ht).symm
  refine ⟨halphabet, hbits, Calculation.value_ofText _, Calculation.value_ofText _,
    fun hone hascii ↦ ?_, ?_⟩
  · have hperm : s.toList.Perm t.toList := List.perm_iff_count.mpr fun c ↦ by
      rw [hcount, hone, Nat.one_mul]
    have hsame := Calculation.ofText_eq_of_perm hperm hascii
    exact ⟨hsame, fun α A ↦ by rw [hsame]⟩
  · rintro config c d rfl rfl hlong hlong' hc hd
    rw [Configuration.highEntropy_mem_evaluate_iff, Configuration.highEntropy_mem_evaluate_iff, hc,
      hd, Configuration.isHighEntropy_congr halphabet hbits hlong hlong']

/-- Three characters, and each of them twice in another order. -/
theorem entropy_of_proportional_texts_abc : textBits "abc" = textBits "cabbac" := by
  refine (entropy_of_proportional_texts (s := "abc") (t := "cabbac") (k := 2) one_le_two
    ?_ ?_ fun c ↦ ?_).2.1
  · rw [show ("abc" : String).length = 3 from rfl, counterLimit]
    omega
  · rw [show ("cabbac" : String).length = 6 from rfl, counterLimit]
    omega
  · show List.count c ['c', 'a', 'b', 'b', 'a', 'c'] = 2 * List.count c ['a', 'b', 'c']
    simp only [List.count_cons, List.count_nil]
    omega

end SecretScan
