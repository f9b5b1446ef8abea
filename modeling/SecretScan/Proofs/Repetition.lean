import SecretScan.Proofs.Frequencies
import SecretScan.Proofs.Suppression

/-!
# One character, many times

A text of one character has no entropy, and this is what is measured of it, as long as its counter
does not go round. The total stops at the limit and the counter does not, so beyond the limit they
are no longer the same number. With `r = n % limit` what is measured of a character that comes `n`
times is

```
0                                            if n < limit
r / (limit - 1) * logb 2 ((limit - 1) / r)   if limit ≤ n
```

which is positive unless `r` is zero or all of the total. A session with small thresholds reports
such a text (`Configuration.highEntropy_mem_evaluate_replicate_iff`).
-/

namespace SecretScan

variable {c : Char} {n : ℕ}

namespace Histogram

/-- What is measured of one character. -/
theorem bits_replicate (c : Char) (n : ℕ) :
    (ofText (List.replicate n c)).bits =
      (n % counterLimit : ℕ) / (min n (counterLimit - 1) : ℕ) *
        Real.logb 2 ((min n (counterLimit - 1) : ℕ) / (n % counterLimit : ℕ)) := by
  have hcounts := counts_ofText (List.replicate n c)
  have htotal : (ofText (List.replicate n c)).total = min n (counterLimit - 1) := by
    rw [hcounts.total, List.length_replicate]
  rcases Nat.eq_zero_or_pos n with rfl | hn
  · rw [(Entropy.isPositive_of_total_eq_zero hcounts.sound htotal).2]
    simp
  · have hne : ((min n (counterLimit - 1) : ℕ) : ℝ) ≠ 0 := by
      have hlimit : 0 < counterLimit - 1 := by decide
      exact_mod_cast (lt_min hn hlimit).ne'
    have hbits := hcounts.total_mul_bits
    rw [htotal, List.toFinset_replicate_of_ne_zero hn.ne', Finset.sum_singleton,
      List.count_replicate_self] at hbits
    rw [div_mul_eq_mul_div, eq_div_iff hne, mul_comm, hbits]

theorem bits_replicate_pos_iff :
    0 < (ofText (List.replicate n c)).bits ↔
      counterLimit ≤ n ∧ 0 < n % counterLimit ∧ n % counterLimit < counterLimit - 1 := by
  have hmod : n % counterLimit < counterLimit := Nat.mod_lt n (by decide)
  have hle : n % counterLimit ≤ min n (counterLimit - 1) := le_min (Nat.mod_le n _) (by omega)
  rw [bits_replicate]
  rcases Nat.eq_zero_or_pos (n % counterLimit) with hzero | hpos
  · rw [hzero]
    simp
  · have hpos' : (0 : ℝ) < (n % counterLimit : ℕ) := by exact_mod_cast hpos
    have htotal : (0 : ℝ) < (min n (counterLimit - 1) : ℕ) := by exact_mod_cast hpos.trans_le hle
    rw [mul_pos_iff_of_pos_left (div_pos hpos' htotal),
      Real.logb_pos_iff one_lt_two (div_pos htotal hpos'), one_lt_div hpos', Nat.cast_lt]
    -- Below the limit the counter is the total.
    rcases Nat.lt_or_ge n counterLimit with hlt | hge
    · rw [Nat.mod_eq_of_lt hlt]
      omega
    · omega

end Histogram

/-- **A repeated character is reported** exactly in the sessions and for the lengths where its
counter has gone round and what is left of it reaches the threshold. -/
theorem Configuration.highEntropy_mem_evaluate_replicate_iff {o : Options} {config : Configuration}
    (h : o.resolve = .ok config) {candidate : Candidate}
    (htext : candidate.text.toList = List.replicate n c) :
    .highEntropy ∈ config.evaluate candidate ↔
      Suppression.check config candidate = none ∧ config.minimumLength ≤ n ∧ counterLimit ≤ n ∧
        0 < n % counterLimit ∧ n % counterLimit < counterLimit - 1 ∧
        (config.thresholds.of (.classify (List.replicate n c))).toReal ≤
          (n % counterLimit : ℕ) / (counterLimit - 1 : ℕ) *
            Real.logb 2 ((counterLimit - 1 : ℕ) / (n % counterLimit : ℕ)) := by
  rw [highEntropy_mem_evaluate_iff_of_resolve h, ← String.length_toList, textBits, htext,
    List.length_replicate, Histogram.bits_replicate_pos_iff, Histogram.bits_replicate]
  constructor
  · rintro ⟨hcheck, hlong, ⟨hge, hrest⟩, hreached⟩
    rw [min_eq_right (by omega)] at hreached
    exact ⟨hcheck, hlong, hge, hrest.1, hrest.2, hreached⟩
  · rintro ⟨hcheck, hlong, hge, hpos, hlt, hreached⟩
    rw [min_eq_right (by omega)]
    exact ⟨hcheck, hlong, ⟨hge, hpos, hlt⟩, hreached⟩

/-- **Counting is exact below the limit**, and there only. The total stops at the limit, counters go
round, and a counter is the count of its character as long as it has not. So a text of one character
is never reported below the limit; beyond it, it is reported wherever the rest that is left in its
counter reaches the threshold. -/
theorem counting_exact_below_limit {o : Options} {config : Configuration}
    (h : o.resolve = .ok config) :
    (∀ text : List Char,
      (Tally.ofText text).total.toNat = min text.length (counterLimit - 1) ∧
        (∀ c, ((Tally.ofText text).counter c).toNat = text.count c % counterLimit) ∧
        (Tally.NeverGoesRound text ↔ ∀ c, text.count c < counterLimit) ∧
        ((∀ c, ((Tally.ofText text).counter c).toNat = text.count c) ↔
          ∀ c, text.count c < counterLimit) ∧
        ((Tally.ofText text).total.toNat = text.length ↔ text.length < counterLimit)) ∧
      ∀ (c : Char) (n : ℕ) (candidate : Candidate),
        candidate.text.toList = List.replicate n c →
        (n < counterLimit → .highEntropy ∉ config.evaluate candidate) ∧
        (.highEntropy ∈ config.evaluate candidate ↔
          Suppression.check config candidate = none ∧ config.minimumLength ≤ n ∧
            counterLimit ≤ n ∧ 0 < n % counterLimit ∧ n % counterLimit < counterLimit - 1 ∧
            (config.thresholds.of (.classify (List.replicate n c))).toReal ≤
              (n % counterLimit : ℕ) / (counterLimit - 1 : ℕ) *
                Real.logb 2 ((counterLimit - 1 : ℕ) / (n % counterLimit : ℕ))) := by
  refine ⟨fun text ↦ ?_, fun c n candidate htext ↦ ⟨fun hlt hfound ↦ ?_, ?_⟩⟩
  · have hrecords := Tally.records_ofText text
    have hlimit : 0 < counterLimit := by decide
    refine ⟨hrecords.total, hrecords.counter, Tally.neverGoesRound_iff, ?_, ?_⟩
    · simp only [hrecords.counter, Nat.mod_eq_iff_lt hlimit.ne']
    · rw [hrecords.total]
      omega
  · have hreported := (Configuration.highEntropy_mem_evaluate_replicate_iff h htext).mp hfound
    exact Nat.not_le.mpr hlt hreported.2.2.1
  · exact Configuration.highEntropy_mem_evaluate_replicate_iff h htext

/-- Without options no text of forty times the same character is reported. -/
theorem counting_exact_below_limit_builtin :
    ∃ config, Configuration.builtin = .ok config ∧
      ∀ candidate : Candidate, candidate.text.toList = List.replicate 40 'x' →
        .highEntropy ∉ config.evaluate candidate := by
  obtain ⟨-, hrepeated⟩ := counting_exact_below_limit Configuration.builtin_eq
  exact ⟨_, Configuration.builtin_eq, fun candidate htext ↦
    (hrepeated 'x' 40 candidate htext).1 (by decide)⟩

/-- Options under which any entropy at all is high. -/
def Options.noThreshold : Options where
  thresholds := { hex := some (.finite false 0), base64 := some (.finite false 0),
                  generic := some (.finite false 0) }
  minimumLength := some 0

theorem ThresholdOverrides.of?_noThreshold (alphabet : Alphabet) :
    Options.noThreshold.thresholds.of? alphabet = some (.finite false 0) := by
  cases alphabet <;> rfl

theorem Options.isValid_noThreshold : noThreshold.IsValid where
  thresholds alphabet value hvalue := by
    rw [ThresholdOverrides.of?_noThreshold, Option.some_inj] at hvalue
    subst hvalue
    decide
  ignoreContent input hinput := absurd hinput List.not_mem_nil
  ignoreIdentifiers input hinput := absurd hinput List.not_mem_nil
  additional e he := absurd he List.not_mem_nil

/-- **Beyond the limit a repeated character is reported.** The counter of the character has gone
round once and says one, the total says more than four thousand million, and this is measured as
entropy. -/
theorem repeated_character_reported :
    ∃ config, Options.noThreshold.resolve = .ok config ∧
      ((Tally.ofText (List.replicate (counterLimit + 1) 'a')).counter 'a').toNat = 1 ∧
      (List.replicate (counterLimit + 1) 'a').count 'a' = counterLimit + 1 ∧
      .highEntropy ∈
        config.evaluate (.ofText (String.ofList (List.replicate (counterLimit + 1) 'a'))) := by
  obtain ⟨config, hconfig⟩ := Options.exists_resolve_iff.mpr Options.isValid_noThreshold
  have hdescribes := Options.describes hconfig
  have hcount : (List.replicate (counterLimit + 1) 'a').count 'a' = counterLimit + 1 :=
    List.count_replicate_self
  have hrest : (counterLimit + 1) % counterLimit = 1 := by
    rw [Nat.add_mod_left]
    exact Nat.mod_eq_of_lt (by decide)
  refine ⟨config, hconfig, ?_, hcount, ?_⟩
  · rw [(Tally.records_ofText _).counter, hcount, hrest]
  · have hzero (alphabet : Alphabet) : (config.thresholds.of alphabet).toReal = 0 := by
      rw [hdescribes.threshold, ThresholdOverrides.of?_noThreshold, Option.getD_some,
        Binary64.toReal_finite_false, Nat.cast_zero, zero_div]
    have hmatchers : config.ignoreContent.matchers = [] :=
      List.forall₂_nil_left_iff.mp hdescribes.ignoreContent
    rw [Configuration.highEntropy_mem_evaluate_replicate_iff hconfig (String.toList_ofList),
      hdescribes.minimumLength, hzero, hrest]
    refine ⟨?_, Nat.zero_le _, Nat.le_succ _, one_pos, by decide, ?_⟩
    · exact Suppression.check_ofText hmatchers _
    · refine mul_nonneg (div_nonneg (Nat.cast_nonneg _) (Nat.cast_nonneg _)) ?_
      refine Real.logb_nonneg one_lt_two ?_
      rw [Nat.cast_one, div_one]
      exact_mod_cast (by decide : 1 ≤ counterLimit - 1)

end SecretScan
