import SecretScan.Proofs.Entropy
import SecretScan.Proofs.Prefilter
import SecretScan.Verdict

/-!
# Verdicts

A verdict has two parts that know nothing of each other, and each is one question. Entropy is high
if the text is long enough and its entropy, a real number, is positive and at least the threshold of
its alphabet (`Configuration.isHighEntropy_iff`). A pattern is reported if it is the first whose
expression matches (`Registry.next_cursor_of_transparent`). A skipped literal has neither.

```
evaluateInto c findings = findings ++ evaluate c
evaluate c              = [] if c is skipped, and the two parts one behind the other if not
```
-/

namespace SecretScan

/-- Measured entropy exceeds thresholds as the real numbers say. -/
theorem Score.exceeds_iff {thresholds : Thresholds} {text : String}
    (hfinite : ∀ alphabet, (thresholds.of alphabet).isFinite = true) :
    (Score.mk (.measured (.ofText text.toList)) (.classify text.toList)).exceeds thresholds = true ↔
      0 < textBits text ∧ (thresholds.of (.classify text.toList)).toReal ≤ textBits text := by
  have hsound := Histogram.sound_ofText text.toList
  rw [exceeds, Bool.and_eq_true]
  show (Entropy.ofHistogram _).isPositive = true ∧ (Entropy.ofHistogram _).reaches _ = true ↔ _
  rw [Entropy.isPositive_iff hsound]
  -- Without any characters the entropy is not positive, and the threshold does not matter.
  refine and_congr_right fun hpos ↦ ?_
  exact Entropy.reaches_iff hsound (Entropy.total_pos_of_bits_pos hsound hpos) (hfinite _)

namespace Configuration

variable {config : Configuration}

/-- **High entropy.** -/
theorem isHighEntropy_iff (hfinite : ∀ alphabet, (config.thresholds.of alphabet).isFinite = true)
    {text : String} :
    config.isHighEntropy text = true ↔ config.minimumLength ≤ text.length ∧ 0 < textBits text ∧
      (config.thresholds.of (.classify text.toList)).toReal ≤ textBits text := by
  rw [isHighEntropy, Score.ofText, ← String.length_toList]
  by_cases hlen : text.toList.length < config.minimumLength
  · rw [if_pos hlen]
    exact iff_of_false (by simp) fun h ↦ Nat.not_lt.mpr h.1 hlen
  · rw [if_neg hlen, Option.any_some, Score.exceeds_iff hfinite, iff_and_self]
    exact fun _ ↦ Nat.not_lt.mp hlen

/-! ### Two parts -/

/-- What the entropy of a text contributes to a verdict. -/
def entropyPart (config : Configuration) (text : String) : List Finding :=
  if config.isHighEntropy text then [.highEntropy] else []

/-- What the patterns contribute to a verdict. -/
def patternPart (config : Configuration) (text : String) : List Finding :=
  ((config.registry.cursor text).next.1.map fun p ↦ Finding.patternMatch p.label).toList

/-- **Into a buffer.** Findings are appended, and do not depend on what is there. -/
theorem evaluateInto_eq (config : Configuration) (c : Candidate) (findings : List Finding) :
    config.evaluateInto c findings = findings ++
      if (Suppression.check config c).isSome then []
      else config.entropyPart c.text ++ config.patternPart c.text := by
  rw [evaluateInto, entropyPart, patternPart]
  rcases Suppression.check config c with - | reason
  · cases config.isHighEntropy c.text <;>
      rcases (config.registry.cursor c.text).next.1 with - | p <;> simp
  · simp

theorem evaluate_eq (config : Configuration) (c : Candidate) :
    config.evaluate c =
      if (Suppression.check config c).isSome then []
      else config.entropyPart c.text ++ config.patternPart c.text := by
  rw [evaluate, evaluateInto_eq, List.nil_append]

theorem evaluateInto_eq_append (config : Configuration) (c : Candidate) (findings : List Finding) :
    config.evaluateInto c findings = findings ++ config.evaluate c := by
  rw [evaluateInto_eq, evaluate_eq]

/-- Without options nothing is skipped, whatever patterns there are. -/
theorem check_ofRegistry (r : Registry) (c : Candidate) :
    Suppression.check (.ofRegistry r) c = none := by
  obtain ⟨text, name, isModule⟩ := c
  cases name <;> cases isModule <;> rfl

theorem highEntropy_mem_evaluate_iff {c : Candidate} :
    .highEntropy ∈ config.evaluate c ↔
      Suppression.check config c = none ∧ config.isHighEntropy c.text = true := by
  rw [evaluate_eq, entropyPart, patternPart]
  rcases Suppression.check config c with - | reason
  · cases config.isHighEntropy c.text <;> simp
  · simp

/-- In a session thresholds are numbers, and high entropy is what they say. -/
theorem highEntropy_mem_evaluate_iff_of_resolve {o : Options} (h : o.resolve = .ok config)
    {c : Candidate} :
    .highEntropy ∈ config.evaluate c ↔
      Suppression.check config c = none ∧ config.minimumLength ≤ c.text.length ∧
        0 < textBits c.text ∧
        (config.thresholds.of (.classify c.text.toList)).toReal ≤ textBits c.text := by
  have hfinite := fun alphabet ↦
    Binary64.isFinite_of_isNonneg (Options.isNonneg_threshold h alphabet)
  rw [highEntropy_mem_evaluate_iff, isHighEntropy_iff hfinite]

/-- The pattern reported of a literal that is not skipped is the first match. -/
theorem patternMatch_mem_evaluate_iff {c : Candidate} {label : String} :
    .patternMatch label ∈ config.evaluate c ↔
      Suppression.check config c = none ∧ config.registry.firstMatch c.text = some label := by
  rw [evaluate_eq, entropyPart, patternPart, Registry.firstMatch]
  rcases Suppression.check config c with - | reason
  · cases config.isHighEntropy c.text <;> simp
  · simp

end Configuration

end SecretScan
