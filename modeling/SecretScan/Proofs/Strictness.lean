import SecretScan.Proofs.Suppression

/-!
# Stricter settings

Thresholds and the least length of a text decide about high entropy and about nothing else, and all
comparisons point the same way:

```
minimumLength ≤ text.length    and    0 < bits    and    threshold of the text's alphabet ≤ bits
```

So where these settings are raised, a literal may lose this finding and keeps all others
(`Configuration.isHighEntropy_of_le`), and a threshold is of no consequence for texts of other
alphabets. All this rests on thresholds being finite numbers, which they are in every session: what
is no number is reached by nothing, so there would be no order among thresholds to speak of.
-/

namespace SecretScan

/-! ### Scores -/

/-- What exceeds some thresholds exceeds lesser ones, whatever number of bits has been computed. -/
theorem Score.exceeds_of_toReal_le {thresholds thresholds' : Thresholds} {alphabet : Alphabet}
    {bits : Binary64} (hfinite : (thresholds.of alphabet).isFinite = true)
    (hfinite' : (thresholds'.of alphabet).isFinite = true)
    (hle : (thresholds.of alphabet).toReal ≤ (thresholds'.of alphabet).toReal)
    (h : (Score.mk (.stated bits) alphabet).exceeds thresholds' = true) :
    (Score.mk (.stated bits) alphabet).exceeds thresholds = true := by
  rw [exceeds, Bool.and_eq_true] at h ⊢
  exact ⟨h.1, Binary64.le_of_toReal_le hfinite hfinite' hle h.2⟩

namespace Configuration

variable {config config' : Configuration} {c : Candidate} {text : String}

/-- **High entropy is lost, not gained,** where the least length is raised and the threshold of the
text's alphabet is. The other thresholds do not matter. -/
theorem isHighEntropy_of_le (hfinite : ∀ alphabet, (config.thresholds.of alphabet).isFinite = true)
    (hfinite' : ∀ alphabet, (config'.thresholds.of alphabet).isFinite = true)
    (hlength : config.minimumLength ≤ config'.minimumLength)
    (hthreshold : (config.thresholds.of (.classify text.toList)).toReal ≤
      (config'.thresholds.of (.classify text.toList)).toReal)
    (h : config'.isHighEntropy text = true) : config.isHighEntropy text = true := by
  obtain ⟨hlong, hpos, hreaches⟩ := (isHighEntropy_iff hfinite').mp h
  exact (isHighEntropy_iff hfinite).mpr
    ⟨hlength.trans hlong, hpos, hthreshold.trans hreaches⟩

/-! ### Verdicts -/

/-- Configurations that differ in thresholds and in the least length at most. -/
structure DiffersInEntropy (config' config : Configuration) : Prop extends
    SkipsLike config' config where
  /-- The patterns are the same. -/
  registry : config'.registry = config.registry

theorem DiffersInEntropy.patternPart_eq (h : config'.DiffersInEntropy config) (text : String) :
    config'.patternPart text = config.patternPart text := by
  rw [patternPart, patternPart, h.registry]

theorem DiffersInEntropy.patternMatch_mem_evaluate_iff (h : config'.DiffersInEntropy config)
    {label : String} :
    .patternMatch label ∈ config'.evaluate c ↔ .patternMatch label ∈ config.evaluate c := by
  rw [Configuration.patternMatch_mem_evaluate_iff, Configuration.patternMatch_mem_evaluate_iff,
    h.check_eq, h.registry]

theorem DiffersInEntropy.evaluate_eq (h : config'.DiffersInEntropy config)
    (hentropy : config'.isHighEntropy c.text = config.isHighEntropy c.text) :
    config'.evaluate c = config.evaluate c := by
  rw [Configuration.evaluate_eq, Configuration.evaluate_eq, h.check_eq, h.patternPart_eq,
    entropyPart, entropyPart, hentropy]

/-- **The other findings stay**, in their order. -/
theorem DiffersInEntropy.evaluate_eq_or_eq_erase (h : config'.DiffersInEntropy config)
    (hentropy : config'.isHighEntropy c.text = true → config.isHighEntropy c.text = true) :
    config'.evaluate c = config.evaluate c ∨
      config'.evaluate c = (config.evaluate c).erase .highEntropy := by
  by_cases hsame : config'.isHighEntropy c.text = config.isHighEntropy c.text
  · exact .inl (h.evaluate_eq hsame)
  · -- Only the second has high entropy.
    have hlost : config'.isHighEntropy c.text = false := by
      rw [← Bool.not_eq_true]
      exact fun hhigh ↦ hsame (hhigh.trans (hentropy hhigh).symm)
    have hhigh : config.isHighEntropy c.text = true := by
      rw [← Bool.not_eq_false]
      exact fun hlow ↦ hsame (hlost.trans hlow.symm)
    refine .inr ?_
    rw [Configuration.evaluate_eq, Configuration.evaluate_eq, h.check_eq, h.patternPart_eq,
      entropyPart, entropyPart, hlost, hhigh]
    split
    · rfl
    · exact (List.erase_cons_head _ _).symm

end Configuration

/-- **Stricter settings only remove high entropy.** Two sessions have the same options but for the
thresholds and the least length. If these are not less in the first session, then for every literal:
it is skipped in both or in neither, for the same reason; the same pattern is reported; and high
entropy in the first session is high entropy in the second, so that the findings of the first are
those of the second, high entropy perhaps left out. No number of bits exceeds the thresholds of the
first session only, however it has been rounded. If the sessions differ in the threshold of one
alphabet only, then they find the same in every literal whose text is of another. -/
theorem Options.stricter_only_removes_highEntropy {o o' : Options}
    {config config' : Configuration} (ho : o.resolve = .ok config)
    (ho' : o'.resolve = .ok config') (h : config'.DiffersInEntropy config) :
    (config.minimumLength ≤ config'.minimumLength →
        (∀ alphabet, (config.thresholds.of alphabet).toReal ≤
          (config'.thresholds.of alphabet).toReal) →
        (∀ c : Candidate,
          Suppression.check config' c = Suppression.check config c ∧
          (∀ label, .patternMatch label ∈ config'.evaluate c ↔
            .patternMatch label ∈ config.evaluate c) ∧
          (.highEntropy ∈ config'.evaluate c → .highEntropy ∈ config.evaluate c) ∧
          (config'.evaluate c = config.evaluate c ∨
            config'.evaluate c = (config.evaluate c).erase .highEntropy)) ∧
        ∀ bits alphabet, (Score.mk (.stated bits) alphabet).exceeds config'.thresholds = true →
          (Score.mk (.stated bits) alphabet).exceeds config.thresholds = true) ∧
      ∀ alphabet, config'.minimumLength = config.minimumLength →
        (∀ other, other ≠ alphabet → (config'.thresholds.of other).toReal =
          (config.thresholds.of other).toReal) →
        ∀ c : Candidate, .classify c.text.toList ≠ alphabet →
          Suppression.check config' c = Suppression.check config c ∧
            config'.evaluate c = config.evaluate c := by
  have hfinite := fun alphabet ↦ Binary64.isFinite_of_isNonneg (isNonneg_threshold ho alphabet)
  have hfinite' := fun alphabet ↦ Binary64.isFinite_of_isNonneg (isNonneg_threshold ho' alphabet)
  refine ⟨fun hlength hthresholds ↦ ⟨fun c ↦ ?_, fun bits alphabet ↦ ?_⟩, ?_⟩
  · have hentropy : config'.isHighEntropy c.text = true → config.isHighEntropy c.text = true :=
      Configuration.isHighEntropy_of_le hfinite hfinite' hlength (hthresholds _)
    refine ⟨h.check_eq c, fun label ↦ h.patternMatch_mem_evaluate_iff, fun hfound ↦ ?_,
      h.evaluate_eq_or_eq_erase hentropy⟩
    rw [Configuration.highEntropy_mem_evaluate_iff] at hfound ⊢
    exact ⟨h.check_eq c ▸ hfound.1, hentropy hfound.2⟩
  · exact Score.exceeds_of_toReal_le (hfinite _) (hfinite' _) (hthresholds _)
  · intro alphabet hlength hthresholds c hother
    have hthreshold := hthresholds _ hother
    refine ⟨h.check_eq c, h.evaluate_eq (Bool.eq_iff_iff.mpr ⟨?_, ?_⟩)⟩
    · exact Configuration.isHighEntropy_of_le hfinite hfinite' hlength.ge hthreshold.ge
    · exact Configuration.isHighEntropy_of_le hfinite' hfinite hlength.le hthreshold.le

/-- Without options a text of hexadecimal digits has high entropy. With a threshold of four bits it
has not, since not all of the digits come equally often, and loses this finding. -/
theorem Options.stricter_only_removes_highEntropy_hex :
    ∃ (four : Binary64) (config config' : Configuration), Configuration.builtin = .ok config ∧
      resolve { thresholds := { hex := some four } } = .ok config' ∧
      .highEntropy ∈ config.evaluate (.ofText "0123456789abcdef0123") ∧
      .highEntropy ∉ config'.evaluate (.ofText "0123456789abcdef0123") ∧
      config'.evaluate (.ofText "0123456789abcdef0123") =
        (config.evaluate (.ofText "0123456789abcdef0123")).erase .highEntropy := by
  have hhigh : (Configuration.ofRegistry (.ofPatterns Builtin.patterns)).isHighEntropy
      "0123456789abcdef0123" = true := by
    decide +kernel
  obtain ⟨four, hthresholds, hmore, hlow⟩ : ∃ four : Binary64,
      ({ hex := some four } : ThresholdOverrides).resolve =
        .ok { Thresholds.default with hex := four } ∧
      (Thresholds.default.of .hex).le four = true ∧
      Configuration.isHighEntropy { Configuration.ofRegistry (.ofPatterns Builtin.patterns) with
        thresholds := { Thresholds.default with hex := four } } "0123456789abcdef0123" = false :=
    ⟨.ofNat 4, by decide +kernel⟩
  have ho : resolve {} = .ok (.ofRegistry (.ofPatterns Builtin.patterns)) :=
    Configuration.builtin_eq
  have ho' := resolve_of_stages (o := { thresholds := { hex := some four } }) hthresholds
    rfl rfl Registry.withAdditional_nil
  show ∃ (four : Binary64) (config config' : Configuration), resolve {} = .ok config ∧ _
  -- What the default thresholds are does not matter any more.
  unfold Configuration.ofRegistry at ho hhigh hlow
  generalize Thresholds.default = thresholds at ho ho' hhigh hlow hmore
  have hle (alphabet : Alphabet) : (thresholds.of alphabet).toReal ≤
      (({ thresholds with hex := four } : Thresholds).of alphabet).toReal := by
    cases alphabet with
    | hex =>
      have hthree := Binary64.isFinite_of_isNonneg (isNonneg_threshold ho .hex)
      have hfour := Binary64.isFinite_of_isNonneg (isNonneg_threshold ho' .hex)
      exact (Binary64.le_iff_toReal hthree hfour).mp hmore
    | base64 => exact le_rfl
    | generic => exact le_rfl
  obtain ⟨hstricter, -⟩ := stricter_only_removes_highEntropy ho ho' ⟨⟨rfl, rfl, rfl⟩, rfl⟩
  obtain ⟨hverdict, -⟩ := hstricter le_rfl hle
  obtain ⟨-, -, -, hfindings⟩ := hverdict (.ofText "0123456789abcdef0123")
  have hfound := Configuration.highEntropy_mem_evaluate_iff.mpr
    ⟨Suppression.check_ofText rfl "0123456789abcdef0123", hhigh⟩
  have hlost := mt (Configuration.highEntropy_mem_evaluate_iff
    (c := .ofText "0123456789abcdef0123")).mp (not_and_of_not_right _ (Bool.eq_false_iff.mp hlow))
  refine ⟨four, _, _, ho, ho', hfound, hlost, hfindings.resolve_left fun hsame ↦ hlost ?_⟩
  rwa [← hsame] at hfound

end SecretScan
