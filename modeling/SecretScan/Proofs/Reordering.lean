import Mathlib.Data.List.Perm.Basic
import SecretScan.Proofs.Extension
import SecretScan.Proofs.Number.Rounding
import SecretScan.Proofs.Suppression

/-!
# Added patterns in another order

Two sessions are compared here whose options differ in the order of the added patterns, and perhaps
in thresholds (`Options.Reorders`). Everything but the choice among several added patterns is the
same in both: what is skipped, what has high entropy as far as thresholds are the same numbers, and
whether any pattern matches. The choice is the same, too, if a pattern of the table matches, since
the table comes first, and if not more than one added pattern matches, since then there is none.
-/

namespace SecretScan

/-- Options that differ from others only in the order of the added patterns, and in thresholds. -/
structure Options.Reorders (o' o : Options) : Prop where
  /-- The length is the same. -/
  minimumLength : o'.minimumLength = o.minimumLength
  /-- The matchers on texts are the same. -/
  ignoreContent : o'.ignoreContent = o.ignoreContent
  /-- The matchers on names are the same. -/
  ignoreIdentifiers : o'.ignoreIdentifiers = o.ignoreIdentifiers
  /-- Modules are skipped in both or in neither. -/
  ignoreModules : o'.ignoreModules = o.ignoreModules
  /-- The added patterns are the same, in some order. -/
  additional : o'.additional.entries.Perm o.additional.entries

/-- Both thresholds of an alphabet are given and the same number, or neither is given. -/
def ThresholdOverrides.SameAt (t' t : ThresholdOverrides) (alphabet : Alphabet) : Prop :=
  Option.Rel Binary64.Same (t'.of? alphabet) (t.of? alphabet)

theorem ThresholdOverrides.SameAt.symm {t t' : ThresholdOverrides} {alphabet : Alphabet}
    (h : t'.SameAt t alphabet) : t.SameAt t' alphabet := by
  rw [SameAt] at h ⊢
  generalize t'.of? alphabet = x? at h
  generalize t.of? alphabet = y? at h
  cases h with
  | some h => exact .some h.symm
  | none => exact .none

/-- Whether a matcher that can be used matches a text. -/
def MatcherInput.Matches (input : MatcherInput) (text : String) : Prop :=
  ∃ regex, input.compile = .ok regex ∧ regex.isMatch text = true

/-! ### Thresholds -/

/-- Both zeros are reached by everything. -/
theorem Entropy.reaches_eq_of_same {e : Entropy} {x y : Binary64} (h : Binary64.Same x y) :
    e.reaches x = e.reaches y := by
  have hzero (negative : Bool) : e.reaches (.finite negative 0) = true := by
    cases negative with
    | false => simp [reaches]
    | true => rfl
  rcases h.eq_or_zero with rfl | ⟨negative, negative', rfl, rfl⟩
  · rfl
  · rw [hzero, hzero]

namespace Options

variable {o o' : Options} {config config' : Configuration}

/-- Thresholds that are the same numbers stay so when the others are replaced by defaults. -/
theorem same_threshold {alphabet : Alphabet} (h : o'.thresholds.SameAt o.thresholds alphabet)
    (ho : o.resolve = .ok config) (ho' : o'.resolve = .ok config') :
    Binary64.Same (config'.thresholds.of alphabet) (config.thresholds.of alphabet) := by
  rw [(describes ho).threshold, (describes ho').threshold]
  rw [ThresholdOverrides.SameAt] at h
  generalize o'.thresholds.of? alphabet = x? at h
  generalize o.thresholds.of? alphabet = y? at h
  cases h with
  | some h => exact h
  | none =>
    have hdefault := Thresholds.isNonneg_default alphabet
    exact Binary64.same_of_isFinite (Binary64.isFinite_of_isNonneg hdefault)

theorem isValid_of_reorders (h : o'.Reorders o)
    (hthresholds : ∀ alphabet, o'.thresholds.SameAt o.thresholds alphabet) (ho : o.IsValid) :
    o'.IsValid where
  thresholds alphabet value hvalue := by
    have hsame := hthresholds alphabet
    rw [ThresholdOverrides.SameAt, hvalue] at hsame
    generalize hgiven : o.thresholds.of? alphabet = x? at hsame
    cases hsame with
    | some hsame => exact hsame.isNonneg_iff.mpr (ho.thresholds alphabet _ hgiven)
  ignoreContent := h.ignoreContent ▸ ho.ignoreContent
  ignoreIdentifiers := h.ignoreIdentifiers ▸ ho.ignoreIdentifiers
  additional e he := ho.additional e (h.additional.mem_iff.mp he)

theorem Reorders.symm (h : o'.Reorders o) : o.Reorders o' :=
  ⟨h.minimumLength.symm, h.ignoreContent.symm, h.ignoreIdentifiers.symm, h.ignoreModules.symm,
    h.additional.symm⟩

/-- **Both sessions can be resolved**, or neither. -/
theorem exists_resolve_iff_of_reorders (h : o'.Reorders o)
    (hthresholds : ∀ alphabet, o'.thresholds.SameAt o.thresholds alphabet) :
    (∃ config', o'.resolve = .ok config') ↔ ∃ config, o.resolve = .ok config := by
  rw [exists_resolve_iff, exists_resolve_iff]
  exact ⟨isValid_of_reorders h.symm fun alphabet ↦ (hthresholds alphabet).symm,
    isValid_of_reorders h hthresholds⟩

/-! ### What is skipped, and what has high entropy -/

theorem compile_unique : Relator.RightUnique fun (input : MatcherInput) (regex : Regex) ↦
    input.compile = .ok regex := fun _ _ _ h h' ↦ Except.ok.inj (h.symm.trans h')

/-- The same matchers make the same set. -/
theorem matcherSet_unique {inputs : List MatcherInput} {s s' : MatcherSet}
    (h : List.Forall₂ (fun input regex ↦ input.compile = .ok regex) inputs s.matchers)
    (h' : List.Forall₂ (fun input regex ↦ input.compile = .ok regex) inputs s'.matchers) :
    s' = s :=
  congrArg MatcherSet.mk (List.right_unique_forall₂' compile_unique h' h)

/-- **What is skipped** does not depend on patterns or thresholds. -/
theorem check_of_reorders (h : o'.Reorders o) (ho : o.resolve = .ok config)
    (ho' : o'.resolve = .ok config') (c : Candidate) :
    Suppression.check config' c = Suppression.check config c := by
  have hd := describes ho
  have hd' := describes ho'
  have hskips : config'.SkipsLike config := {
    ignoreContent := matcherSet_unique hd.ignoreContent (h.ignoreContent ▸ hd'.ignoreContent)
    ignoreIdentifiers :=
      matcherSet_unique hd.ignoreIdentifiers (h.ignoreIdentifiers ▸ hd'.ignoreIdentifiers)
    ignoreModules := by rw [hd'.ignoreModules, h.ignoreModules, hd.ignoreModules] }
  exact hskips.check_eq c

/-- **What has high entropy** depends on the length and on one threshold. -/
theorem isHighEntropy_of_reorders (h : o'.Reorders o) (ho : o.resolve = .ok config)
    (ho' : o'.resolve = .ok config') {text : String}
    (hthreshold : o'.thresholds.SameAt o.thresholds (.classify text.toList)) :
    config'.isHighEntropy text = config.isHighEntropy text := by
  have hlength : config'.minimumLength = config.minimumLength := by
    rw [(describes ho').minimumLength, h.minimumLength, (describes ho).minimumLength]
  have hreaches (e : Entropy) : e.reaches (config'.thresholds.of (.classify text.toList)) =
      e.reaches (config.thresholds.of (.classify text.toList)) :=
    Entropy.reaches_eq_of_same (same_threshold hthreshold ho ho')
  rw [Configuration.isHighEntropy, Configuration.isHighEntropy, hlength, Score.ofText]
  split
  · rfl
  · simp only [Option.any_some, Score.exceeds, Bits.reaches, hreaches]

/-! ### Which patterns match -/

/-- **The registries** have the table in common, and behind it the same patterns in some order. -/
theorem exists_added_of_reorders (h : o'.Reorders o) (ho : o.resolve = .ok config)
    (ho' : o'.resolve = .ok config') :
    ∃ added added', config.registry = .ofPatterns (Builtin.patterns ++ added) ∧
      config'.registry = .ofPatterns (Builtin.patterns ++ added') ∧ added'.Perm added ∧
      List.Forall₂ (fun e p ↦ Pattern.custom e.1 e.2 = .ok p) o.additional.entries added := by
  obtain ⟨added, hregistry, hadded⟩ := (describes ho).registry
  obtain ⟨added', hregistry', hadded'⟩ := (describes ho').registry
  -- What the other inputs make, in the order of these, is what these make.
  obtain ⟨added'', hadded'', hperm⟩ := List.perm_comp_forall₂ h.additional.symm hadded'
  have hunique : Relator.RightUnique fun (e : String × MatcherInput) p ↦
      Pattern.custom e.1 e.2 = .ok p := fun _ _ _ h h' ↦ Except.ok.inj (h.symm.trans h')
  obtain rfl := List.right_unique_forall₂' hunique hadded'' hadded
  exact ⟨added'', added', hregistry, hregistry', hperm.symm, hadded⟩

/-- Where not more than one item is looked for, the order does not matter. -/
theorem find?_eq_of_perm {α : Type} {f : α → Bool} {l l' : List α} (hperm : l'.Perm l)
    (hunique : ∀ a ∈ l, ∀ b ∈ l, f a = true → f b = true → a = b) : l'.find? f = l.find? f := by
  rcases hfound : l.find? f with - | a
  · rw [List.find?_eq_none] at hfound ⊢
    exact fun b hb ↦ hfound b (hperm.mem_iff.mp hb)
  · have ha : a ∈ l := List.mem_of_find?_eq_some hfound
    have hfa : f a = true := List.find?_some hfound
    obtain ⟨b, hb⟩ : ∃ b, l'.find? f = some b := by
      rw [← Option.isSome_iff_exists, List.find?_isSome]
      exact ⟨a, hperm.mem_iff.mpr ha, hfa⟩
    have hmem : b ∈ l := hperm.mem_iff.mp (List.mem_of_find?_eq_some hb)
    rw [hb, hunique b hmem a ha (List.find?_some hb) hfa]

/-- **Whether a pattern is reported** does not depend on their order. -/
theorem exists_patternMatch_iff_of_reorders (h : o'.Reorders o) (ho : o.resolve = .ok config)
    (ho' : o'.resolve = .ok config') (c : Candidate) :
    (∃ label, .patternMatch label ∈ config'.evaluate c) ↔
      ∃ label, .patternMatch label ∈ config.evaluate c := by
  obtain ⟨added, added', hregistry, hregistry', hperm, -⟩ := exists_added_of_reorders h ho ho'
  have hsome {o : Options} {config : Configuration} (ho : o.resolve = .ok config) :
      (∃ label, .patternMatch label ∈ config.evaluate c) ↔ Suppression.check config c = none ∧
        ∃ p ∈ config.registry.patterns, p.regex.isMatch c.text = true := by
    simp only [patternMatch_mem_evaluate_iff ho, exists_and_left]
    rw [← List.find?_isSome, ← Option.isSome_map, Option.isSome_iff_exists]
  have hpatterns : (Builtin.patterns ++ added').Perm (Builtin.patterns ++ added) :=
    hperm.append_left _
  rw [hsome ho, hsome ho', check_of_reorders h ho ho', hregistry, hregistry']
  refine and_congr_right fun _ ↦ exists_congr fun p ↦ and_congr_left fun _ ↦ ?_
  exact hpatterns.mem_iff

/-- **Which pattern is reported** does not depend on their order if one of the table matches, or not
more than one of the others does. -/
theorem patternMatch_iff_of_reorders (h : o'.Reorders o) (ho : o.resolve = .ok config)
    (ho' : o'.resolve = .ok config') {c : Candidate}
    (hone : (∃ p ∈ Builtin.patterns, p.regex.isMatch c.text = true) ∨
      ∀ e ∈ o.additional.entries, ∀ e' ∈ o.additional.entries, e.2.Matches c.text →
        e'.2.Matches c.text → e = e') (label : String) :
    .patternMatch label ∈ config'.evaluate c ↔ .patternMatch label ∈ config.evaluate c := by
  rw [patternMatch_mem_evaluate_iff ho, patternMatch_mem_evaluate_iff ho',
    check_of_reorders h ho ho']
  suffices hfind : (config'.registry.patterns.find? fun p ↦ p.regex.isMatch c.text) =
      config.registry.patterns.find? fun p ↦ p.regex.isMatch c.text by
    rw [hfind]
  -- A match in the table comes before all others, and without one the others are alone.
  rcases htable : Builtin.patterns.find? fun p ↦ p.regex.isMatch c.text with - | p
  · obtain ⟨added, added', hregistry, hregistry', hperm, hadded⟩ :=
      exists_added_of_reorders h ho ho'
    have hunique := hone.resolve_left fun ⟨p, hp, hmatch⟩ ↦
      List.find?_eq_none.mp htable p hp hmatch
    have hinput {p : Pattern} (hp : p ∈ added) (hmatch : p.regex.isMatch c.text = true) :
        ∃ e ∈ o.additional.entries, Pattern.custom e.1 e.2 = .ok p ∧ e.2.Matches c.text := by
      obtain ⟨e, he, hcustom⟩ := exists_left_of_mem hadded hp
      exact ⟨e, he, hcustom, p.regex, Registry.compile_of_custom hcustom, hmatch⟩
    rw [hregistry, hregistry']
    show (Builtin.patterns ++ added').find? _ = (Builtin.patterns ++ added).find? _
    rw [List.find?_append, List.find?_append, htable, Option.none_or, Option.none_or]
    refine find?_eq_of_perm hperm fun p hp q hq hpmatch hqmatch ↦ ?_
    obtain ⟨e, he, hep, hematch⟩ := hinput hp hpmatch
    obtain ⟨e', he', heq, hematch'⟩ := hinput hq hqmatch
    obtain rfl := hunique e he e' he' hematch hematch'
    exact Except.ok.inj (hep.symm.trans heq)
  · rw [find?_patterns_of_find?_table ho htable, find?_patterns_of_find?_table ho' htable]

end Options

end SecretScan
