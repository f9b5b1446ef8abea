import SecretScan.Proofs.Labels

/-!
# Adding patterns to a session

Two sessions are compared here: one with some added patterns, and one with the same options and
further patterns behind these. Resolving the second is resolving the first and then adding
(`Options.resolve_of_extends`),

```
o'.resolve = o.resolve >>= fun config ↦ config, with more patterns behind those of its registry
```

and everything else is read off this equation: a fault of the first session is the fault of the
second, the settings are the same, and the registry of the second starts with that of the first. The
keyword index is built anew, but it hides nothing in either session, so a literal that had a match
keeps it, and one that had none gets the first of the new patterns that match.

The table itself is where every session starts, and lists its generic patterns last.
-/

namespace SecretScan

/-- Options that differ from others only in further patterns, behind those already added. -/
structure Options.Extends (o' o : Options) (more : List (String × MatcherInput)) : Prop where
  /-- The thresholds are the same. -/
  thresholds : o'.thresholds = o.thresholds
  /-- The length is the same. -/
  minimumLength : o'.minimumLength = o.minimumLength
  /-- The matchers on texts are the same. -/
  ignoreContent : o'.ignoreContent = o.ignoreContent
  /-- The matchers on names are the same. -/
  ignoreIdentifiers : o'.ignoreIdentifiers = o.ignoreIdentifiers
  /-- Modules are skipped in both or in neither. -/
  ignoreModules : o'.ignoreModules = o.ignoreModules
  /-- The added patterns are the same, and then the further ones. -/
  additional : o'.additional.entries = o.additional.entries ++ more

/-! ### Resolving in two steps -/

/-- The same configuration with another registry. -/
def Configuration.withPatterns (config : Configuration) (patterns : List Pattern) :
    Configuration :=
  { config with registry := .ofPatterns patterns }

theorem Registry.withAdditional_append (entries more : List (String × MatcherInput)) :
    withAdditional (entries ++ more) =
      withAdditional entries >>= fun r ↦ ofPatterns <$> addCustom r.patterns more := by
  rw [withAdditional_eq, withAdditional_eq, addCustom_append]
  cases addCustom Builtin.patterns entries <;> rfl

/-- **Resolving in two steps**: the options without the further patterns, and then these. -/
theorem Options.resolve_of_extends {o o' : Options} {more : List (String × MatcherInput)}
    (h : o'.Extends o more) :
    o'.resolve = o.resolve >>= fun config ↦
      config.withPatterns <$> Registry.addCustom config.registry.patterns more := by
  rw [resolve, resolve, h.thresholds, h.minimumLength, h.ignoreContent, h.ignoreIdentifiers,
    h.ignoreModules, h.additional, Registry.withAdditional_append]
  simp only [bind_assoc, pure_bind, map_eq_pure_bind]
  rfl

/-- What is skipped, and what has high entropy, does not depend on patterns. -/
theorem Configuration.highEntropy_mem_evaluate_withPatterns {config : Configuration}
    {patterns : List Pattern} {c : Candidate} :
    .highEntropy ∈ (config.withPatterns patterns).evaluate c ↔
      .highEntropy ∈ config.evaluate c := by
  rw [highEntropy_mem_evaluate_iff, highEntropy_mem_evaluate_iff]
  rfl

/-! ### The table comes first, and its generic patterns last -/

theorem Builtin.map_group_patterns :
    patterns.map Pattern.group = definitions.map Definition.group := by
  decide +kernel

/-- Behind a generic pattern of the table all patterns are generic. -/
theorem Builtin.pairwise_generic :
    patterns.Pairwise fun p q ↦ p.group = .generic → q.group = .generic := by
  rw [← List.pairwise_map (f := Pattern.group) (R := fun g g' ↦ g = .generic → g' = .generic),
    map_group_patterns]
  decide

/-- If any pattern that is not generic matches then the first that matches is not generic. -/
theorem Builtin.group_ne_generic_of_find? {text : String} {p q : Pattern}
    (hp : (patterns.find? fun p ↦ p.regex.isMatch text) = some p) (hq : q ∈ patterns)
    (hmatch : q.regex.isMatch text = true) (hgroup : q.group ≠ .generic) : p.group ≠ .generic := by
  obtain ⟨-, before, behind, heq, hbefore⟩ := List.find?_eq_some_iff_append.mp hp
  have hpairwise := pairwise_generic
  rw [heq, List.pairwise_append, List.pairwise_cons] at hpairwise
  rw [heq, List.mem_append, List.mem_cons] at hq
  -- The other pattern does not stand before the first match; behind a generic one it is generic.
  rcases hq with hq | rfl | hq
  · have hno := hbefore q hq
    rw [hmatch] at hno
    cases hno
  · exact hgroup
  · exact fun h ↦ hgroup (hpairwise.2.1.1 q hq h)

/-! ### Two sessions -/

/-- In a session the pattern reported is the first whose expression matches. -/
theorem Options.patternMatch_mem_evaluate_iff {o : Options} {config : Configuration}
    (h : o.resolve = .ok config) {c : Candidate} {label : String} :
    .patternMatch label ∈ config.evaluate c ↔ Suppression.check config c = none ∧
      (config.registry.patterns.find? fun p ↦ p.regex.isMatch c.text).map Pattern.label =
        some label := by
  rw [Configuration.patternMatch_mem_evaluate_iff,
    Registry.firstMatch_of_transparent (transparent_of_resolve h)]

/-- **The second session**: the first one, with patterns behind those it has. -/
theorem Options.exists_added_of_extends {o o' : Options} {more : List (String × MatcherInput)}
    (h : o'.Extends o more) {config config' : Configuration} (ho : o.resolve = .ok config)
    (ho' : o'.resolve = .ok config') :
    ∃ added, List.Forall₂ (fun e p ↦ Pattern.custom e.1 e.2 = .ok p) more added ∧
      config' = config.withPatterns (config.registry.patterns ++ added) := by
  rw [resolve_of_extends h, ho, ok_bind] at ho'
  obtain ⟨all, hall, rfl⟩ := map_eq_ok_iff.mp ho'
  obtain ⟨added, rfl, hadded⟩ := Registry.addCustom_eq_ok hall
  exact ⟨added, hadded, rfl⟩

/-- **The table counts first**, whatever patterns have been added. -/
theorem Options.find?_patterns_of_find?_table {o : Options} {config : Configuration}
    (h : o.resolve = .ok config) {text : String} {p : Pattern}
    (hp : (Builtin.patterns.find? fun p ↦ p.regex.isMatch text) = some p) :
    (config.registry.patterns.find? fun p ↦ p.regex.isMatch text) = some p := by
  obtain ⟨added, hregistry, -⟩ := (describes h).registry
  rw [hregistry]
  show (Builtin.patterns ++ added).find? _ = _
  rw [List.find?_append, hp, Option.some_or]

/-- **Patterns are only appended.** Of two sessions one has the options of the other and further
patterns. If the first cannot be resolved then neither can the second, for the same reason. If both
can then the registry of the second is that of the first with the new patterns behind, and for every
literal: it is skipped in both or in neither, for the same reason, and has high entropy in both or
in neither; the pattern reported in the first is reported in the second; and where the first reports
none of a literal that is not skipped, the second reports the first new pattern that matches, if
there is one. So it is always the first matching pattern of the table that is reported, if any
matches, and one that is not generic if any such matches. -/
theorem Options.additional_patterns_only_append {o o' : Options}
    {more : List (String × MatcherInput)} (h : o'.Extends o more) :
    (∀ fault, o.resolve = .error fault → o'.resolve = .error fault) ∧
      ∀ config config', o.resolve = .ok config → o'.resolve = .ok config' →
        ∃ table added, Registry.builtinPatterns = .ok table ∧
          List.Forall₂ (fun e p ↦ Pattern.custom e.1 e.2 = .ok p) more added ∧
          config'.registry = .ofPatterns (config.registry.patterns ++ added) ∧
          ∀ c : Candidate,
            Suppression.check config' c = Suppression.check config c ∧
            (.highEntropy ∈ config'.evaluate c ↔ .highEntropy ∈ config.evaluate c) ∧
            (∀ label, .patternMatch label ∈ config.evaluate c →
              .patternMatch label ∈ config'.evaluate c) ∧
            (Suppression.check config c = none →
              (∀ label, .patternMatch label ∉ config.evaluate c) →
              ∀ label, .patternMatch label ∈ config'.evaluate c ↔
                (added.find? fun p ↦ p.regex.isMatch c.text).map Pattern.label = some label) ∧
            (Suppression.check config' c = none →
              ∀ p, (table.find? fun p ↦ p.regex.isMatch c.text) = some p →
                (∀ label, .patternMatch label ∈ config'.evaluate c ↔ label = p.label) ∧
                ((∃ q ∈ table, q.group ≠ .generic ∧ q.regex.isMatch c.text = true) →
                  p.group ≠ .generic)) := by
  refine ⟨fun fault hfault ↦ by rw [resolve_of_extends h, hfault]; rfl, ?_⟩
  intro config config' ho ho'
  obtain ⟨added, hadded, rfl⟩ := exists_added_of_extends h ho ho'
  refine ⟨Builtin.patterns, added, Registry.builtinPatterns_eq, hadded, rfl, fun c ↦ ?_⟩
  -- The first match of the second session is looked for in the first session's patterns first.
  have hreport : ∀ label, .patternMatch label ∈
      (config.withPatterns (config.registry.patterns ++ added)).evaluate c ↔
        Suppression.check config c = none ∧
          ((config.registry.patterns.find? fun p ↦ p.regex.isMatch c.text).or
            (added.find? fun p ↦ p.regex.isMatch c.text)).map Pattern.label = some label := by
    intro label
    rw [patternMatch_mem_evaluate_iff ho', ← List.find?_append]
    rfl
  refine ⟨rfl, Configuration.highEntropy_mem_evaluate_withPatterns, ?_, ?_, ?_⟩
  · intro label hlabel
    obtain ⟨hcheck, hfound⟩ := (patternMatch_mem_evaluate_iff ho).mp hlabel
    obtain ⟨p, hp, rfl⟩ := Option.map_eq_some_iff.mp hfound
    exact (hreport p.label).mpr ⟨hcheck, by rw [hp, Option.some_or, Option.map_some]⟩
  · intro hcheck hnone label
    rcases hfound : config.registry.patterns.find? fun p ↦ p.regex.isMatch c.text with - | p
    · rw [hreport, hfound, Option.none_or, and_iff_right hcheck]
    · have hlabel : .patternMatch p.label ∈ config.evaluate c :=
        (patternMatch_mem_evaluate_iff ho).mpr ⟨hcheck, by rw [hfound, Option.map_some]⟩
      exact absurd hlabel (hnone p.label)
  · intro (hcheck : Suppression.check config c = none) p hp
    refine ⟨fun label ↦ ?_, ?_⟩
    · rw [hreport, find?_patterns_of_find?_table ho hp, Option.some_or, Option.map_some,
        and_iff_right hcheck, Option.some.injEq, eq_comm]
    · rintro ⟨q, hq, hgroup, hmatch⟩
      exact Builtin.group_ne_generic_of_find? hp hq hmatch hgroup

/-- A session without options, and one with an added pattern that alone matches a text. -/
theorem Options.additional_patterns_only_append_one :
    ∃ config config', Configuration.builtin = .ok config ∧
      resolve { additional := ⟨[("Any SK", .source "SK-")], by decide⟩ } = .ok config' ∧
      (∀ label, .patternMatch label ∉ config.evaluate (.ofText "SK-1")) ∧
      .patternMatch "Any SK" ∈ config'.evaluate (.ofText "SK-1") := by
  have hregex : (MatcherInput.source "SK-").compile =
      .ok ⟨"SK-", Builtin.chain (Builtin.literal "SK-")⟩ := by
    decide +kernel
  have hresolve := resolve_added "Any SK" hregex (by decide)
  have hbuiltin : resolve {} = .ok (.ofRegistry (.ofPatterns Builtin.patterns)) :=
    Configuration.builtin_eq
  have hnone : ∀ label, .patternMatch label ∉
      (Configuration.ofRegistry (.ofPatterns Builtin.patterns)).evaluate (.ofText "SK-1") := by
    have hfind : (Builtin.patterns.find? fun p ↦ p.regex.isMatch "SK-1").isNone = true := by
      decide +kernel
    intro label hlabel
    obtain ⟨-, hfound⟩ := (patternMatch_mem_evaluate_iff hbuiltin).mp hlabel
    change (Builtin.patterns.find? fun p ↦ p.regex.isMatch "SK-1").map _ = _ at hfound
    rw [Option.isNone_iff_eq_none.mp hfind] at hfound
    cases hfound
  refine ⟨_, _, hbuiltin, hresolve, hnone, ?_⟩
  have hextends : Extends { additional := ⟨[("Any SK", .source "SK-")], by decide⟩ } {}
      [("Any SK", .source "SK-")] := ⟨rfl, rfl, rfl, rfl, rfl, rfl⟩
  obtain ⟨-, hsessions⟩ := additional_patterns_only_append hextends
  obtain ⟨table, added, -, hadded, -, hcandidates⟩ := hsessions _ _ hbuiltin hresolve
  obtain ⟨-, -, -, hnew, -⟩ := hcandidates (.ofText "SK-1")
  rcases hadded with - | ⟨hp, - | -⟩
  obtain rfl := Except.ok.inj (hp.symm.trans (Registry.custom_eq_ok hregex))
  refine (hnew rfl hnone "Any SK").mpr ?_
  decide +kernel

end SecretScan
