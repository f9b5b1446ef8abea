import SecretScan.Proofs.Verdict

/-!
# Labels

A finding names a pattern by its label, so a label is of use only if no two patterns share it. The
registry of a session is such a registry (`Options.nodup_labels_of_resolve`), for three reasons, one
for each pair of places where two patterns can stand: the labels of the table differ from each
other, an added label is refused if it is one of the table, and a map has each label once.

Where labels are distinct, looking a label up gives back its pattern (`Registry.get?_label`), and
what a text is reported for is a question about single patterns:

```
p.label ∈ r.matchingLabels text   ↔  p.Fires text
r.firstMatch text = some label    ↔  the first pattern that fires has this label
```
-/

namespace SecretScan

namespace Registry

variable {r : Registry} {text : String} {label : String} {p : Pattern} {i : ℕ}

/-! ### Labels that are reported -/

theorem mem_matchingLabels_iff :
    label ∈ r.matchingLabels text ↔ ∃ p ∈ r.patterns, p.Fires text ∧ p.label = label := by
  rw [matchingLabels_eq, List.mem_map]
  simp only [List.mem_filter, decide_eq_true_iff, and_assoc]

theorem matchingLabels_sublist : (r.matchingLabels text).Sublist r.labels := by
  rw [matchingLabels_eq]
  exact List.filter_sublist.map Pattern.label

/-- **The first match, by its place.** -/
theorem firstMatch_eq_some_iff :
    r.firstMatch text = some label ↔ ∃ i p, r.getAt? i = some p ∧ p.label = label ∧ p.Fires text ∧
      ∀ j < i, ∀ q, r.getAt? j = some q → ¬ q.Fires text := by
  rw [firstMatch, next_cursor, Option.map_eq_some_iff]
  constructor
  · rintro ⟨p, hp, rfl⟩
    obtain ⟨hfires, i, hi, rfl, hbefore⟩ := List.find?_eq_some_iff_getElem.mp hp
    refine ⟨i, r.patterns[i], List.getElem?_eq_getElem hi, rfl, of_decide_eq_true hfires, ?_⟩
    intro j hj q hq hfires'
    obtain ⟨hlt, rfl⟩ := List.getElem?_eq_some_iff.mp hq
    simpa [hfires'] using hbefore j hj
  · rintro ⟨i, p, hp, rfl, hfires, hbefore⟩
    obtain ⟨hi, rfl⟩ := List.getElem?_eq_some_iff.mp hp
    refine ⟨r.patterns[i], List.find?_eq_some_iff_getElem.mpr ?_, rfl⟩
    refine ⟨decide_eq_true hfires, i, hi, rfl, fun j hj ↦ ?_⟩
    simpa using hbefore j hj _ (List.getElem?_eq_getElem (Nat.lt_trans hj hi))

/-! ### Distinct labels -/

theorem eq_of_label_eq (hr : r.labels.Nodup) {q : Pattern} (hp : p ∈ r.patterns)
    (hq : q ∈ r.patterns) (h : p.label = q.label) : p = q :=
  List.inj_on_of_nodup_map hr hp hq h

/-- **A label gives back its pattern.** -/
theorem get?_label (hr : r.labels.Nodup) (hp : p ∈ r.patterns) : r.get? p.label = some p := by
  rcases hget : r.get? p.label with - | q
  · have hne := List.find?_eq_none.mp hget p hp
    simp at hne
  · have hq : q ∈ r.patterns := List.mem_of_find?_eq_some hget
    have hlabel : q.label = p.label := by simpa using List.find?_some hget
    rw [eq_of_label_eq hr hq hp hlabel]

theorem label_mem_matchingLabels_iff (hr : r.labels.Nodup) (hp : p ∈ r.patterns) :
    p.label ∈ r.matchingLabels text ↔ p.Fires text := by
  rw [mem_matchingLabels_iff]
  constructor
  · rintro ⟨q, hq, hfires, hlabel⟩
    rwa [← eq_of_label_eq hr hq hp hlabel]
  · exact fun hfires ↦ ⟨p, hp, hfires, rfl⟩

/-- The labels reported are those of the registry, some left out. -/
theorem matchingLabels_eq_filter (hr : r.labels.Nodup) :
    r.matchingLabels text = r.labels.filter fun label ↦ decide (label ∈ r.matchingLabels text) := by
  conv_lhs => rw [matchingLabels_eq]
  rw [labels, List.filter_map]
  refine congrArg _ (List.filter_congr fun p hp ↦ ?_)
  rw [Function.comp_apply, decide_eq_decide, label_mem_matchingLabels_iff hr hp]

theorem nodup_matchingLabels (hr : r.labels.Nodup) : (r.matchingLabels text).Nodup :=
  hr.sublist matchingLabels_sublist

end Registry

/-! ### The labels of a session -/

theorem Builtin.nodup_labels : Builtin.labels.Nodup := by
  decide +kernel

theorem Builtin.nodup_labels_ofPatterns : (Registry.ofPatterns patterns).labels.Nodup := by
  rw [show (Registry.ofPatterns patterns).labels = labels from map_label_patterns]
  exact nodup_labels

/-- **Labels are distinct in every session.** -/
theorem Options.nodup_labels_of_resolve {o : Options} {config : Configuration}
    (h : o.resolve = .ok config) : config.registry.labels.Nodup := by
  obtain ⟨added, hregistry, hadded⟩ := (describes h).registry
  rw [hregistry]
  show ((Builtin.patterns ++ added).map Pattern.label).Nodup
  rw [List.map_append, Builtin.map_label_patterns, Registry.map_label_added hadded,
    List.nodup_append']
  refine ⟨Builtin.nodup_labels, o.additional.nodup, fun label htable hmap ↦ ?_⟩
  -- A label of the table would have been refused when it was added.
  obtain ⟨e, he, rfl⟩ := List.mem_map.mp hmap
  exact ((isValid_of_resolve h).additional e he).1 htable

/-- A session with one added pattern. -/
theorem Options.resolve_added (label : String) {input : MatcherInput} {regex : Regex}
    (hregex : input.compile = .ok regex) (hlabel : label ∉ Builtin.labels) :
    resolve { additional := ⟨[(label, input)], List.nodup_singleton label⟩ } =
      .ok (.ofRegistry (.ofPatterns (Builtin.patterns ++
        [{ label, group := .custom, description := label, regex, keywords := [] }]))) := by
  refine resolve_additional_of_nodup _ (.cons (Registry.custom_eq_ok hregex) .nil) ?_
  rw [List.map_append, Builtin.map_label_patterns]
  exact Builtin.nodup_labels.append (List.nodup_singleton label)
    (List.disjoint_singleton.mpr hlabel)

/-- **Labels identify patterns.** In a session the labels of the registry are distinct, and looking
up the label of any pattern gives back this pattern. So a label that is reported of a literal leads
to the pattern it was reported for: its expression matches the text, and none at a lower position
does. No label is listed twice for a text. -/
theorem Options.labels_identify_patterns {o : Options} {config : Configuration}
    (h : o.resolve = .ok config) :
    config.registry.labels.Nodup ∧
      (∀ i (hi : i < config.registry.patterns.length),
        config.registry.get? config.registry.patterns[i].label =
          some config.registry.patterns[i]) ∧
      (∀ (c : Candidate) (label : String), .patternMatch label ∈ config.evaluate c →
        ∃ i p, config.registry.getAt? i = some p ∧ config.registry.get? label = some p ∧
          p.regex.isMatch c.text = true ∧
          ∀ j < i, ∀ q, config.registry.getAt? j = some q → q.regex.isMatch c.text = false) ∧
      ∀ text, (config.registry.matchingLabels text).Nodup := by
  have hlabels := nodup_labels_of_resolve h
  have htransparent := transparent_of_resolve h
  refine ⟨hlabels, fun i hi ↦ Registry.get?_label hlabels (List.getElem_mem hi), ?_,
    fun text ↦ Registry.nodup_matchingLabels hlabels⟩
  intro c label hreported
  obtain ⟨-, hfirst⟩ := Configuration.patternMatch_mem_evaluate_iff.mp hreported
  obtain ⟨i, p, hp, rfl, hfires, hbefore⟩ := Registry.firstMatch_eq_some_iff.mp hfirst
  have hmem : p ∈ config.registry.patterns := List.mem_of_getElem? hp
  refine ⟨i, p, hp, Registry.get?_label hlabels hmem, hfires.2, fun j hj q hq ↦ ?_⟩
  rw [← Bool.not_eq_true, ← (htransparent q (List.mem_of_getElem? hq)).fires_iff]
  exact hbefore j hj q hq

/-- A session with one added pattern, and a text that only this pattern matches. -/
theorem Options.labels_identify_patterns_added :
    ∃ config, resolve { additional := ⟨[("Any AKIA", .source "AKIA")], by decide⟩ } = .ok config ∧
      .patternMatch "Any AKIA" ∈ config.evaluate (.ofText "AKIA-1") ∧
      ∃ p, config.registry.get? "Any AKIA" = some p ∧ p.regex.isMatch "AKIA-1" = true := by
  have hregex : (MatcherInput.source "AKIA").compile =
      .ok ⟨"AKIA", Builtin.chain (Builtin.literal "AKIA")⟩ := by
    decide +kernel
  have hresolve := resolve_added "Any AKIA" hregex (by decide)
  -- Once the label is reported, the rest is what is to be shown of every reported label.
  refine ⟨_, hresolve, (and_iff_left_of_imp fun hreported ↦ ?_).mpr ?_⟩
  · obtain ⟨-, -, hlookup, -⟩ := labels_identify_patterns hresolve
    obtain ⟨i, p, -, hget, hmatch, -⟩ := hlookup _ _ hreported
    exact ⟨p, hget, hmatch⟩
  · refine Configuration.patternMatch_mem_evaluate_iff.mpr ⟨rfl, ?_⟩
    rw [Registry.firstMatch_of_transparent (transparent_of_resolve hresolve)]
    show ((Builtin.patterns ++ [_]).find? _).map _ = _
    decide +kernel

end SecretScan
