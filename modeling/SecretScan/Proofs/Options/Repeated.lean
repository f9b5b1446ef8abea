import SecretScan.Proofs.Labels
import SecretScan.Proofs.Lists
import SecretScan.Proofs.Options.Json

/-!
# Labels that come twice

In a JSON document an object may give a label more than once. The patterns are read into a map
before anything looks at labels, so what resolving options sees of

```
"additionalRegexes": {"X": "a", "Y": "c", "X": "b"}
```

is `X` with the expression `b`, and behind it `Y`. A label stands where it comes first
(`LabelMap.labels_ofList`) and has the value that comes last (`LabelMap.mem_ofList_iff`). Whatever
else a document says of a label is not compiled and not reported; it is not a duplicate either,
since labels are only compared with those of the table and with each other after that.
-/

namespace SecretScan

/-! ### Maps -/

namespace LabelMap

variable {α : Type} {label l : String} {value v : α} {es : List (String × α)}

/-- A label that is new is appended. -/
theorem labels_put (es : List (String × α)) :
    (put label value es).map Prod.fst =
      if label ∈ es.map Prod.fst then es.map Prod.fst else es.map Prod.fst ++ [label] := by
  induction es with
  | nil => rfl
  | cons e es ih =>
    obtain ⟨k, w⟩ := e
    rw [put]
    by_cases h : k = label
    · simp [h]
    · rw [if_neg h, List.map_cons, ih, List.map_cons]
      by_cases hmem : label ∈ es.map Prod.fst
      · rw [if_pos hmem, if_pos (List.mem_cons_of_mem k hmem)]
      · rw [if_neg hmem, if_neg (by simp [Ne.symm h, hmem]), List.cons_append]

/-- The value under a label is replaced, and the others stay. -/
theorem mem_put_iff (hes : (es.map Prod.fst).Nodup) :
    (l, v) ∈ put label value es ↔ (l, v) = (label, value) ∨ l ≠ label ∧ (l, v) ∈ es := by
  induction es with
  | nil => simp [put]
  | cons e es ih =>
    obtain ⟨k, w⟩ := e
    rw [List.map_cons, List.nodup_cons] at hes
    have hfresh : (k, v) ∉ es := fun hmem ↦ hes.1 (List.mem_map.mpr ⟨_, hmem, rfl⟩)
    rw [put]
    by_cases h : k = label
    · subst h
      grind
    · rw [if_neg h, List.mem_cons, ih hes.2, List.mem_cons]
      grind

theorem ofList_append_singleton (es : List (String × α)) (e : String × α) :
    ofList (es ++ [e]) = (ofList es).insert e.1 e.2 := by
  rw [ofList, List.foldl_append]
  rfl

/-- **The labels** of a map, in the order in which they were inserted first. -/
theorem labels_ofList (es : List (String × α)) :
    (ofList es).entries.map Prod.fst = (es.map Prod.fst).eraseDups := by
  induction es using List.reverseRecOn with
  | nil => rfl
  | append_singleton es e ih =>
    have hmem : e.1 ∈ (es.map Prod.fst).eraseDups ↔ e.1 ∈ es.map Prod.fst := List.mem_eraseDups
    rw [ofList_append_singleton, insert, labels_put, ih, List.map_append, List.eraseDups_append]
    by_cases h : e.1 ∈ es.map Prod.fst
    · rw [if_pos (hmem.mpr h)]
      simp [List.removeAll, h]
    · rw [if_neg (mt hmem.mp h)]
      simp [List.removeAll, h, List.eraseDups_cons]

/-- **The values** of a map: under each label the one that was inserted last. -/
theorem mem_ofList_iff :
    (l, v) ∈ (ofList es).entries ↔
      ∃ before after, es = before ++ (l, v) :: after ∧ l ∉ after.map Prod.fst := by
  induction es using List.reverseRecOn with
  | nil => simp [ofList]
  | append_singleton es e ih =>
    rw [ofList_append_singleton, insert, mem_put_iff (ofList es).nodup, ih]
    constructor
    · rintro (heq | ⟨hne, before, after, rfl, hafter⟩)
      · exact ⟨es, [], by rw [heq], List.not_mem_nil⟩
      · refine ⟨before, after ++ [e], by rw [List.append_assoc, List.cons_append], ?_⟩
        rw [List.map_append, List.mem_append, not_or]
        exact ⟨hafter, by simpa using hne⟩
    · rintro ⟨before, after, heq, hafter⟩
      rcases append_singleton_eq_append_cons_iff.mp heq with ⟨-, rfl, -⟩ | ⟨rest, rfl, hes⟩
      · exact .inl rfl
      · rw [List.map_append, List.mem_append, not_or] at hafter
        exact .inr ⟨by simpa using hafter.2, before, rest, hes, hafter.1⟩

example : (ofList [("X", 1), ("Y", 2), ("X", 3)]).entries = [("X", 3), ("Y", 2)] := by decide

end LabelMap

/-! ### Documents -/

/-- The document of a text gives patterns by these labels with these sources, in this order. -/
def Json.GivesPatterns (text : String) (es : List (String × String)) : Prop :=
  ∃ v ms, IsDocument v text.toList ∧ Members Options.names v ms ∧
    ("additionalRegexes", .object (es.map fun e ↦ (e.1, .string e.2)) none) ∈ ms

namespace Options

open Json

variable {o : Options} {config : Configuration} {text : String} {es : List (String × String)}

/-- **All patterns of the document** are put into the map, one after the other. -/
theorem additional_of_givesPatterns (h : GivesPatterns text es) (ho : ofJson text = .ok o) :
    o.additional = .ofList (es.map fun e ↦ (e.1, .source e.2)) := by
  obtain ⟨v, ms, hdocument, hms, hes⟩ := h
  rw [ofJson, decode_of_isDocument hdocument] at ho
  obtain ⟨ms', hms', hgiven⟩ := asRecord_eq_ok_iff.mp ho
  obtain rfl := hms.unique hms'
  have hmeans := hgiven.additional.means_of_mem (hms.nodup (by decide)) hes
  exact meansPatterns_unique hmeans (.object es)

/-- The pattern of an added label is compiled from the matcher in the map. -/
theorem get?_of_mem_additional (h : o.resolve = .ok config) {label : String} {input : MatcherInput}
    (hmem : (label, input) ∈ o.additional.entries) :
    ∃ p, config.registry.get? label = some p ∧ input.compile = .ok p.regex := by
  obtain ⟨added, hregistry, hadded⟩ := (describes h).registry
  obtain ⟨p, hp, hcustom⟩ := exists_right_of_mem hadded hmem
  have hpatterns : p ∈ config.registry.patterns := by
    rw [hregistry]
    exact List.mem_append_right _ hp
  have hget := Registry.get?_label (nodup_labels_of_resolve h) hpatterns
  rw [Registry.label_of_custom hcustom] at hget
  exact ⟨p, hget, Registry.compile_of_custom hcustom⟩

/-- A label that is refused is one of the table. -/
theorem mem_labels_of_duplicateLabel {label : String}
    (h : o.resolve = .error (.duplicateLabel label)) : label ∈ Builtin.labels := by
  have hfirst : o.faults.head? = some (.duplicateLabel label) := by
    rw [← fault?_resolve, h]
    rfl
  rcases List.mem_append.mp (List.mem_of_head? hfirst) with hset | hadd
  · cases label?_of_mem_settingFaults hset
  · obtain ⟨e, -, hfault⟩ := List.mem_filterMap.mp hadd
    rcases Registry.entryFault?_eq_some_iff.mp hfault with ⟨htaken, heq⟩ | ⟨-, cause, -, heq⟩
    · obtain rfl := Fault.duplicateLabel.inj heq
      exact htaken
    · cases heq

/-- **The last entry of a label counts.** Where a document gives labels more than once, each is kept
once, in the order in which they come first, with the source that comes last. The pattern of the
label is compiled from this source, and no label is refused for being given again: only those of the
table are. -/
theorem last_entry_of_label_counts (h : GivesPatterns text es) (ho : ofJson text = .ok o) :
    o.additional.entries.map Prod.fst = (es.map Prod.fst).eraseDups ∧
      (∀ before label source after, es = before ++ (label, source) :: after →
        label ∉ after.map Prod.fst →
        (label, .source source) ∈ o.additional.entries ∧
          ∀ config, o.resolve = .ok config → ∃ p, config.registry.get? label = some p ∧
            Regex.compile source = .ok p.regex ∧ p.regex.source = source) ∧
      ∀ label, o.resolve = .error (.duplicateLabel label) → label ∈ Builtin.labels := by
  have hadditional := additional_of_givesPatterns h ho
  refine ⟨?_, fun before label source after hes hafter ↦ ?_, fun label ↦
    mem_labels_of_duplicateLabel⟩
  · rw [hadditional, LabelMap.labels_ofList, List.map_map]
    rfl
  · have hmem : (label, .source source) ∈ o.additional.entries := by
      rw [hadditional, LabelMap.mem_ofList_iff, hes, List.map_append, List.map_cons]
      refine ⟨_, _, rfl, ?_⟩
      rwa [List.map_map]
    refine ⟨hmem, fun config hconfig ↦ ?_⟩
    obtain ⟨p, hget, hcompile⟩ := get?_of_mem_additional hconfig hmem
    exact ⟨p, hget, hcompile, Builtin.source_of_compile hcompile⟩

/-- A document that gives a label twice, and the options that are read from it. -/
theorem ofJson_label_twice :
    GivesPatterns "\x7b\"additionalRegexes\":\x7b\"X\":\"a\",\"X\":\"b\"\x7d\x7d"
        [("X", "a"), ("X", "b")] ∧
      ofJson "\x7b\"additionalRegexes\":\x7b\"X\":\"a\",\"X\":\"b\"\x7d\x7d" =
        .ok { additional := ⟨[("X", .source "b")], List.nodup_singleton "X"⟩ } := by
  have hdocument : Json.IsDocument
      (.object [("additionalRegexes", .object [("X", .string "a"), ("X", .string "b")] none)] none)
      "\x7b\"additionalRegexes\":\x7b\"X\":\"a\",\"X\":\"b\"\x7d\x7d".toList := by
    have hstring (s : String) := spellsText_flatMap_escape s.toList
    refine ⟨[], [], _, blank_nil, blank_nil, .object (.member blank_nil blank_nil blank_nil
      blank_nil (hstring _) (.object (.member blank_nil blank_nil blank_nil blank_nil (hstring _)
        (.string (hstring _)) (.member blank_nil blank_nil blank_nil blank_nil (hstring _)
          (.string (hstring _)) (.noMember blank_nil)))) (.noMember blank_nil)), ?_⟩
    decide +kernel
  have hmembers : Members names
      (.object [("additionalRegexes", .object [("X", .string "a"), ("X", .string "b")] none)] none)
      [("additionalRegexes", .object [("X", .string "a"), ("X", .string "b")] none)] :=
    .object (by decide) (by simp [names])
  refine ⟨⟨_, _, hdocument, hmembers, .head _⟩, ?_⟩
  rw [ofJson, decode_of_isDocument hdocument]
  exact asRecord_eq_ok_iff.mpr ⟨_, hmembers, {
    thresholds := .absent (by decide)
    minimumLength := .absent (by decide)
    ignoreContent := .absent (by decide)
    ignoreIdentifiers := .absent (by decide)
    ignoreModules := .absent (by decide)
    additional := .member (.head _) (.object [("X", "a"), ("X", "b")]) }⟩

/-- Of a label that is given twice one entry is left, and it is the second. -/
theorem last_entry_of_label_counts_twice :
    ∃ o, ofJson "\x7b\"additionalRegexes\":\x7b\"X\":\"a\",\"X\":\"b\"\x7d\x7d" = .ok o ∧
      o.additional.entries.map Prod.fst = ["X"] ∧ ("X", .source "b") ∈ o.additional.entries := by
  obtain ⟨hgives, hread⟩ := ofJson_label_twice
  obtain ⟨hlabels, hlast, -⟩ := last_entry_of_label_counts hgives hread
  exact ⟨_, hread, hlabels, (hlast [("X", "a")] "X" "b" [] rfl List.not_mem_nil).1⟩

/-- **A later entry replaces an earlier one.** The options are not refused, and the pattern of the
label is not the one that the first entry describes. -/
theorem later_entry_replaces_earlier :
    ∃ o config p,
      ofJson "\x7b\"additionalRegexes\":\x7b\"X\":\"a\",\"X\":\"b\"\x7d\x7d" = .ok o ∧
      o.resolve = .ok config ∧ config.registry.get? "X" = some p ∧ p.regex.source = "b" ∧
      Regex.compile "a" ≠ .ok p.regex := by
  obtain ⟨-, hread⟩ := ofJson_label_twice
  have hregex : (MatcherInput.source "b").compile =
      .ok ⟨"b", Builtin.chain (Builtin.literal "b")⟩ := by
    decide +kernel
  have hresolve := resolve_added "X" hregex (by decide)
  obtain ⟨p, hget, hcompile⟩ := get?_of_mem_additional hresolve (.head _)
  have hsource : p.regex.source = "b" := Builtin.source_of_compile hcompile
  refine ⟨_, _, p, hread, hresolve, hget, hsource, fun hfirst ↦ ?_⟩
  rw [Builtin.source_of_compile hfirst] at hsource
  exact absurd hsource (by decide)

end Options

end SecretScan
