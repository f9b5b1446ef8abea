import SecretScan.Proofs.Options.Forms
import SecretScan.Proofs.Reordering

/-!
# Options mean the same in both notations

A sheet of options is written in JSON and in TOML, and both documents are read. All that can come of
this was said before: the two options have the same fields, but for numbers and for the order of
patterns (`Sheet.reorders`), and so do two sessions with these options what sessions do whose
patterns come in different orders. TOML reads the nearest numbers, and JSON those of short literals
only; a threshold of seventeen digits can come out differently.
-/

namespace SecretScan

/-- The literal for an alphabet. -/
def ThresholdSheet.of? (t : ThresholdSheet) : Alphabet → Option Literal
  | .hex => t.hex
  | .base64 => t.base64
  | .generic => t.generic

namespace Sheet

variable {s : Sheet} {alphabet : Alphabet}

/-- The literal that replaces the threshold of an alphabet. -/
def threshold? (s : Sheet) (alphabet : Alphabet) : Option Literal :=
  s.thresholds.bind fun t ↦ t.of? alphabet

/-- The threshold of an alphabet is not replaced, or by a literal of which JSON loses nothing. -/
def IsShortAt (s : Sheet) (alphabet : Alphabet) : Prop :=
  ∀ l ∈ s.threshold? alphabet, l.json.IsShort

/-- The patterns of a sheet, in its order. -/
def sources (s : Sheet) : List (String × MatcherInput) :=
  s.additional.elim [] fun m ↦ m.entries.map fun e ↦ (e.1, .source e.2)

/-- A notation reads the threshold of an alphabet as it reads its literal. -/
theorem of?_thresholds_options (s : Sheet) (read : Literal → Binary64)
    (arrange : List (String × String) → List (String × String)) (alphabet : Alphabet) :
    (s.options read arrange).thresholds.of? alphabet = (s.threshold? alphabet).map read := by
  rw [options, threshold?]
  rcases s.thresholds with - | t
  · cases alphabet <;> rfl
  · cases alphabet <;> rfl

/-- **Short literals** are the same numbers in both notations. -/
theorem sameAt_of_isShortAt (h : s.IsShortAt alphabet) :
    s.fromToml.thresholds.SameAt s.fromJson.thresholds alphabet := by
  rw [ThresholdOverrides.SameAt, fromToml, fromJson, of?_thresholds_options, of?_thresholds_options]
  rcases hliteral : s.threshold? alphabet with - | l
  · exact .none
  · exact .some (Literal.same (h l hliteral)).symm

/-- Labels that differ stay in the order in which a notation arranges them. -/
theorem entries_ofSources {es : List (String × String)} (h : (es.map Prod.fst).Nodup) :
    (LabelMap.ofSources es).entries = es.map fun e ↦ (e.1, .source e.2) := by
  refine LabelMap.entries_ofList ?_
  rwa [List.map_map]

/-- **JSON** keeps the order of patterns. -/
theorem entries_additional_fromJson (s : Sheet) : s.fromJson.additional.entries = s.sources := by
  rw [fromJson, options, sources]
  rcases s.additional with - | m
  · rfl
  · exact entries_ofSources m.nodup

theorem nodup_arrange (m : LabelMap String) : ((Toml.arrange m.entries).map Prod.fst).Nodup :=
  ((Toml.arrange_perm m.entries).map Prod.fst).nodup_iff.mpr m.nodup

/-- **TOML** puts patterns into the order of their labels. -/
theorem entries_additional_fromToml (s : Sheet) :
    s.fromToml.additional.entries.Perm s.sources ∧
      (s.fromToml.additional.entries.map Prod.fst).Pairwise (· ≤ ·) := by
  rw [fromToml, options, sources]
  rcases s.additional with - | m
  · exact ⟨.nil, .nil⟩
  · show (LabelMap.ofSources (Toml.arrange m.entries)).entries.Perm _ ∧
      ((LabelMap.ofSources (Toml.arrange m.entries)).entries.map Prod.fst).Pairwise (· ≤ ·)
    rw [entries_ofSources (nodup_arrange m)]
    refine ⟨(Toml.arrange_perm m.entries).map _, ?_⟩
    rw [List.map_map, List.pairwise_map]
    exact Toml.pairwise_arrange m.entries

/-- **The two options** differ in the order of patterns, and perhaps in thresholds. -/
theorem reorders (s : Sheet) : s.fromToml.Reorders s.fromJson where
  minimumLength := rfl
  ignoreContent := rfl
  ignoreIdentifiers := rfl
  ignoreModules := rfl
  additional := by
    rw [entries_additional_fromJson]
    exact s.entries_additional_fromToml.1

/-- **Options mean the same in JSON and in TOML.** A sheet has documents in both, and any of them is
read. The lengths, the matchers and the truth values are the same, and so are the patterns, which
JSON leaves in order and TOML puts into the order of their labels. The thresholds are given for the
same alphabets. In TOML they are the numbers nearest to the literals; in JSON they are, too, if the
literals are short, and then they are the same. Sessions with these options can be resolved both or
neither if all literals are short; and if both can, then for every literal of a program the reason
to skip it is the same, it has high entropy in both or in neither as far as the threshold of its
alphabet is short, and a pattern is reported in both or in neither. It is the same pattern if one of
the table matches or not more than one of the added ones does. -/
theorem same_in_json_and_toml (s : Sheet) :
    (∃ json, s.IsJson json) ∧ (∃ toml, s.IsToml toml) ∧
      (∀ json, s.IsJson json → Options.ofJson json = .ok s.fromJson) ∧
      (∀ toml, s.IsToml toml → Options.ofToml? toml = some s.fromToml) ∧
      s.fromToml.minimumLength = s.fromJson.minimumLength ∧
      s.fromToml.ignoreContent = s.fromJson.ignoreContent ∧
      s.fromToml.ignoreIdentifiers = s.fromJson.ignoreIdentifiers ∧
      s.fromToml.ignoreModules = s.fromJson.ignoreModules ∧
      s.fromJson.additional.entries = s.sources ∧
      s.fromToml.additional.entries.Perm s.sources ∧
      (s.fromToml.additional.entries.map Prod.fst).Pairwise (· ≤ ·) ∧
      (∀ alphabet,
        s.fromJson.thresholds.of? alphabet =
          (s.threshold? alphabet).map (fun l ↦ l.jsonNumber.toBinary64) ∧
        s.fromToml.thresholds.of? alphabet = (s.threshold? alphabet).map Literal.tomlNumber ∧
        (∀ l ∈ s.threshold? alphabet,
          Binary64.Same l.tomlNumber (Binary64.nearest l.value) ∧
          (l.json.IsShort → Binary64.Same l.jsonNumber.toBinary64 (Binary64.nearest l.value))) ∧
        (s.IsShortAt alphabet → s.fromToml.thresholds.SameAt s.fromJson.thresholds alphabet)) ∧
      ((∀ alphabet, s.IsShortAt alphabet) →
        ((∃ config, s.fromJson.resolve = .ok config) ↔
          ∃ config, s.fromToml.resolve = .ok config)) ∧
      ∀ config config', s.fromJson.resolve = .ok config → s.fromToml.resolve = .ok config' →
        ∀ c : Candidate,
          Suppression.check config' c = Suppression.check config c ∧
          (s.IsShortAt (.classify c.text.toList) →
            (.highEntropy ∈ config'.evaluate c ↔ .highEntropy ∈ config.evaluate c)) ∧
          ((∃ label, .patternMatch label ∈ config'.evaluate c) ↔
            ∃ label, .patternMatch label ∈ config.evaluate c) ∧
          ∀ table, Registry.builtinPatterns = .ok table →
            ((∃ p ∈ table, p.regex.isMatch c.text = true) ∨
              ∀ e ∈ s.sources, ∀ e' ∈ s.sources, e.2.Matches c.text → e'.2.Matches c.text →
                e = e') →
            ∀ label, .patternMatch label ∈ config'.evaluate c ↔
              .patternMatch label ∈ config.evaluate c := by
  have hreorders := s.reorders
  refine ⟨s.exists_isJson, s.exists_isToml, fun json ↦ ofJson_of_isJson,
    fun toml ↦ ofToml?_of_isToml, hreorders.minimumLength, hreorders.ignoreContent,
    hreorders.ignoreIdentifiers, hreorders.ignoreModules, s.entries_additional_fromJson,
    s.entries_additional_fromToml.1, s.entries_additional_fromToml.2, ?_, ?_, ?_⟩
  · intro alphabet
    exact ⟨s.of?_thresholds_options _ _ alphabet, s.of?_thresholds_options _ _ alphabet,
      fun l _ ↦ ⟨l.same_tomlNumber, Literal.same_jsonNumber⟩, sameAt_of_isShortAt⟩
  · intro hshort
    exact (Options.exists_resolve_iff_of_reorders hreorders fun alphabet ↦
      sameAt_of_isShortAt (hshort alphabet)).symm
  · intro config config' ho ho' c
    have hcheck := Options.check_of_reorders hreorders ho ho' c
    refine ⟨hcheck, fun hshort ↦ ?_,
      Options.exists_patternMatch_iff_of_reorders hreorders ho ho' c, fun table htable hone ↦ ?_⟩
    · rw [Configuration.highEntropy_mem_evaluate_iff, Configuration.highEntropy_mem_evaluate_iff,
        hcheck, Options.isHighEntropy_of_reorders hreorders ho ho' (sameAt_of_isShortAt hshort)]
    · obtain rfl := Except.ok.inj (Registry.builtinPatterns_eq.symm.trans htable)
      rw [← s.entries_additional_fromJson] at hone
      exact Options.patternMatch_iff_of_reorders hreorders ho ho' hone

/-- Four, in TOML with a fraction. -/
def fourPointZero : Numeral :=
  { Numeral.ofNat 4 with fraction := some ⟨['0'], by decide, List.all_eq_true.mp rfl⟩ }

theorem json_four : (Numeral.ofNat 4).json = .ok (.natural 4) :=
  Numeral.json_eq_natural_iff.mpr ⟨rfl, rfl, Numeral.value_whole_ofNat 4, by decide⟩

theorem toml?_fourPointZero :
    fourPointZero.toml? = some (.float (.ofDecimal false 40 (-1))) := by
  have hfinite : (Binary64.ofDecimal false 40 (-1)).isFinite = true := by decide +kernel
  have hsignificand : fourPointZero.significand = 40 := by decide
  have hpower : fourPointZero.power = -1 := by decide
  have hwhole : fourPointZero.isWhole = false := rfl
  have hnegative : fourPointZero.isNegative = false := rfl
  rw [Numeral.toml?, hwhole, if_neg Bool.false_ne_true, hsignificand, hpower, hnegative]
  simp only [hfinite, if_true]

theorem value_fourPointZero : (Numeral.ofNat 4).value = fourPointZero.value := by
  show Binary64.decimal false 4 0 = Binary64.decimal false 40 (-1)
  norm_num [Binary64.decimal, Binary64.signed]

/-- Four bits for all texts of no alphabet, a whole number in JSON. -/
def fourBits : Sheet where
  thresholds := some {
    generic := some {
      json := .ofNat 4
      jsonNumber := .natural 4
      json_eq := json_four
      toml := fourPointZero
      tomlValue := .float (.ofDecimal false 40 (-1))
      toml_eq := toml?_fourPointZero
      tomlNumber := .ofDecimal false 40 (-1)
      asNumber?_eq := rfl
      value_eq := value_fourPointZero } }

/-- Its only member has only one. -/
theorem isWritten_fourBits {α : Type} (w : Writing α) {v : α}
    (hv : ∀ l ∈ fourBits.threshold? .generic, v = w.number l) :
    fourBits.IsWritten w [("entropyThresholdsByAlphabet", w.record [("generic", v)])] where
  nodup := by simp
  names := by simp [Options.names]
  thresholds := .member (.head _) ⟨_, {
    nodup := by simp
    names := by simp [ThresholdOverrides.names]
    hex := .absent (by simp)
    base64 := .absent (by simp)
    generic := .member (.head _) (hv _ rfl) }, rfl⟩
  minimumLength := .absent (by simp)
  ignoreContent := .absent (by simp)
  ignoreIdentifiers := .absent (by simp)
  ignoreModules := .absent (by simp)
  additional := .absent (by simp)

theorem isJson_fourBits :
    fourBits.IsJson "\x7b\"entropyThresholdsByAlphabet\": \x7b\"generic\": 4\x7d\x7d" := by
  have hnone := Json.blank_nil
  have hspace : Json.Blank [' '] := by decide
  refine ⟨_, isWritten_fourBits Json.writing (v := .number (.natural 4)) ?_, [], [], _, hnone, hnone,
    .object (.member hnone hnone hnone hspace (Json.spellsText_flatMap_escape _)
      (.object (.member hnone hnone hnone hspace (Json.spellsText_flatMap_escape _)
        (.number json_four) (.noMember hnone))) (.noMember hnone)), ?_⟩
  · rintro l ⟨⟩
    rfl
  · decide +kernel

theorem isToml_fourBits :
    fourBits.IsToml "[entropyThresholdsByAlphabet]\ngeneric = 4.0 # bits\n" := by
  have hspace : Toml.Space [' '] := by decide
  have hcomment : Toml.Plain " bits".toList := by decide
  have hkey {name : String} (hname : name.toList.all Toml.isBare = true)
      (hne : name.toList ≠ []) : Toml.SpellsKey name name.toList :=
    .bare hne (List.all_eq_true.mp hname)
  have hpair : Toml.Lines [("generic", .float (.ofDecimal false 40 (-1)))] [] _ :=
    .pair .nil (hkey (by decide) (by decide)) hspace hspace (.number toml?_fourPointZero)
      (.comment hspace hcomment (.inl rfl)) (.finish .nil)
  have hlines : Toml.Lines [] [("entropyThresholdsByAlphabet",
      [("generic", .float (.ofDecimal false 40 (-1)))])] _ :=
    .header .nil (hkey (by decide) (by decide)) Toml.space_nil Toml.space_nil
      (.newline Toml.space_nil (.inl rfl)) hpair
  refine ⟨_, isWritten_fourBits Toml.writing (v := .float (.ofDecimal false 40 (-1))) ?_, [],
    [("entropyThresholdsByAlphabet", [("generic", .float (.ofDecimal false 40 (-1)))])],
    ?_, by simp, by simp, rfl⟩
  · rintro l ⟨⟩
    rfl
  · convert hlines using 1
    decide +kernel

theorem isShortAt_fourBits : fourBits.IsShortAt .generic := by
  rintro l ⟨⟩
  exact .inl ⟨rfl, by rw [Numeral.value_whole_ofNat]; decide⟩

/-- A whole number in JSON and one with a fraction in TOML, and the same threshold. -/
theorem same_in_json_and_toml_threshold :
    ∃ s : Sheet, s.IsJson "\x7b\"entropyThresholdsByAlphabet\": \x7b\"generic\": 4\x7d\x7d" ∧
      s.IsToml "[entropyThresholdsByAlphabet]\ngeneric = 4.0 # bits\n" ∧
      s.fromJson.thresholds.of? .generic = some (Binary64.ofNat 4) ∧
      s.fromToml.thresholds.SameAt s.fromJson.thresholds .generic := by
  obtain ⟨-, -, -, -, -, -, -, -, -, -, -, hthresholds, -⟩ := same_in_json_and_toml fourBits
  obtain ⟨hread, -, -, hsame⟩ := hthresholds .generic
  exact ⟨fourBits, isJson_fourBits, isToml_fourBits, hread, hsame isShortAt_fourBits⟩

end Sheet

/-- **Seventeen digits.** JSON rounds them to a whole number and then this number's quotient, and
arrives at four; TOML arrives at the number below. -/
theorem Options.thresholds_differ_of_seventeen_digits :
    ∃ o o',
      ofJson "\x7b\"entropyThresholdsByAlphabet\": \x7b\"generic\": 3.9999999999999996\x7d\x7d" =
        .ok o ∧
      ofToml? "[entropyThresholdsByAlphabet]\ngeneric = 3.9999999999999996\n" = some o' ∧
      ¬ o'.thresholds.SameAt o.thresholds .generic := by
  have hjson : ((ofJson
      "\x7b\"entropyThresholdsByAlphabet\": \x7b\"generic\": 3.9999999999999996\x7d\x7d"
        ).toOption.map thresholds) = some { generic := some (.ofNat 4) } := by
    decide +kernel
  have htoml : (ofToml?
      "[entropyThresholdsByAlphabet]\ngeneric = 3.9999999999999996\n").map thresholds =
        some { generic := some (.ofDecimal false 39999999999999996 (-16)) } := by
    decide +kernel
  have hless : (Binary64.ofNat 4).le (.ofDecimal false 39999999999999996 (-16)) = false := by
    decide +kernel
  obtain ⟨o, ho, hthresholds⟩ := Option.map_eq_some_iff.mp hjson
  obtain ⟨o', ho', hthresholds'⟩ := Option.map_eq_some_iff.mp htoml
  refine ⟨o, o', ?_, ho', ?_⟩
  · generalize ofJson _ = r at ho
    cases r with
    | error fault => cases ho
    | ok a =>
      obtain rfl := Option.some.inj ho
      rfl
  · rw [ThresholdOverrides.SameAt, hthresholds, hthresholds']
    intro hsame
    have hle := (Option.rel_some_some.mp hsame).2
    rw [hless] at hle
    cases hle

end SecretScan
