import SecretScan.Configuration
import SecretScan.Proofs.Number.Binary64
import SecretScan.Proofs.Pattern.Addition

/-!
# Resolving options

What options can have wrong with them is listed here without resolving anything: `Options.faults`
judges each threshold, each matcher and each added pattern by itself, in the order in which they are
looked at. Resolving options then meets the head of that list (`fault?_resolve`), and succeeds if
the list is empty, which is to say that the options are valid (`Options.faults_eq_nil_iff`).

The configuration of valid options is described by `Options.Describes`, one field for each field of
the configuration.
-/

namespace SecretScan

/-! ### Thresholds -/

/-- The override of an alphabet's threshold. -/
def ThresholdOverrides.of? (t : ThresholdOverrides) : Alphabet → Option Binary64
  | .hex => t.hex
  | .base64 => t.base64
  | .generic => t.generic

/-- What is wrong with the override of a threshold, if anything is. -/
def thresholdFault? (t : ThresholdOverrides) (alphabet : Alphabet) : Option Fault :=
  match t.of? alphabet with
  | none => none
  | some value => if value.IsNonneg then none else some (.invalidThreshold alphabet value)

theorem thresholdFault?_eq_none_iff {t : ThresholdOverrides} {alphabet : Alphabet} :
    thresholdFault? t alphabet = none ↔ ∀ value, t.of? alphabet = some value → value.IsNonneg := by
  rw [thresholdFault?]
  rcases t.of? alphabet with - | value
  · simp
  · simp

theorem fault?_resolveThreshold (t : ThresholdOverrides) (alphabet : Alphabet) :
    fault? (resolveThreshold alphabet (t.of? alphabet)) = thresholdFault? t alphabet := by
  rw [resolveThreshold.eq_def, thresholdFault?]
  rcases t.of? alphabet with - | value
  · rfl
  · by_cases h : value.IsNonneg
    · simp only [if_pos h, if_pos (Binary64.isNonneg_iff.mp h), fault?_ok]
    · simp only [if_neg h, if_neg fun hle ↦ h (Binary64.isNonneg_iff.mpr hle), fault?_error]

/-- A threshold that passes is the override, or the default where there is none. -/
theorem resolveThreshold_eq_ok {alphabet : Alphabet} {given : Option Binary64} {value : Binary64}
    (h : resolveThreshold alphabet given = .ok value) :
    value = given.getD (Thresholds.default.of alphabet) := by
  rw [resolveThreshold.eq_def] at h
  split at h
  · exact (Except.ok.inj h).symm
  · split at h
    · exact (Except.ok.inj h).symm
    · cases h

/-! ### Matchers -/

/-- What is wrong with a matcher of an option, if anything is. -/
def matcherFault? (field : MatcherField) (input : MatcherInput) : Option Fault :=
  (fault? input.compile).map (.invalidMatcher field)

theorem matcherFault?_eq_none_iff {field : MatcherField} {input : MatcherInput} :
    matcherFault? field input = none ↔ input.Compiles := by
  rw [matcherFault?, Option.map_eq_none_iff, MatcherInput.compiles_iff]

theorem fault?_compile (field : MatcherField) (inputs : OneOrMany MatcherInput) :
    fault? (MatcherSet.compile field inputs) =
      (inputs.toList.filterMap (matcherFault? field)).head? := by
  rw [MatcherSet.compile, fault?_map, fault?_mapM]
  simp only [fault?_mapError]
  rfl

theorem MatcherSet.compile_eq_ok_iff {field : MatcherField} {inputs : OneOrMany MatcherInput}
    {s : MatcherSet} :
    compile field inputs = .ok s ↔
      List.Forall₂ (fun input regex ↦ input.compile = .ok regex) inputs.toList s.matchers := by
  rw [compile, map_eq_ok_iff]
  simp only [mapM_eq_ok_iff, mapError_eq_ok_iff]
  constructor
  · rintro ⟨matchers, hmatchers, rfl⟩
    exact hmatchers
  · exact fun hmatchers ↦ ⟨s.matchers, hmatchers, rfl⟩

/-! ### Options -/

namespace Options

variable {o : Options} {config : Configuration} {fault : Fault}

/-- Options that can be used. -/
structure IsValid (o : Options) : Prop where
  /-- Thresholds are finite and not negative. -/
  thresholds : ∀ alphabet value, o.thresholds.of? alphabet = some value → value.IsNonneg
  /-- Matchers on texts are usable. -/
  ignoreContent : ∀ input ∈ o.ignoreContent.toList, input.Compiles
  /-- Matchers on names are usable. -/
  ignoreIdentifiers : ∀ input ∈ o.ignoreIdentifiers.toList, input.Compiles
  /-- Added patterns have labels of their own and are usable. -/
  additional : ∀ e ∈ o.additional.entries, e.1 ∉ Builtin.labels ∧ e.2.Compiles

/-- All that is wrong with thresholds and matchers, in order. -/
def settingFaults (o : Options) : List Fault :=
  [Alphabet.hex, .base64, .generic].filterMap (thresholdFault? o.thresholds) ++
    o.ignoreContent.toList.filterMap (matcherFault? .ignoreContent) ++
    o.ignoreIdentifiers.toList.filterMap (matcherFault? .ignoreIdentifiers)

/-- All that is wrong with added patterns, in order. -/
def additionFaults (o : Options) : List Fault :=
  o.additional.entries.filterMap (Registry.entryFault? Builtin.labels)

/-- All that is wrong with options, in the order in which it is met. -/
def faults (o : Options) : List Fault := o.settingFaults ++ o.additionFaults

/-- Valid options are those with nothing wrong. -/
theorem faults_eq_nil_iff : o.faults = [] ↔ o.IsValid := by
  simp only [faults, settingFaults, additionFaults, List.append_eq_nil_iff,
    List.filterMap_eq_nil_iff, thresholdFault?_eq_none_iff, matcherFault?_eq_none_iff,
    Registry.entryFault?_eq_none_iff]
  constructor
  · rintro ⟨⟨⟨hthresholds, hcontent⟩, hidentifiers⟩, hadditional⟩
    refine ⟨fun alphabet ↦ hthresholds alphabet ?_, hcontent, hidentifiers, hadditional⟩
    cases alphabet <;> simp
  · rintro ⟨hthresholds, hcontent, hidentifiers, hadditional⟩
    exact ⟨⟨⟨fun alphabet _ ↦ hthresholds alphabet, hcontent⟩, hidentifiers⟩, hadditional⟩

theorem label?_of_mem_settingFaults (h : fault ∈ o.settingFaults) : fault.label? = none := by
  rw [settingFaults, List.mem_append, List.mem_append] at h
  simp only [List.mem_filterMap] at h
  obtain (⟨alphabet, -, h⟩ | ⟨input, -, h⟩) | ⟨input, -, h⟩ := h
  · rw [thresholdFault?] at h
    split at h
    · cases h
    · split at h
      · cases h
      · obtain rfl := Option.some.inj h
        rfl
  · obtain ⟨cause, -, rfl⟩ := Option.map_eq_some_iff.mp h
    rfl
  · obtain ⟨cause, -, rfl⟩ := Option.map_eq_some_iff.mp h
    rfl

/-- A fault is that of the first added pattern that has one, and this is its label. -/
def IsFirstEntryFault (o : Options) (label : String) (fault : Fault) : Prop :=
  ∃ before input after, o.additional.entries = before ++ (label, input) :: after ∧
    (∀ e ∈ before, e.1 ∉ Builtin.labels ∧ e.2.Compiles) ∧
    (label ∈ Builtin.labels ∧ fault = .duplicateLabel label ∨
      label ∉ Builtin.labels ∧
        ∃ cause, input.compile = .error cause ∧ fault = .invalidPattern label cause)

theorem head?_additionFaults_eq_some_iff :
    o.additionFaults.head? = some fault ↔ ∃ label, o.IsFirstEntryFault label fault := by
  rw [additionFaults, List.head?_filterMap, List.findSome?_eq_some_iff]
  simp only [Registry.entryFault?_eq_some_iff, Registry.entryFault?_eq_none_iff]
  constructor
  · rintro ⟨before, ⟨label, input⟩, after, hentries, hfault, hbefore⟩
    exact ⟨label, before, input, after, hentries, hbefore, hfault⟩
  · rintro ⟨label, before, input, after, hentries, hbefore, hfault⟩
    exact ⟨before, (label, input), after, hentries, hfault, hbefore⟩

theorem IsFirstEntryFault.label?_eq {label : String} (h : o.IsFirstEntryFault label fault) :
    fault.label? = some label := by
  obtain ⟨-, -, -, -, -, ⟨-, rfl⟩ | ⟨-, -, -, rfl⟩⟩ := h
  · rfl
  · rfl

/-- **The label of a fault.** It is there if the fault is one of an added pattern, thresholds and
matchers having none. -/
theorem label?_of_head?_faults (h : o.faults.head? = some fault) {label : String} :
    fault.label? = some label ↔ o.settingFaults = [] ∧ o.IsFirstEntryFault label fault := by
  constructor
  · intro hlabel
    rw [faults] at h
    rcases hset : o.settingFaults with - | ⟨first, rest⟩
    · rw [hset, List.nil_append] at h
      obtain ⟨label', hfirst⟩ := head?_additionFaults_eq_some_iff.mp h
      obtain rfl := Option.some.inj (hlabel.symm.trans hfirst.label?_eq)
      exact ⟨rfl, hfirst⟩
    · -- A fault of a setting comes before those of added patterns and has no label.
      rw [hset] at h
      obtain rfl : first = fault := Option.some.inj h
      have hmem : first ∈ o.settingFaults := hset ▸ List.mem_cons_self
      have hnone := label?_of_mem_settingFaults hmem
      exact absurd (hlabel.symm.trans hnone) (by simp)
  · rintro ⟨-, hfirst⟩
    exact hfirst.label?_eq

/-- What resolving options gives, field by field. -/
structure Describes (o : Options) (config : Configuration) : Prop where
  /-- Each threshold is the override for its alphabet, or the default for it. -/
  threshold : ∀ alphabet, config.thresholds.of alphabet =
    (o.thresholds.of? alphabet).getD (Thresholds.default.of alphabet)
  /-- The length is the one that is given, or twenty. -/
  minimumLength : config.minimumLength = o.minimumLength.getD 20
  /-- The matchers on texts, in order. -/
  ignoreContent : List.Forall₂ (fun input regex ↦ input.compile = .ok regex)
    o.ignoreContent.toList config.ignoreContent.matchers
  /-- The matchers on names, in order. -/
  ignoreIdentifiers : List.Forall₂ (fun input regex ↦ input.compile = .ok regex)
    o.ignoreIdentifiers.toList config.ignoreIdentifiers.matchers
  /-- Whether modules are skipped. -/
  ignoreModules : config.ignoreModules = o.ignoreModules
  /-- The table, and behind it the added patterns in order. -/
  registry : ∃ added, config.registry = .ofPatterns (Builtin.patterns ++ added) ∧
    List.Forall₂ (fun e p ↦ Pattern.custom e.1 e.2 = .ok p) o.additional.entries added

end Options

/-! ### The stages in order -/

theorem fault?_resolveThresholds (t : ThresholdOverrides) :
    fault? t.resolve = ([Alphabet.hex, .base64, .generic].filterMap (thresholdFault? t)).head? := by
  have hone : ∀ alphabet, fault? (resolveThreshold alphabet (t.of? alphabet)) =
      (thresholdFault? t alphabet).toList.head? := fun alphabet ↦ by
    rw [fault?_resolveThreshold, Option.head?_toList]
  rw [List.filterMap_eq_flatMap_toList, List.flatMap_cons, List.flatMap_cons, List.flatMap_cons]
  refine fault?_bind (hone .hex) fun _ _ ↦ ?_
  refine fault?_bind (hone .base64) fun _ _ ↦ ?_
  exact fault?_bind (hone .generic) fun _ _ ↦ rfl

/-- Patterns are added to the table as it is written down. -/
theorem Registry.withAdditional_eq (entries : List (String × MatcherInput)) :
    withAdditional entries = ofPatterns <$> addCustom Builtin.patterns entries := by
  rw [withAdditional, builtinPatterns_eq]
  generalize Builtin.patterns = patterns
  show (addCustom patterns entries >>= fun all ↦ pure (ofPatterns all)) = _
  cases addCustom patterns entries <;> rfl

theorem fault?_withAdditional {entries : List (String × MatcherInput)}
    (hentries : (entries.map Prod.fst).Nodup) :
    fault? (Registry.withAdditional entries) =
      (entries.filterMap (Registry.entryFault? Builtin.labels)).head? := by
  rw [Registry.withAdditional_eq, fault?_map, Registry.fault?_addCustom hentries,
    Builtin.map_label_patterns]

/-- **The first fault counts.** -/
theorem fault?_resolve (o : Options) : fault? o.resolve = o.faults.head? := by
  rw [Options.faults, Options.settingFaults, List.append_assoc, List.append_assoc,
    ← List.append_nil o.additionFaults]
  refine fault?_bind (fault?_resolveThresholds o.thresholds) fun _ _ ↦ ?_
  refine fault?_bind (fault?_compile _ _) fun _ _ ↦ ?_
  refine fault?_bind (fault?_compile _ _) fun _ _ ↦ ?_
  exact fault?_bind (fault?_withAdditional o.additional.nodup) fun _ _ ↦ rfl

theorem ThresholdOverrides.of_resolve {t : ThresholdOverrides} {thresholds : Thresholds}
    (h : t.resolve = .ok thresholds) (alphabet : Alphabet) :
    thresholds.of alphabet = (t.of? alphabet).getD (Thresholds.default.of alphabet) := by
  obtain ⟨hex, hhex, h⟩ := bind_eq_ok_iff.mp h
  obtain ⟨base64, hbase64, h⟩ := bind_eq_ok_iff.mp h
  obtain ⟨generic, hgeneric, h⟩ := bind_eq_ok_iff.mp h
  obtain rfl := Except.ok.inj h
  cases alphabet with
  | hex => exact resolveThreshold_eq_ok hhex
  | base64 => exact resolveThreshold_eq_ok hbase64
  | generic => exact resolveThreshold_eq_ok hgeneric

/-- **What success gives.** -/
theorem Options.describes {o : Options} {config : Configuration} (h : o.resolve = .ok config) :
    o.Describes config := by
  obtain ⟨thresholds, hthresholds, h⟩ := bind_eq_ok_iff.mp h
  obtain ⟨ignoreContent, hcontent, h⟩ := bind_eq_ok_iff.mp h
  obtain ⟨ignoreIdentifiers, hidentifiers, h⟩ := bind_eq_ok_iff.mp h
  obtain ⟨registry, hregistry, h⟩ := bind_eq_ok_iff.mp h
  obtain rfl := Except.ok.inj h
  rw [Registry.withAdditional_eq] at hregistry
  obtain ⟨all, hall, rfl⟩ := map_eq_ok_iff.mp hregistry
  obtain ⟨added, rfl, hadded⟩ := Registry.addCustom_eq_ok hall
  exact {
    threshold := ThresholdOverrides.of_resolve hthresholds
    minimumLength := rfl
    ignoreContent := MatcherSet.compile_eq_ok_iff.mp hcontent
    ignoreIdentifiers := MatcherSet.compile_eq_ok_iff.mp hidentifiers
    ignoreModules := rfl
    registry := ⟨added, rfl, hadded⟩ }

theorem Options.isValid_of_resolve {o : Options} {config : Configuration}
    (h : o.resolve = .ok config) : o.IsValid := by
  rw [← faults_eq_nil_iff, ← List.head?_eq_none_iff, ← fault?_resolve, h, fault?_ok]

/-- Valid options are those that can be resolved. -/
theorem Options.exists_resolve_iff {o : Options} :
    (∃ config, o.resolve = .ok config) ↔ o.IsValid := by
  rw [← fault?_eq_none_iff, fault?_resolve, List.head?_eq_none_iff, faults_eq_nil_iff]

/-- **Resolving options** succeeds if they are valid, and otherwise fails with the first of what is
wrong with them: thresholds first, then matchers on texts and on names, then added patterns, each of
which is asked for a label of its own before its expression is read. A label is named by the fault
of an added pattern and by no other. On success every field of the configuration is the one
described. -/
theorem Options.resolve_spec (o : Options) :
    ((∃ config, o.resolve = .ok config) ↔ o.IsValid) ∧
      (∀ fault, o.resolve = .error fault ↔ o.faults.head? = some fault) ∧
      (∀ fault, o.resolve = .error fault →
        (fault.label?.isSome ↔ (∃ label, fault = .duplicateLabel label) ∨
          ∃ label cause, fault = .invalidPattern label cause) ∧
        ∀ label, fault.label? = some label ↔
          o.settingFaults = [] ∧ o.IsFirstEntryFault label fault) ∧
      ∀ config, o.resolve = .ok config → o.Describes config := by
  have herror : ∀ fault, o.resolve = .error fault ↔ o.faults.head? = some fault := fun fault ↦ by
    rw [← fault?_eq_some_iff, fault?_resolve]
  refine ⟨?_, herror, fun fault h ↦ ⟨?_, fun label ↦ ?_⟩, fun config ↦ describes⟩
  · rw [← fault?_eq_none_iff, fault?_resolve, List.head?_eq_none_iff, faults_eq_nil_iff]
  · cases fault <;> simp [Fault.label?]
  · exact label?_of_head?_faults ((herror fault).mp h)

/-- Three things are wrong here, and the matcher is met first. -/
example :
    fault? (Options.resolve {
      thresholds := { hex := some (.finite true 0) }
      ignoreContent := .one (.source "(")
      additional := ⟨[("Twitter Oauth", .source "x"), ("host", .source "[")], by decide⟩ }) =
    some (.invalidMatcher .ignoreContent .malformed) := by
  decide +kernel

/-! ### Resolved configurations -/

/-- The default thresholds would pass as overrides. -/
theorem Thresholds.isNonneg_default (alphabet : Alphabet) :
    (Thresholds.default.of alphabet).IsNonneg := by
  cases alphabet <;> decide +kernel

/-- The thresholds of a session are finite and not negative. -/
theorem Options.isNonneg_threshold {o : Options} {config : Configuration}
    (h : o.resolve = .ok config) (alphabet : Alphabet) :
    (config.thresholds.of alphabet).IsNonneg := by
  rw [(describes h).threshold alphabet]
  rcases hgiven : o.thresholds.of? alphabet with - | value
  · exact Thresholds.isNonneg_default alphabet
  · exact (isValid_of_resolve h).thresholds alphabet value hgiven

/-- Without overrides the thresholds are the default ones. -/
theorem ThresholdOverrides.resolve_empty : ({} : ThresholdOverrides).resolve = .ok .default := by
  have hnone (alphabet : Alphabet) :
      resolveThreshold alphabet none = .ok (Thresholds.default.of alphabet) := rfl
  refine bind_eq_ok_iff.mpr ⟨_, hnone .hex, ?_⟩
  refine bind_eq_ok_iff.mpr ⟨_, hnone .base64, ?_⟩
  refine bind_eq_ok_iff.mpr ⟨_, hnone .generic, ?_⟩
  generalize Thresholds.default = thresholds
  rfl

/-- The configuration of a session that has a registry of its own and no other options. -/
def Configuration.ofRegistry (registry : Registry) : Configuration where
  thresholds := .default
  minimumLength := 20
  ignoreContent := ⟨[]⟩
  ignoreIdentifiers := ⟨[]⟩
  ignoreModules := false
  registry := registry

/-- Where patterns are the only options, resolving is adding them to the table. -/
theorem Options.resolve_additional (additional : LabelMap MatcherInput) :
    resolve { additional } =
      Configuration.ofRegistry <$> Registry.withAdditional additional.entries := by
  have hnone (field : MatcherField) : MatcherSet.compile field (.many []) = .ok ⟨[]⟩ := rfl
  rw [resolve, ThresholdOverrides.resolve_empty]
  rw [ok_bind, hnone, ok_bind, hnone, ok_bind]
  exact (map_eq_pure_bind _ _).symm

/-- Patterns that can be read and have labels of their own make a session. -/
theorem Options.resolve_additional_of_nodup (additional : LabelMap MatcherInput)
    {added : List Pattern}
    (hadded : List.Forall₂ (fun e p ↦ Pattern.custom e.1 e.2 = .ok p) additional.entries added)
    (hlabels : ((Builtin.patterns ++ added).map Pattern.label).Nodup) :
    resolve { additional } = .ok (.ofRegistry (.ofPatterns (Builtin.patterns ++ added))) := by
  rw [resolve_additional, Registry.withAdditional_eq, Registry.addCustom_of_nodup hadded hlabels]
  rfl

/-- Without added patterns the registry is the table. -/
theorem Registry.withAdditional_nil : withAdditional [] = .ok (.ofPatterns Builtin.patterns) := by
  rw [withAdditional_eq]
  rfl

/-- **Stage by stage.** Options whose parts can be used make a configuration of what each part
gives. -/
theorem Options.resolve_of_stages {o : Options} {thresholds : Thresholds}
    {ignoreContent ignoreIdentifiers : MatcherSet} {registry : Registry}
    (hthresholds : o.thresholds.resolve = .ok thresholds)
    (hcontent : MatcherSet.compile .ignoreContent o.ignoreContent = .ok ignoreContent)
    (hidentifiers : MatcherSet.compile .ignoreIdentifiers o.ignoreIdentifiers =
      .ok ignoreIdentifiers)
    (hregistry : Registry.withAdditional o.additional.entries = .ok registry) :
    o.resolve = .ok {
      thresholds
      minimumLength := o.minimumLength.getD 20
      ignoreContent
      ignoreIdentifiers
      ignoreModules := o.ignoreModules
      registry } := by
  rw [resolve, hthresholds, ok_bind, hcontent, ok_bind, hidentifiers, ok_bind, hregistry]
  rfl

/-- A session without options. -/
theorem Configuration.builtin_eq :
    Configuration.builtin = .ok {
      thresholds := .default
      minimumLength := 20
      ignoreContent := ⟨[]⟩
      ignoreIdentifiers := ⟨[]⟩
      ignoreModules := false
      registry := .ofPatterns Builtin.patterns } := by
  rw [builtin, Options.resolve_additional, Registry.withAdditional_nil]
  rfl

end SecretScan
