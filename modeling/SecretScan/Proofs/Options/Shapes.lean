import SecretScan.Proofs.Suppression

/-!
# One matcher, given in several ways

A host gives a matcher as a text or as the expression that it has compiled from that text, and gives
a single matcher alone or in a list. Matchers are compiled in two places, one for the two options
that skip literals and one for added patterns, and both ask the input for its expression and for
nothing else:

```
MatcherSet.compile field inputs  depends on  inputs.toList.map compile
Registry.addCustom patterns es   depends on  es.map fun e ↦ (e.1, e.2.compile)
```

So options that give the same matchers in different ways resolve to one and the same configuration,
and if some matcher or another setting is at fault, then to the same fault
(`Options.resolve_of_reshapes`).
-/

namespace SecretScan

/-! ### Ways to give a matcher -/

/-- Two ways to give one matcher: a text, and the expression that is compiled from it. -/
inductive MatcherInput.Interchangeable : MatcherInput → MatcherInput → Prop
  /-- Nothing is changed. -/
  | refl (input : MatcherInput) : Interchangeable input input
  /-- The compiled expression in place of its text. -/
  | compiled {text : String} {regex : Regex} (h : Regex.compile text = .ok regex) :
      Interchangeable (.compiled regex) (.source text)
  /-- The text in place of the compiled expression. -/
  | source {text : String} {regex : Regex} (h : Regex.compile text = .ok regex) :
      Interchangeable (.source text) (.compiled regex)

/-- Two ways to give one or more values, each in either of two ways. -/
inductive OneOrMany.Reshapes {α : Type} (R : α → α → Prop) : OneOrMany α → OneOrMany α → Prop
  /-- A single value stays alone. -/
  | one {a b : α} (h : R a b) : Reshapes R (.one a) (.one b)
  /-- A list stays a list. -/
  | many {as bs : List α} (h : List.Forall₂ R as bs) : Reshapes R (.many as) (.many bs)
  /-- A single value becomes a list. -/
  | wrapped {a b : α} (h : R a b) : Reshapes R (.many [a]) (.one b)
  /-- A list of one value becomes that value. -/
  | unwrapped {a b : α} (h : R a b) : Reshapes R (.one a) (.many [b])

/-- Options that differ in the ways in which matchers are given. -/
structure Options.Reshapes (o' o : Options) : Prop where
  /-- The thresholds are the same. -/
  thresholds : o'.thresholds = o.thresholds
  /-- The length is the same. -/
  minimumLength : o'.minimumLength = o.minimumLength
  /-- The matchers on texts, perhaps given in other ways. -/
  ignoreContent :
    OneOrMany.Reshapes MatcherInput.Interchangeable o'.ignoreContent o.ignoreContent
  /-- The matchers on names, perhaps given in other ways. -/
  ignoreIdentifiers :
    OneOrMany.Reshapes MatcherInput.Interchangeable o'.ignoreIdentifiers o.ignoreIdentifiers
  /-- Modules are skipped in both or in neither. -/
  ignoreModules : o'.ignoreModules = o.ignoreModules
  /-- The added patterns under the same labels in the same order, perhaps given in other ways. -/
  additional : List.Forall₂ (fun e' e ↦ e'.1 = e.1 ∧ e'.2.Interchangeable e.2)
    o'.additional.entries o.additional.entries

/-! ### What is compiled -/

/-- **The expression is the same** however a matcher is given. -/
theorem MatcherInput.Interchangeable.compile_eq {input' input : MatcherInput}
    (h : input'.Interchangeable input) : input'.compile = input.compile := by
  cases h with
  | refl => rfl
  | compiled h => exact h.symm
  | source h => exact h

/-- An expression remembers the text that was given for it. -/
theorem MatcherInput.source_of_compile {input : MatcherInput} {regex : Regex}
    (h : input.compile = .ok regex) : regex.source = input.text := by
  cases input with
  | source text => exact Builtin.source_of_compile h
  | compiled given =>
    obtain rfl := Except.ok.inj h
    rfl

theorem OneOrMany.Reshapes.forall₂_toList {α : Type} {R : α → α → Prop} {as bs : OneOrMany α}
    (h : Reshapes R as bs) : List.Forall₂ R as.toList bs.toList := by
  cases h with
  | one h => exact .cons h .nil
  | many h => exact h
  | wrapped h => exact .cons h .nil
  | unwrapped h => exact .cons h .nil

namespace MatcherSet

theorem compile_of_reshapes {field : MatcherField} {inputs' inputs : OneOrMany MatcherInput}
    (h : OneOrMany.Reshapes MatcherInput.Interchangeable inputs' inputs) :
    compile field inputs' = compile field inputs := by
  rw [compile, compile, mapM_eq_of_forall₂ h.forall₂_toList fun hinput ↦ ?_]
  rw [hinput.compile_eq]

/-- The matchers of an option have the texts that were given. -/
theorem sources_eq {inputs : List MatcherInput} {s : MatcherSet}
    (h : List.Forall₂ (fun input regex ↦ input.compile = .ok regex) inputs s.matchers) :
    s.sources = inputs.map MatcherInput.text :=
  (map_eq_of_forall₂ h fun hregex ↦ (MatcherInput.source_of_compile hregex).symm).symm

end MatcherSet

theorem Pattern.custom_of_interchangeable {label : String} {input' input : MatcherInput}
    (h : input'.Interchangeable input) : custom label input' = custom label input := by
  rw [custom, custom, h.compile_eq]

/-- Whatever has been added before, the rest is added alike. -/
theorem Registry.addCustom_of_interchangeable {entries' entries : List (String × MatcherInput)}
    (h : List.Forall₂ (fun e' e ↦ e'.1 = e.1 ∧ e'.2.Interchangeable e.2) entries' entries)
    (patterns : List Pattern) : addCustom patterns entries' = addCustom patterns entries := by
  induction h generalizing patterns with
  | nil => rfl
  | @cons e' e _ _ he _ ih =>
    obtain ⟨label', input'⟩ := e'
    obtain ⟨label, input⟩ := e
    obtain ⟨rfl, hinput⟩ : label' = label ∧ input'.Interchangeable input := he
    rw [addCustom, addCustom, Pattern.custom_of_interchangeable hinput]
    simp only [ih]

/-! ### Resolving -/

namespace Options

variable {o o' : Options}

/-- **Resolving forgets how matchers were given**, and finds the same fault. -/
theorem resolve_of_reshapes (h : o'.Reshapes o) : o'.resolve = o.resolve := by
  rw [resolve, resolve, h.thresholds, h.minimumLength, h.ignoreModules,
    MatcherSet.compile_of_reshapes h.ignoreContent,
    MatcherSet.compile_of_reshapes h.ignoreIdentifiers, Registry.withAdditional_eq,
    Registry.withAdditional_eq, Registry.addCustom_of_interchangeable h.additional]

/-- **The shape of options is forgotten.** Take options and give any of their matchers as the
compiled expression instead of its text, or the other way round, and any single matcher alone
instead of in a list, or the other way round. If the options could be resolved, then they still can.
Every literal is skipped or not for the same reason and has the same findings. The matchers have the
same texts in the same order, which are those that were given in either way, and the same one is
found for every text. The registry has the same labels and delivers the same patterns for every
text. If the options could not be resolved, then the fault is the same. -/
theorem shape_is_forgotten (h : o'.Reshapes o) :
    o'.resolve = o.resolve ∧
      (∀ config, o.resolve = .ok config → ∃ config', o'.resolve = .ok config' ∧
        (∀ c, Suppression.check config' c = Suppression.check config c ∧
          config'.evaluate c = config.evaluate c) ∧
        (config'.ignoreContent.sources = config.ignoreContent.sources ∧
          config.ignoreContent.sources = o.ignoreContent.toList.map MatcherInput.text ∧
          config'.ignoreContent.sources = o'.ignoreContent.toList.map MatcherInput.text) ∧
        (config'.ignoreIdentifiers.sources = config.ignoreIdentifiers.sources ∧
          config.ignoreIdentifiers.sources = o.ignoreIdentifiers.toList.map MatcherInput.text ∧
          config'.ignoreIdentifiers.sources = o'.ignoreIdentifiers.toList.map MatcherInput.text) ∧
        (∀ text, config'.ignoreContent.find? text = config.ignoreContent.find? text ∧
          config'.ignoreIdentifiers.find? text = config.ignoreIdentifiers.find? text) ∧
        config'.registry.labels = config.registry.labels ∧
        ∀ text, (config'.registry.cursor text).toList = (config.registry.cursor text).toList) ∧
      ∀ fault, o.resolve = .error fault → o'.resolve = .error fault := by
  have hresolve := resolve_of_reshapes h
  refine ⟨hresolve, fun config hconfig ↦ ?_, fun fault hfault ↦ hresolve.trans hfault⟩
  have hdescribes := describes hconfig
  have hdescribes' := describes (hresolve.trans hconfig)
  exact ⟨config, hresolve.trans hconfig, fun c ↦ ⟨rfl, rfl⟩,
    ⟨rfl, MatcherSet.sources_eq hdescribes.ignoreContent,
      MatcherSet.sources_eq hdescribes'.ignoreContent⟩,
    ⟨rfl, MatcherSet.sources_eq hdescribes.ignoreIdentifiers,
      MatcherSet.sources_eq hdescribes'.ignoreIdentifiers⟩,
    fun text ↦ ⟨rfl, rfl⟩, rfl, fun text ↦ rfl⟩

/-- A matcher and an added pattern, given as texts and as expressions. Where a matcher on names
cannot be used, that is the fault in either case. -/
theorem shape_is_forgotten_akia :
    ∃ akia sk config,
      resolve {
        ignoreContent := .one (.source "AKIA")
        additional := ⟨[("Any SK", .source "SK-")], List.nodup_singleton _⟩ } = .ok config ∧
      resolve {
        ignoreContent := .many [.compiled akia]
        additional := ⟨[("Any SK", .compiled sk)], List.nodup_singleton _⟩ } = .ok config ∧
      config.ignoreContent.sources = ["AKIA"] ∧
      resolve {
        ignoreContent := .one (.source "AKIA")
        ignoreIdentifiers := .one (.source "(") } =
          .error (.invalidMatcher .ignoreIdentifiers .malformed) ∧
      resolve {
        ignoreContent := .many [.compiled akia]
        ignoreIdentifiers := .many [.source "("] } =
          .error (.invalidMatcher .ignoreIdentifiers .malformed) := by
  obtain ⟨akia, hakia⟩ : ∃ akia, Regex.compile "AKIA" = .ok akia :=
    ⟨⟨"AKIA", Builtin.chain (Builtin.literal "AKIA")⟩, by decide +kernel⟩
  obtain ⟨sk, hsk⟩ : ∃ sk, Regex.compile "SK-" = .ok sk :=
    ⟨⟨"SK-", Builtin.chain (Builtin.literal "SK-")⟩, by decide +kernel⟩
  have hvalid : IsValid {
      ignoreContent := .one (.source "AKIA")
      additional := ⟨[("Any SK", .source "SK-")], List.nodup_singleton _⟩ } := {
    thresholds := fun alphabet value hvalue ↦ by cases alphabet <;> cases hvalue
    ignoreContent := List.forall_mem_singleton.mpr ⟨akia, hakia⟩
    ignoreIdentifiers := List.forall_mem_nil _
    additional := List.forall_mem_singleton.mpr ⟨by decide, sk, hsk⟩ }
  obtain ⟨config, hconfig⟩ := exists_resolve_iff.mpr hvalid
  have hreshapes : Reshapes {
      ignoreContent := .many [.compiled akia]
      additional := ⟨[("Any SK", .compiled sk)], List.nodup_singleton _⟩ } {
      ignoreContent := .one (.source "AKIA")
      additional := ⟨[("Any SK", .source "SK-")], List.nodup_singleton _⟩ } := {
    thresholds := rfl
    minimumLength := rfl
    ignoreContent := .wrapped (.compiled hakia)
    ignoreIdentifiers := .many .nil
    ignoreModules := rfl
    additional := .cons ⟨rfl, .compiled hsk⟩ .nil }
  obtain ⟨hsame, hfound, -⟩ := shape_is_forgotten hreshapes
  obtain ⟨-, -, -, ⟨-, hsources, -⟩, -⟩ := hfound config hconfig
  have hfault : resolve {
      ignoreContent := .one (.source "AKIA")
      ignoreIdentifiers := .one (.source "(") } =
        .error (.invalidMatcher .ignoreIdentifiers .malformed) := by
    rw [← fault?_eq_some_iff, fault?_resolve]
    decide +kernel
  have hreshapes' : Reshapes {
      ignoreContent := .many [.compiled akia]
      ignoreIdentifiers := .many [.source "("] } {
      ignoreContent := .one (.source "AKIA")
      ignoreIdentifiers := .one (.source "(") } := {
    thresholds := rfl
    minimumLength := rfl
    ignoreContent := .wrapped (.compiled hakia)
    ignoreIdentifiers := .wrapped (.refl _)
    ignoreModules := rfl
    additional := .nil }
  obtain ⟨-, -, hrefused⟩ := shape_is_forgotten hreshapes'
  exact ⟨akia, sk, config, hconfig, hsame.trans hconfig, hsources, hfault, hrefused _ hfault⟩

end Options

end SecretScan
