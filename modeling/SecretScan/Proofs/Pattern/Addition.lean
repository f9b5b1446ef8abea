import SecretScan.Proofs.Pattern.Builtin

/-!
# Added patterns

`Registry.addCustom` looks at each label against everything that stands in the list so far, the
patterns it has just added included. The labels to be added stand once each, so what it has added
never gets in the way of what is still to come (`entryFault?_of_ne`), and an entry can be judged by
itself: against the labels that were there before the first addition.

```
fault? (addCustom patterns entries)    = (entries.filterMap (entryFault? labels)).head?
addCustom patterns entries             = patterns ++ one pattern for each entry, in order
addCustom patterns (entries ++ more)   = addCustom patterns entries >>= (addCustom · more)
```
-/

namespace SecretScan

/-- A matcher that can be used. -/
def MatcherInput.Compiles (input : MatcherInput) : Prop := ∃ regex, input.compile = .ok regex

theorem MatcherInput.compiles_iff {input : MatcherInput} :
    input.Compiles ↔ fault? input.compile = none := fault?_eq_none_iff.symm

namespace Registry

/-- What is wrong with an entry to be added, if anything is, where some labels are taken. A label
that is taken comes before an expression that cannot be used. -/
def entryFault? (taken : List String) (e : String × MatcherInput) : Option Fault :=
  if e.1 ∈ taken then some (.duplicateLabel e.1)
  else (fault? e.2.compile).map (.invalidPattern e.1)

theorem entryFault?_eq_none_iff {taken : List String} {e : String × MatcherInput} :
    entryFault? taken e = none ↔ e.1 ∉ taken ∧ e.2.Compiles := by
  rw [entryFault?, MatcherInput.compiles_iff]
  split
  · next h => simp [h]
  · next h => simp [h]

theorem entryFault?_eq_some_iff {taken : List String} {e : String × MatcherInput} {fault : Fault} :
    entryFault? taken e = some fault ↔
      e.1 ∈ taken ∧ fault = .duplicateLabel e.1 ∨
        e.1 ∉ taken ∧ ∃ cause, e.2.compile = .error cause ∧ fault = .invalidPattern e.1 cause := by
  rw [entryFault?]
  split
  · next h => simp [h, eq_comm]
  · next h =>
    simp only [Option.map_eq_some_iff, fault?_eq_some_iff, h, false_and, not_false_eq_true,
      true_and, false_or]
    exact exists_congr fun cause ↦ and_congr_right fun _ ↦ eq_comm

/-- Another label does not matter. -/
theorem entryFault?_of_ne {taken : List String} {label : String} {e : String × MatcherInput}
    (h : e.1 ≠ label) : entryFault? (taken ++ [label]) e = entryFault? taken e := by
  have hmem : e.1 ∈ taken ++ [label] ↔ e.1 ∈ taken := by
    rw [List.mem_append, List.mem_singleton, or_iff_left h]
  rw [entryFault?, entryFault?]
  simp only [hmem]

theorem custom_eq_ok {label : String} {input : MatcherInput} {regex : Regex}
    (h : input.compile = .ok regex) :
    Pattern.custom label input =
      .ok { label, group := .custom, description := label, regex, keywords := [] } := by
  rw [Pattern.custom, h]
  rfl

theorem label_of_custom {label : String} {input : MatcherInput} {p : Pattern}
    (h : Pattern.custom label input = .ok p) : p.label = label := by
  obtain ⟨regex, -, hp⟩ := bind_eq_ok_iff.mp h
  obtain rfl := Except.ok.inj hp
  rfl

theorem keywords_of_custom {label : String} {input : MatcherInput} {p : Pattern}
    (h : Pattern.custom label input = .ok p) : p.keywords = [] := by
  obtain ⟨regex, -, hp⟩ := bind_eq_ok_iff.mp h
  obtain rfl := Except.ok.inj hp
  rfl

theorem compile_of_custom {label : String} {input : MatcherInput} {p : Pattern}
    (h : Pattern.custom label input = .ok p) : input.compile = .ok p.regex := by
  obtain ⟨regex, hregex, hp⟩ := bind_eq_ok_iff.mp h
  obtain rfl := Except.ok.inj hp
  exact mapError_eq_ok_iff.mp hregex

theorem map_label_added {entries : List (String × MatcherInput)} {added : List Pattern}
    (h : List.Forall₂ (fun e p ↦ Pattern.custom e.1 e.2 = .ok p) entries added) :
    added.map Pattern.label = entries.map Prod.fst :=
  (map_eq_of_forall₂ h fun hp ↦ (label_of_custom hp).symm).symm

theorem fault?_custom (label : String) (input : MatcherInput) :
    fault? (Pattern.custom label input) = (fault? input.compile).map (.invalidPattern label) := by
  rw [Pattern.custom, ← fault?_mapError]
  cases input.compile <;> rfl

theorem any_label_iff {patterns : List Pattern} {label : String} :
    (patterns.any fun p ↦ p.label == label) = true ↔ label ∈ patterns.map Pattern.label := by
  rw [List.any_eq_true, List.mem_map]
  simp only [beq_iff_eq]

/-- What one entry does: it is at fault, or its pattern is appended. -/
theorem addCustom_cons (patterns : List Pattern) (e : String × MatcherInput)
    (rest : List (String × MatcherInput)) :
    (∃ fault, entryFault? (patterns.map Pattern.label) e = some fault ∧
        addCustom patterns (e :: rest) = .error fault) ∨
      ∃ p, entryFault? (patterns.map Pattern.label) e = none ∧
        Pattern.custom e.1 e.2 = .ok p ∧
        addCustom patterns (e :: rest) = addCustom (patterns ++ [p]) rest := by
  obtain ⟨label, input⟩ := e
  rw [addCustom, entryFault?]
  by_cases htaken : label ∈ patterns.map Pattern.label
  · rw [if_pos htaken, if_pos (any_label_iff.mpr htaken)]
    exact .inl ⟨_, rfl, rfl⟩
  · rw [if_neg htaken, if_neg fun h ↦ htaken (any_label_iff.mp h), ← fault?_custom]
    rcases Pattern.custom label input with fault | p
    · exact .inl ⟨fault, rfl, rfl⟩
    · exact .inr ⟨p, rfl, rfl, rfl⟩

/-- **The faults of an addition.** Each entry is judged against the labels that were there before,
and the first that is at fault counts. -/
theorem fault?_addCustom {patterns : List Pattern} {entries : List (String × MatcherInput)}
    (hentries : (entries.map Prod.fst).Nodup) :
    fault? (addCustom patterns entries) =
      (entries.filterMap (entryFault? (patterns.map Pattern.label))).head? := by
  induction entries generalizing patterns with
  | nil => rfl
  | cons e rest ih =>
    rw [List.map_cons, List.nodup_cons] at hentries
    obtain ⟨hne, hrest⟩ := hentries
    obtain ⟨fault, hfault, heq⟩ | ⟨p, hnone, hp, heq⟩ := addCustom_cons patterns e rest
    · rw [heq, List.filterMap_cons_some hfault]
      rfl
    · -- The label that has just been added differs from those that are left.
      have hsame : ∀ e' ∈ rest,
          entryFault? ((patterns ++ [p]).map Pattern.label) e' =
            entryFault? (patterns.map Pattern.label) e' := fun e' he' ↦ by
        rw [List.map_append, List.map_singleton, label_of_custom hp]
        exact entryFault?_of_ne fun h ↦ hne (List.mem_map.mpr ⟨e', he', h⟩)
      rw [heq, ih hrest, List.filterMap_cons_none hnone, List.filterMap_congr hsame]

/-- **The result of an addition**: what was there, and behind it a pattern for each entry. -/
theorem addCustom_eq_ok {patterns all : List Pattern} {entries : List (String × MatcherInput)}
    (h : addCustom patterns entries = .ok all) :
    ∃ added, all = patterns ++ added ∧
      List.Forall₂ (fun e p ↦ Pattern.custom e.1 e.2 = .ok p) entries added := by
  induction entries generalizing patterns with
  | nil =>
    obtain rfl := Except.ok.inj h
    exact ⟨[], (List.append_nil _).symm, .nil⟩
  | cons e rest ih =>
    obtain ⟨fault, -, heq⟩ | ⟨p, -, hp, heq⟩ := addCustom_cons patterns e rest
    · exact absurd (heq.symm.trans h) (by simp)
    · obtain ⟨added, rfl, hadded⟩ := ih (heq.symm.trans h)
      exact ⟨p :: added, List.append_assoc patterns [p] added, .cons hp hadded⟩

/-- **Adding is done in order**: more entries are added to what the first ones gave. -/
theorem addCustom_append (patterns : List Pattern) (entries more : List (String × MatcherInput)) :
    addCustom patterns (entries ++ more) =
      addCustom patterns entries >>= fun all ↦ addCustom all more := by
  induction entries generalizing patterns with
  | nil => rfl
  | cons e rest ih =>
    rw [List.cons_append, addCustom, addCustom]
    split
    · rfl
    · rcases Pattern.custom e.1 e.2 with fault | p
      · rfl
      · exact ih (patterns ++ [p])

/-- Patterns that can be read and have labels of their own are added. -/
theorem addCustom_of_nodup {patterns added : List Pattern} {entries : List (String × MatcherInput)}
    (hadded : List.Forall₂ (fun e p ↦ Pattern.custom e.1 e.2 = .ok p) entries added)
    (hlabels : ((patterns ++ added).map Pattern.label).Nodup) :
    addCustom patterns entries = .ok (patterns ++ added) := by
  induction hadded generalizing patterns with
  | nil => rw [List.append_nil, addCustom]
  | @cons e p entries added hp _ ih =>
    have hfresh : ¬ (patterns.any fun q ↦ q.label == e.1) = true := by
      rw [any_label_iff, ← label_of_custom hp]
      rw [List.map_append, List.map_cons, List.nodup_append'] at hlabels
      exact fun h ↦ hlabels.2.2 h List.mem_cons_self
    rw [addCustom, if_neg hfresh, hp]
    rw [List.append_cons] at hlabels ⊢
    exact ih hlabels

end Registry

end SecretScan
