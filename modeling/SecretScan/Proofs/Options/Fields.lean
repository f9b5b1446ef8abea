import SecretScan.Options
import SecretScan.Proofs.Record

/-!
# The fields of the options

Options are a record of six fields, one of which is a record of thresholds. The notations differ in
what their values mean, and that is all that a `Reading` says; how records are made of members is
the same for all of them. `Options.IsGiven` says field by field what members make of the options,
and it is equivalent to putting the members in one after the other (`Options.puts_iff_isGiven`).
-/

namespace SecretScan

variable {α : Type}

/-- The names of the thresholds, in the order of their fields. -/
def ThresholdOverrides.names : List String := ["hex", "base64", "generic"]

/-- The names of the options, in the order of their fields. -/
def Options.names : List String :=
  ["entropyThresholdsByAlphabet", "minimumLength", "ignoreContent", "ignoreIdentifiers",
    "ignoreModules", "additionalRegexes"]

/-! ### Thresholds -/

/-- The thresholds that members make. -/
structure ThresholdOverrides.IsGiven (threshold : α → Option Binary64 → Prop)
    (ms : List (String × α)) (t : ThresholdOverrides) : Prop where
  /-- For texts of hexadecimal digits. -/
  hex : Given threshold none ms "hex" t.hex
  /-- For texts in base64. -/
  base64 : Given threshold none ms "base64" t.base64
  /-- For all other texts. -/
  generic : Given threshold none ms "generic" t.generic

/-- What a member does to thresholds. -/
inductive ThresholdOverrides.Sets (threshold : α → Option Binary64 → Prop) (name : String) (v : α)
    (t : ThresholdOverrides) : ThresholdOverrides → Prop where
  /-- For texts of hexadecimal digits. -/
  | hex {x : Option Binary64} (hname : name = "hex") (h : threshold v x) :
      Sets threshold name v t { t with hex := x }
  /-- For texts in base64. -/
  | base64 {x : Option Binary64} (hname : name = "base64") (h : threshold v x) :
      Sets threshold name v t { t with base64 := x }
  /-- For all other texts. -/
  | generic {x : Option Binary64} (hname : name = "generic") (h : threshold v x) :
      Sets threshold name v t { t with generic := x }

namespace ThresholdOverrides

variable {threshold : α → Option Binary64 → Prop} {ms ms' : List (String × α)}
  {t t' : ThresholdOverrides}

theorem IsGiven.unique (hms : (ms.map Prod.fst).Nodup)
    (hunique : Relator.RightUnique threshold) (h : t.IsGiven threshold ms)
    (h' : t'.IsGiven threshold ms) : t = t' := by
  obtain ⟨hex, base64, generic⟩ := t
  obtain ⟨hex', base64', generic'⟩ := t'
  rw [mk.injEq]
  exact ⟨h.hex.unique hms hunique h'.hex, h.base64.unique hms hunique h'.base64,
    h.generic.unique hms hunique h'.generic⟩

theorem IsGiven.perm (hperm : ms.Perm ms') (h : t.IsGiven threshold ms) :
    t.IsGiven threshold ms' :=
  ⟨h.hex.perm hperm, h.base64.perm hperm, h.generic.perm hperm⟩

/-- Each threshold is set by the member of its name only. -/
theorem isField_hex : IsField (Sets threshold) "hex" hex threshold where
  set v t t' h := by cases h <;> first | assumption | contradiction
  keep name v t t' hne h := by cases h <;> first | rfl | contradiction

theorem isField_base64 : IsField (Sets threshold) "base64" base64 threshold where
  set v t t' h := by cases h <;> first | assumption | contradiction
  keep name v t t' hne h := by cases h <;> first | rfl | contradiction

theorem isField_generic : IsField (Sets threshold) "generic" generic threshold where
  set v t t' h := by cases h <;> first | assumption | contradiction
  keep name v t t' hne h := by cases h <;> first | rfl | contradiction

theorem isGiven_of_puts (hms : (ms.map Prod.fst).Nodup) (h : Puts (Sets threshold) ms {} t) :
    t.IsGiven threshold ms where
  hex := isField_hex.given hms h
  base64 := isField_base64.given hms h
  generic := isField_generic.given hms h

/-- A member that has the name of a threshold can be put in if its value means one. -/
theorem exists_sets {name : String} (hname : name ∈ names) {v : α} {x : Option Binary64}
    (h : threshold v x) (t : ThresholdOverrides) : ∃ t', Sets threshold name v t t' := by
  simp only [names, List.mem_cons, List.not_mem_nil, or_false] at hname
  rcases hname with hname | hname | hname
  · exact ⟨_, .hex hname h⟩
  · exact ⟨_, .base64 hname h⟩
  · exact ⟨_, .generic hname h⟩

/-- A member that has been put in means a threshold. -/
theorem Sets.exists_threshold {name : String} {v : α} (h : Sets threshold name v t t') :
    ∃ x, threshold v x := by
  cases h with
  | hex _ h => exact ⟨_, h⟩
  | base64 _ h => exact ⟨_, h⟩
  | generic _ h => exact ⟨_, h⟩

theorem IsGiven.exists_threshold (hms : (ms.map Prod.fst).Nodup) (h : t.IsGiven threshold ms)
    {m : String × α} (hm : m ∈ ms) (hname : m.1 ∈ names) : ∃ x, threshold m.2 x := by
  obtain ⟨name, v⟩ := m
  simp only [names, List.mem_cons, List.not_mem_nil, or_false] at hname
  rcases hname with rfl | rfl | rfl
  · exact ⟨_, h.hex.means_of_mem hms hm⟩
  · exact ⟨_, h.base64.means_of_mem hms hm⟩
  · exact ⟨_, h.generic.means_of_mem hms hm⟩

/-- **Thresholds**, put in one after the other or all at once. -/
theorem puts_iff_isGiven (hunique : Relator.RightUnique threshold)
    (hms : (ms.map Prod.fst).Nodup) (hnames : ∀ m ∈ ms, m.1 ∈ names) :
    Puts (Sets threshold) ms {} t ↔ t.IsGiven threshold ms := by
  refine ⟨isGiven_of_puts hms, fun h ↦ ?_⟩
  obtain ⟨t', hputs⟩ : ∃ t', Puts (Sets threshold) ms {} t' := by
    refine exists_puts (fun m hm s ↦ ?_) _
    obtain ⟨x, hx⟩ := h.exists_threshold hms hm (hnames m hm)
    exact exists_sets (hnames m hm) hx s
  rwa [h.unique hms hunique (isGiven_of_puts hms hputs)]

end ThresholdOverrides

/-! ### Options -/

/-- What the values of a notation mean, for each kind of field. No value means two things. -/
structure Reading (α : Type) where
  /-- Thresholds. -/
  thresholds : α → ThresholdOverrides → Prop
  /-- A number of characters, or that there is none. -/
  length : α → Option ℕ → Prop
  /-- Matchers, one or a list. -/
  matchers : α → OneOrMany MatcherInput → Prop
  /-- A truth value. -/
  flag : α → Bool → Prop
  /-- Patterns under labels. -/
  patterns : α → LabelMap MatcherInput → Prop
  /-- Thresholds are determined by the value. -/
  thresholds_unique : Relator.RightUnique thresholds
  /-- So is a number of characters. -/
  length_unique : Relator.RightUnique length
  /-- So are matchers. -/
  matchers_unique : Relator.RightUnique matchers
  /-- So is a truth value. -/
  flag_unique : Relator.RightUnique flag
  /-- So are patterns. -/
  patterns_unique : Relator.RightUnique patterns

/-- The options that members make. -/
structure Options.IsGiven (r : Reading α) (ms : List (String × α)) (o : Options) : Prop where
  /-- Without the member no threshold is replaced. -/
  thresholds : Given r.thresholds {} ms "entropyThresholdsByAlphabet" o.thresholds
  /-- Without the member there is no number. -/
  minimumLength : Given r.length none ms "minimumLength" o.minimumLength
  /-- Without the member the list is empty. -/
  ignoreContent : Given r.matchers (.many []) ms "ignoreContent" o.ignoreContent
  /-- Without the member the list is empty. -/
  ignoreIdentifiers : Given r.matchers (.many []) ms "ignoreIdentifiers" o.ignoreIdentifiers
  /-- Without the member modules are not skipped. -/
  ignoreModules : Given r.flag false ms "ignoreModules" o.ignoreModules
  /-- Without the member no pattern is added. -/
  additional : Given r.patterns {} ms "additionalRegexes" o.additional

/-- What a member does to options. -/
inductive Options.Sets (r : Reading α) (name : String) (v : α) (o : Options) : Options → Prop where
  /-- Sets the thresholds. -/
  | thresholds {t : ThresholdOverrides} (hname : name = "entropyThresholdsByAlphabet")
      (h : r.thresholds v t) : Sets r name v o { o with thresholds := t }
  /-- Sets the number of characters. -/
  | minimumLength {n : Option ℕ} (hname : name = "minimumLength") (h : r.length v n) :
      Sets r name v o { o with minimumLength := n }
  /-- Sets the matchers on texts. -/
  | ignoreContent {m : OneOrMany MatcherInput} (hname : name = "ignoreContent")
      (h : r.matchers v m) : Sets r name v o { o with ignoreContent := m }
  /-- Sets the matchers on names. -/
  | ignoreIdentifiers {m : OneOrMany MatcherInput} (hname : name = "ignoreIdentifiers")
      (h : r.matchers v m) : Sets r name v o { o with ignoreIdentifiers := m }
  /-- Sets whether modules are skipped. -/
  | ignoreModules {b : Bool} (hname : name = "ignoreModules") (h : r.flag v b) :
      Sets r name v o { o with ignoreModules := b }
  /-- Sets the patterns. -/
  | additional {m : LabelMap MatcherInput} (hname : name = "additionalRegexes")
      (h : r.patterns v m) : Sets r name v o { o with additional := m }

namespace Options

variable {r : Reading α} {ms ms' : List (String × α)} {o o' : Options} {name : String} {v : α}

theorem IsGiven.unique (hms : (ms.map Prod.fst).Nodup) (h : o.IsGiven r ms)
    (h' : o'.IsGiven r ms) : o = o' := by
  obtain ⟨t, n, content, identifiers, modules, additional⟩ := o
  obtain ⟨t', n', content', identifiers', modules', additional'⟩ := o'
  rw [mk.injEq]
  exact ⟨h.thresholds.unique hms r.thresholds_unique h'.thresholds,
    h.minimumLength.unique hms r.length_unique h'.minimumLength,
    h.ignoreContent.unique hms r.matchers_unique h'.ignoreContent,
    h.ignoreIdentifiers.unique hms r.matchers_unique h'.ignoreIdentifiers,
    h.ignoreModules.unique hms r.flag_unique h'.ignoreModules,
    h.additional.unique hms r.patterns_unique h'.additional⟩

theorem IsGiven.perm (hperm : ms.Perm ms') (h : o.IsGiven r ms) : o.IsGiven r ms' where
  thresholds := h.thresholds.perm hperm
  minimumLength := h.minimumLength.perm hperm
  ignoreContent := h.ignoreContent.perm hperm
  ignoreIdentifiers := h.ignoreIdentifiers.perm hperm
  ignoreModules := h.ignoreModules.perm hperm
  additional := h.additional.perm hperm

/-- Each field is set by the member of its name only. -/
theorem isField_thresholds :
    IsField (Sets r) "entropyThresholdsByAlphabet" thresholds r.thresholds where
  set v o o' h := by cases h <;> first | assumption | contradiction
  keep name v o o' hne h := by cases h <;> first | rfl | contradiction

theorem isField_minimumLength : IsField (Sets r) "minimumLength" minimumLength r.length where
  set v o o' h := by cases h <;> first | assumption | contradiction
  keep name v o o' hne h := by cases h <;> first | rfl | contradiction

theorem isField_ignoreContent : IsField (Sets r) "ignoreContent" ignoreContent r.matchers where
  set v o o' h := by cases h <;> first | assumption | contradiction
  keep name v o o' hne h := by cases h <;> first | rfl | contradiction

theorem isField_ignoreIdentifiers :
    IsField (Sets r) "ignoreIdentifiers" ignoreIdentifiers r.matchers where
  set v o o' h := by cases h <;> first | assumption | contradiction
  keep name v o o' hne h := by cases h <;> first | rfl | contradiction

theorem isField_ignoreModules : IsField (Sets r) "ignoreModules" ignoreModules r.flag where
  set v o o' h := by cases h <;> first | assumption | contradiction
  keep name v o o' hne h := by cases h <;> first | rfl | contradiction

theorem isField_additional : IsField (Sets r) "additionalRegexes" additional r.patterns where
  set v o o' h := by cases h <;> first | assumption | contradiction
  keep name v o o' hne h := by cases h <;> first | rfl | contradiction

theorem isGiven_of_puts (hms : (ms.map Prod.fst).Nodup) (h : Puts (Sets r) ms {} o) :
    o.IsGiven r ms where
  thresholds := isField_thresholds.given hms h
  minimumLength := isField_minimumLength.given hms h
  ignoreContent := isField_ignoreContent.given hms h
  ignoreIdentifiers := isField_ignoreIdentifiers.given hms h
  ignoreModules := isField_ignoreModules.given hms h
  additional := isField_additional.given hms h

/-- What the members make of the options, each of them does to any options. -/
theorem IsGiven.exists_sets (hms : (ms.map Prod.fst).Nodup) (h : o.IsGiven r ms)
    {m : String × α} (hm : m ∈ ms) (hname : m.1 ∈ names) (s : Options) :
    ∃ s', Sets r m.1 m.2 s s' := by
  obtain ⟨name, v⟩ := m
  simp only [names, List.mem_cons, List.not_mem_nil, or_false] at hname
  rcases hname with rfl | rfl | rfl | rfl | rfl | rfl
  · exact ⟨_, .thresholds rfl (h.thresholds.means_of_mem hms hm)⟩
  · exact ⟨_, .minimumLength rfl (h.minimumLength.means_of_mem hms hm)⟩
  · exact ⟨_, .ignoreContent rfl (h.ignoreContent.means_of_mem hms hm)⟩
  · exact ⟨_, .ignoreIdentifiers rfl (h.ignoreIdentifiers.means_of_mem hms hm)⟩
  · exact ⟨_, .ignoreModules rfl (h.ignoreModules.means_of_mem hms hm)⟩
  · exact ⟨_, .additional rfl (h.additional.means_of_mem hms hm)⟩

/-- **Options**, put in one after the other or all at once. -/
theorem puts_iff_isGiven (hms : (ms.map Prod.fst).Nodup) (hnames : ∀ m ∈ ms, m.1 ∈ names) :
    Puts (Sets r) ms {} o ↔ o.IsGiven r ms := by
  refine ⟨isGiven_of_puts hms, fun h ↦ ?_⟩
  obtain ⟨o', hputs⟩ : ∃ o', Puts (Sets r) ms {} o' :=
    exists_puts (fun m hm ↦ h.exists_sets hms hm (hnames m hm)) {}
  rwa [h.unique hms (isGiven_of_puts hms hputs)]

end Options

end SecretScan
