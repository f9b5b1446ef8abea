import SecretScan.Options.Toml
import SecretScan.Proofs.Options.Fields
import SecretScan.Proofs.Toml.Document

/-!
# Options from TOML

What the values of a TOML document mean to options (`Toml.reading`), and that the keys of the
document, no two of which are the same, are put into the record one after the other: the document is
read exactly if its keys are names of options, and then the options are those that its members make
(`Options.putMembers_eq_some_iff`).
-/

namespace SecretScan

namespace Toml

variable {σ : Type} {fields : List (Field σ)} {s s' : σ}

/-- What a field of a record does with the value of a key. -/
def Field.Sets (fields : List (Field σ)) (name : String) (v : Toml) (s s' : σ) : Prop :=
  ∃ f, (fields.find? fun f ↦ f.name == name) = some f ∧ f.put v s = some s'

/-- **The members of a table** are put in one after the other. -/
theorem putMembers_eq_some_iff {ms : List (String × Toml)} :
    putMembers fields ms s = some s' ↔ Puts (Field.Sets fields) ms s s' := by
  induction ms generalizing s with
  | nil =>
    rw [putMembers, Option.some.injEq]
    constructor
    · rintro rfl
      exact .nil
    · rintro ⟨⟩
      rfl
  | cons m ms ih =>
    obtain ⟨name, v⟩ := m
    rw [putMembers]
    simp only [Option.bind_eq_bind, Option.bind_eq_some_iff]
    constructor
    · rintro ⟨f, hf, s₁, hput, hrest⟩
      exact .cons ⟨f, hf, hput⟩ (ih.mp hrest)
    · rintro (⟨⟩ | ⟨⟨f, hf, hput⟩, hputs⟩)
      exact ⟨f, hf, _, hput, ih.mpr hputs⟩

/-- A number is a threshold. -/
def MeansThreshold (v : Toml) (x : Option Binary64) : Prop := v.asNumber?.map some = some x

theorem meansThreshold_unique : Relator.RightUnique MeansThreshold := fun _ _ _ h h' ↦
  Option.some.inj (h.symm.trans h')

/-- Patterns under labels, in the order of the labels. -/
def MeansPatterns (v : Toml) (m : LabelMap MatcherInput) : Prop :=
  ∃ es, v.asMembers? = some es ∧ m = .ofList (es.map fun e ↦ (e.1, .source e.2))

/-- What the values of a TOML document mean. -/
def reading : Reading Toml where
  thresholds v t := v.asRecord? ThresholdOverrides.keys {} = some t
  length v n := v.asSize?.map some = some n
  matchers v m := matchersOfToml? v = some m
  flag v b := v.asBool? = some b
  patterns := MeansPatterns
  thresholds_unique _ _ _ h h' := Option.some.inj (h.symm.trans h')
  length_unique _ _ _ h h' := Option.some.inj (h.symm.trans h')
  matchers_unique _ _ _ h h' := Option.some.inj (h.symm.trans h')
  flag_unique _ _ _ h h' := Option.some.inj (h.symm.trans h')
  patterns_unique := by
    rintro v m m' ⟨es, hes, rfl⟩ ⟨es', hes', rfl⟩
    rw [Option.some.inj (hes.symm.trans hes')]

end Toml

/-- A field of a record is set by putting a value in. -/
theorem bind_pure_eq_some_iff {α σ : Type} {a? : Option α} {f : α → σ} {s' : σ} :
    (a?.bind fun a ↦ some (f a)) = some s' ↔ ∃ a, a? = some a ∧ f a = s' := by
  simp [Option.bind_eq_some_iff]

namespace ThresholdOverrides

variable {name : String} {v : Toml} {t t' : ThresholdOverrides}

theorem sets_keys_iff :
    Toml.Field.Sets keys name v t t' ↔ Sets Toml.MeansThreshold name v t t' := by
  constructor
  · rintro ⟨f, hf, hput⟩
    have hname : f.name = name := by simpa using List.find?_some hf
    have hmem : f ∈ keys := List.mem_of_find?_eq_some hf
    simp only [keys, List.mem_cons, List.not_mem_nil, or_false] at hmem
    rcases hmem with rfl | rfl | rfl
    · obtain ⟨x, hx, rfl⟩ := bind_pure_eq_some_iff.mp hput
      exact .hex hname.symm (by rw [Toml.MeansThreshold, hx]; rfl)
    · obtain ⟨x, hx, rfl⟩ := bind_pure_eq_some_iff.mp hput
      exact .base64 hname.symm (by rw [Toml.MeansThreshold, hx]; rfl)
    · obtain ⟨x, hx, rfl⟩ := bind_pure_eq_some_iff.mp hput
      exact .generic hname.symm (by rw [Toml.MeansThreshold, hx]; rfl)
  · intro h
    cases h with
    | hex hname h =>
      obtain ⟨x, hx, rfl⟩ := Option.map_eq_some_iff.mp h
      exact ⟨_, by rw [hname]; rfl, bind_pure_eq_some_iff.mpr ⟨x, hx, rfl⟩⟩
    | base64 hname h =>
      obtain ⟨x, hx, rfl⟩ := Option.map_eq_some_iff.mp h
      exact ⟨_, by rw [hname]; rfl, bind_pure_eq_some_iff.mpr ⟨x, hx, rfl⟩⟩
    | generic hname h =>
      obtain ⟨x, hx, rfl⟩ := Option.map_eq_some_iff.mp h
      exact ⟨_, by rw [hname]; rfl, bind_pure_eq_some_iff.mpr ⟨x, hx, rfl⟩⟩

/-- **Thresholds** of a table. -/
theorem asRecord?_of_isGiven {ms : List (String × Toml)} (hms : (ms.map Prod.fst).Nodup)
    (hnames : ∀ m ∈ ms, m.1 ∈ names) (h : t.IsGiven Toml.MeansThreshold ms) :
    (Toml.table ms).asRecord? keys {} = some t := by
  have hsets : Toml.Field.Sets keys = Sets Toml.MeansThreshold := by
    funext name v t t'
    exact propext sets_keys_iff
  show Toml.putMembers keys ms {} = some t
  rw [Toml.putMembers_eq_some_iff, hsets]
  exact (puts_iff_isGiven Toml.meansThreshold_unique hms hnames).mpr h

end ThresholdOverrides

namespace Options

variable {name : String} {v : Toml} {o o' : Options}

theorem sets_keys_iff : Toml.Field.Sets keys name v o o' ↔ Sets Toml.reading name v o o' := by
  constructor
  · rintro ⟨f, hf, hput⟩
    have hname : f.name = name := by simpa using List.find?_some hf
    have hmem : f ∈ keys := List.mem_of_find?_eq_some hf
    simp only [keys, List.mem_cons, List.not_mem_nil, or_false] at hmem
    rcases hmem with rfl | rfl | rfl | rfl | rfl | rfl
    · obtain ⟨t, ht, rfl⟩ := bind_pure_eq_some_iff.mp hput
      exact .thresholds hname.symm ht
    · obtain ⟨n, hn, rfl⟩ := bind_pure_eq_some_iff.mp hput
      exact .minimumLength hname.symm (by show Option.map _ _ = _; rw [hn]; rfl)
    · obtain ⟨m, hm, rfl⟩ := bind_pure_eq_some_iff.mp hput
      exact .ignoreContent hname.symm hm
    · obtain ⟨m, hm, rfl⟩ := bind_pure_eq_some_iff.mp hput
      exact .ignoreIdentifiers hname.symm hm
    · obtain ⟨b, hb, rfl⟩ := bind_pure_eq_some_iff.mp hput
      exact .ignoreModules hname.symm hb
    · obtain ⟨es, hes, rfl⟩ := bind_pure_eq_some_iff.mp hput
      exact .additional hname.symm ⟨es, hes, rfl⟩
  · intro h
    cases h with
    | thresholds hname h =>
      exact ⟨_, by rw [hname]; rfl, bind_pure_eq_some_iff.mpr ⟨_, h, rfl⟩⟩
    | minimumLength hname h =>
      obtain ⟨n, hn, rfl⟩ := Option.map_eq_some_iff.mp h
      exact ⟨_, by rw [hname]; rfl, bind_pure_eq_some_iff.mpr ⟨n, hn, rfl⟩⟩
    | ignoreContent hname h =>
      exact ⟨_, by rw [hname]; rfl, bind_pure_eq_some_iff.mpr ⟨_, h, rfl⟩⟩
    | ignoreIdentifiers hname h =>
      exact ⟨_, by rw [hname]; rfl, bind_pure_eq_some_iff.mpr ⟨_, h, rfl⟩⟩
    | ignoreModules hname h =>
      exact ⟨_, by rw [hname]; rfl, bind_pure_eq_some_iff.mpr ⟨_, h, rfl⟩⟩
    | additional hname h =>
      obtain ⟨es, hes, rfl⟩ := h
      exact ⟨_, by rw [hname]; rfl, bind_pure_eq_some_iff.mpr ⟨es, hes, rfl⟩⟩

/-- **Options** of a table, field by field. -/
theorem putMembers_eq_some_iff {ms : List (String × Toml)} (hms : (ms.map Prod.fst).Nodup)
    (hnames : ∀ m ∈ ms, m.1 ∈ names) :
    Toml.putMembers keys ms {} = some o ↔ o.IsGiven Toml.reading ms := by
  have hsets : Toml.Field.Sets keys = Sets Toml.reading := by
    funext name v o o'
    exact propext sets_keys_iff
  rw [Toml.putMembers_eq_some_iff, hsets]
  exact puts_iff_isGiven hms hnames

/-- **Reading options from TOML.** -/
theorem ofToml?_eq_some_iff {ms : List (String × Toml)} {text : String}
    (h : Toml.IsDocument ms text.toList) (hnames : ∀ m ∈ ms, m.1 ∈ names) :
    ofToml? text = some o ↔ o.IsGiven Toml.reading ms := by
  have hms : (ms.map Prod.fst).Nodup := by
    obtain ⟨-, -, -, hnodup, -⟩ := h
    exact hnodup
  rw [ofToml?, Toml.read_of_isDocument h]
  exact putMembers_eq_some_iff hms hnames

end Options

end SecretScan
