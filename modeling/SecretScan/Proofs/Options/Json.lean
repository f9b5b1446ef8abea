import SecretScan.Options.Json
import SecretScan.Proofs.Json.Decoder
import SecretScan.Proofs.Json.Document
import SecretScan.Proofs.Options.Fields

/-!
# Options in JSON

Which documents are options, and which options they are. Both questions are about the value of the
document only. `Json.IsOptions` is the grammar of the values, one rule for each kind of field, and
`Options.IsGiven Json.reading` says what the members make of the options:

```
asRecord fields {} v = .ok o  ↔  ∃ ms, Members names v ms ∧ o.IsGiven reading ms
```

Neither looks at the order of members, so it does not count, in the options and in their thresholds
(`Json.Rearranged`); only the patterns are kept in the order of the document.
-/

namespace SecretScan

namespace Json

/-! ### The grammar -/

/-- A threshold is a number or nothing. -/
def IsThreshold (v : Json) : Prop := v = .null ∨ ∃ n, v = .number n

/-- Thresholds are an object or an array of up to three of them. -/
def AreThresholds (v : Json) : Prop :=
  ∃ ms, Members ThresholdOverrides.names v ms ∧ ∀ m ∈ ms, IsThreshold m.2

/-- A length is a whole number of 64 bits or nothing. -/
def IsLength (v : Json) : Prop := v = .null ∨ ∃ n, v = .number (.natural n)

/-- Matchers are a text or an array of texts. -/
def AreMatchers (v : Json) : Prop :=
  (∃ s, v = .string s) ∨ ∃ ss : List String, v = .array (ss.map .string) none

/-- Patterns are an object of texts. -/
def ArePatterns (v : Json) : Prop :=
  ∃ es : List (String × String), v = .object (es.map fun e ↦ (e.1, .string e.2)) none

/-- The values of the options, by their names. -/
inductive IsOption (name : String) (v : Json) : Prop where
  /-- Thresholds. -/
  | thresholds (hname : name = "entropyThresholdsByAlphabet") (h : AreThresholds v)
  /-- A length. -/
  | minimumLength (hname : name = "minimumLength") (h : IsLength v)
  /-- Matchers on texts. -/
  | ignoreContent (hname : name = "ignoreContent") (h : AreMatchers v)
  /-- Matchers on names. -/
  | ignoreIdentifiers (hname : name = "ignoreIdentifiers") (h : AreMatchers v)
  /-- A truth value. -/
  | ignoreModules (hname : name = "ignoreModules") (h : ∃ b, v = .bool b)
  /-- Patterns. -/
  | additional (hname : name = "additionalRegexes") (h : ArePatterns v)

/-- Options are an object of them, or an array of up to six. -/
def IsOptions (v : Json) : Prop :=
  ∃ ms, Members Options.names v ms ∧ ∀ m ∈ ms, IsOption m.1 m.2

/-! ### Other orders -/

/-- The same object with its members in another order. -/
inductive Shuffled : Json → Json → Prop where
  /-- The members are the same. -/
  | object {ms ms' : List (String × Json)} (h : ms.Perm ms') :
      Shuffled (.object ms none) (.object ms' none)

/-- Members of the same name and value; thresholds may come in another order. -/
inductive SameMember : String × Json → String × Json → Prop where
  /-- The same value. -/
  | refl (m : String × Json) : SameMember m m
  /-- The same thresholds. -/
  | thresholds {v v' : Json} (h : Shuffled v v') :
      SameMember ("entropyThresholdsByAlphabet", v) ("entropyThresholdsByAlphabet", v')

/-- The same options with their members, and those of the thresholds, in another order. -/
inductive Rearranged : Json → Json → Prop where
  /-- In an object all members may be moved. -/
  | object {ms ms₁ ms' : List (String × Json)} (hms : List.Forall₂ SameMember ms ms₁)
      (hperm : ms₁.Perm ms') : Rearranged (.object ms none) (.object ms' none)
  /-- In an array the thresholds come first. -/
  | array {v v' : Json} {vs : List Json} (h : Shuffled v v') :
      Rearranged (.array (v :: vs) none) (.array (v' :: vs) none)

theorem Shuffled.symm {v v' : Json} (h : Shuffled v v') : Shuffled v' v := by
  cases h with
  | object h => exact .object h.symm

theorem SameMember.symm {m m' : String × Json} (h : SameMember m m') : SameMember m' m := by
  cases h with
  | refl => exact .refl m
  | thresholds h => exact .thresholds h.symm

theorem SameMember.fst_eq {m m' : String × Json} (h : SameMember m m') : m.1 = m'.1 := by
  cases h <;> rfl

/-- Only thresholds may differ. -/
theorem SameMember.eq_of_ne {name : String} (hname : name ≠ "entropyThresholdsByAlphabet")
    {v v' : Json} (h : SameMember (name, v) (name, v')) : v = v' := by
  cases h with
  | refl => rfl
  | thresholds => exact absurd rfl hname

/-! ### What values mean -/

/-- A threshold, or that there is none. -/
inductive MeansThreshold : Json → Option Binary64 → Prop where
  /-- Nothing is none. -/
  | null : MeansThreshold .null none
  /-- A number is what it is as a binary64 number. -/
  | number (n : Number) : MeansThreshold (.number n) (some n.toBinary64)

/-- Thresholds. -/
def MeansThresholds (v : Json) (t : ThresholdOverrides) : Prop :=
  ∃ ms, Members ThresholdOverrides.names v ms ∧ t.IsGiven MeansThreshold ms

/-- A length, or that there is none. -/
inductive MeansLength : Json → Option ℕ → Prop where
  /-- Nothing is none. -/
  | null : MeansLength .null none
  /-- A whole number is the length. -/
  | natural (n : ℕ) : MeansLength (.number (.natural n)) (some n)

/-- Matchers. -/
inductive MeansMatchers : Json → OneOrMany MatcherInput → Prop where
  /-- A text is one matcher. -/
  | one (s : String) : MeansMatchers (.string s) (.one (.source s))
  /-- An array of texts is a list of them, in order. -/
  | many (ss : List String) :
      MeansMatchers (.array (ss.map .string) none) (.many (ss.map .source))

/-- Patterns: a label keeps the place where it comes first and the text that comes last. -/
inductive MeansPatterns : Json → LabelMap MatcherInput → Prop where
  /-- An object of texts is the map of them. -/
  | object (es : List (String × String)) :
      MeansPatterns (.object (es.map fun e ↦ (e.1, .string e.2)) none)
        (.ofList (es.map fun e ↦ (e.1, .source e.2)))

/-! The grammar and the meanings cover the same values. -/

theorem isThreshold_iff {v : Json} : v.IsThreshold ↔ ∃ x, MeansThreshold v x := by
  constructor
  · rintro (rfl | ⟨n, rfl⟩)
    · exact ⟨none, .null⟩
    · exact ⟨_, .number n⟩
  · rintro ⟨x, - | n⟩
    · exact .inl rfl
    · exact .inr ⟨n, rfl⟩

theorem isLength_iff {v : Json} : v.IsLength ↔ ∃ n, MeansLength v n := by
  constructor
  · rintro (rfl | ⟨n, rfl⟩)
    · exact ⟨none, .null⟩
    · exact ⟨_, .natural n⟩
  · rintro ⟨x, - | n⟩
    · exact .inl rfl
    · exact .inr ⟨n, rfl⟩

theorem areMatchers_iff {v : Json} : v.AreMatchers ↔ ∃ m, MeansMatchers v m := by
  constructor
  · rintro (⟨s, rfl⟩ | ⟨ss, rfl⟩)
    · exact ⟨_, .one s⟩
    · exact ⟨_, .many ss⟩
  · rintro ⟨m, s | ss⟩
    · exact .inl ⟨s, rfl⟩
    · exact .inr ⟨ss, rfl⟩

theorem arePatterns_iff {v : Json} : v.ArePatterns ↔ ∃ m, MeansPatterns v m := by
  constructor
  · rintro ⟨es, rfl⟩
    exact ⟨_, .object es⟩
  · rintro ⟨m, ⟨es⟩⟩
    exact ⟨es, rfl⟩

theorem meansThreshold_unique : Relator.RightUnique MeansThreshold := by
  rintro v x x' ⟨⟩ ⟨⟩ <;> rfl

theorem meansThresholds_unique : Relator.RightUnique MeansThresholds := by
  rintro v t t' ⟨ms, hms, ht⟩ ⟨ms', hms', ht'⟩
  obtain rfl := hms.unique hms'
  exact ht.unique (hms.nodup (by decide)) meansThreshold_unique ht'

theorem meansLength_unique : Relator.RightUnique MeansLength := by
  rintro v n n' ⟨⟩ ⟨⟩ <;> rfl

theorem string_injective : Function.Injective Json.string := fun _ _ h ↦ Json.string.inj h

theorem meansMatchers_unique : Relator.RightUnique MeansMatchers := by
  intro v m m' h h'
  cases h with
  | one s =>
    cases h'
    rfl
  | many ss =>
    generalize hv : Json.array (ss.map .string) none = v at h'
    cases h' with
    | one s => cases hv
    | many ss' =>
      rw [List.map_injective_iff.mpr string_injective (Json.array.inj hv).1]

theorem meansPatterns_unique : Relator.RightUnique MeansPatterns := by
  rintro v m m' ⟨es⟩ h'
  generalize hv : Json.object (es.map fun e ↦ (e.1, .string e.2)) none = v at h'
  obtain ⟨es'⟩ := h'
  have hinj : Function.Injective fun e : String × String ↦ (e.1, Json.string e.2) := by
    rintro ⟨label, s⟩ ⟨label', s'⟩ h
    simpa using h
  rw [List.map_injective_iff.mpr hinj (Json.object.inj hv).1]

/-- What values mean in JSON. -/
def reading : Reading Json where
  thresholds := MeansThresholds
  length := MeansLength
  matchers := MeansMatchers
  flag v b := v = .bool b
  patterns := MeansPatterns
  thresholds_unique := meansThresholds_unique
  length_unique := meansLength_unique
  matchers_unique := meansMatchers_unique
  flag_unique _ _ _ h h' := Json.bool.inj (h.symm.trans h')
  patterns_unique := meansPatterns_unique

end Json

/-! ### Decoding -/

open Json

theorem asThreshold_eq_ok_iff {v : Json} {x : Option Binary64} :
    v.asOption asNumber = .ok x ↔ MeansThreshold v x := by
  rw [asOption_eq_ok_iff]
  constructor
  · rintro (⟨rfl, rfl⟩ | ⟨y, -, hv, rfl⟩)
    · exact .null
    · obtain ⟨n, rfl, rfl⟩ := asNumber_eq_ok_iff.mp hv
      exact .number n
  · rintro (- | n)
    · exact .inl ⟨rfl, rfl⟩
    · exact .inr ⟨_, by simp, rfl, rfl⟩

theorem asLength_eq_ok_iff {v : Json} {n : Option ℕ} :
    v.asOption asSize = .ok n ↔ MeansLength v n := by
  rw [asOption_eq_ok_iff]
  constructor
  · rintro (⟨rfl, rfl⟩ | ⟨k, -, hv, rfl⟩)
    · exact .null
    · obtain rfl := asSize_eq_ok_iff.mp hv
      exact .natural k
  · rintro (- | k)
    · exact .inl ⟨rfl, rfl⟩
    · exact .inr ⟨_, by simp, rfl, rfl⟩

theorem matchersOfJson_eq_ok_iff {v : Json} {m : OneOrMany MatcherInput} :
    matchersOfJson v = .ok m ↔ MeansMatchers v m := by
  rw [matchersOfJson]
  show (_ <$> v.asOneOrMany) = _ ↔ _
  rw [map_eq_ok_iff]
  constructor
  · rintro ⟨b, hb, rfl⟩
    rcases asOneOrMany_eq_ok_iff.mp hb with ⟨s, rfl, rfl⟩ | ⟨ss, rfl, rfl⟩
    · exact .one s
    · exact .many ss
  · rintro (s | ss)
    · exact ⟨.one s, asOneOrMany_eq_ok_iff.mpr (.inl ⟨s, rfl, rfl⟩), rfl⟩
    · exact ⟨.many ss, asOneOrMany_eq_ok_iff.mpr (.inr ⟨ss, rfl, rfl⟩), rfl⟩

/-- Putting a value into a record succeeds if taking the value apart does. -/
theorem put_eq_ok_iff {β σ : Type} {r : Except JsonFault β} {set : β → σ} {s' : σ} :
    (do return set (← r)) = .ok s' ↔ ∃ b, r = .ok b ∧ s' = set b := by
  rw [bind_eq_ok_iff]
  simp [pure, Except.pure, eq_comm]

theorem ThresholdOverrides.sets_fields_iff {name : String} {v : Json} {t t' : ThresholdOverrides} :
    Field.Sets fields name v t t' ↔ Sets MeansThreshold name v t t' := by
  constructor
  · rintro ⟨f, hf, rfl, hput⟩
    simp only [fields, List.mem_cons, List.not_mem_nil, or_false] at hf
    rcases hf with rfl | rfl | rfl
    · obtain ⟨x, hx, rfl⟩ := put_eq_ok_iff.mp hput
      exact .hex rfl (asThreshold_eq_ok_iff.mp hx)
    · obtain ⟨x, hx, rfl⟩ := put_eq_ok_iff.mp hput
      exact .base64 rfl (asThreshold_eq_ok_iff.mp hx)
    · obtain ⟨x, hx, rfl⟩ := put_eq_ok_iff.mp hput
      exact .generic rfl (asThreshold_eq_ok_iff.mp hx)
  · intro h
    cases h with
    | hex hname h =>
      exact ⟨_, .head _, hname.symm, put_eq_ok_iff.mpr ⟨_, asThreshold_eq_ok_iff.mpr h, rfl⟩⟩
    | base64 hname h =>
      exact ⟨_, .tail _ (.head _), hname.symm,
        put_eq_ok_iff.mpr ⟨_, asThreshold_eq_ok_iff.mpr h, rfl⟩⟩
    | generic hname h =>
      exact ⟨_, .tail _ (.tail _ (.head _)), hname.symm,
        put_eq_ok_iff.mpr ⟨_, asThreshold_eq_ok_iff.mpr h, rfl⟩⟩

theorem ThresholdOverrides.asRecord_eq_ok_iff_puts {v : Json} {t : ThresholdOverrides} :
    v.asRecord fields {} = .ok t ↔
      ∃ ms, Members names v ms ∧ Puts (Sets MeansThreshold) ms {} t := by
  have hsets : Field.Sets fields = Sets MeansThreshold := by
    funext name v t t'
    exact propext sets_fields_iff
  rw [Json.asRecord_eq_ok_iff (by decide), hsets]
  rfl

/-- **Thresholds** in JSON. -/
theorem ThresholdOverrides.asRecord_eq_ok_iff {v : Json} {t : ThresholdOverrides} :
    v.asRecord fields {} = .ok t ↔ MeansThresholds v t := by
  rw [asRecord_eq_ok_iff_puts]
  refine exists_congr fun ms ↦ and_congr_right fun hms ↦ ?_
  exact puts_iff_isGiven meansThreshold_unique (hms.nodup (by decide)) fun _ ↦ hms.mem_names

theorem ThresholdOverrides.exists_asRecord_iff {v : Json} :
    (∃ t, v.asRecord fields {} = .ok t) ↔ AreThresholds v := by
  simp only [asRecord_eq_ok_iff_puts, AreThresholds, isThreshold_iff]
  rw [exists_comm]
  refine exists_congr fun ms ↦ ?_
  rw [exists_and_left]
  refine and_congr_right fun hms ↦ ⟨?_, fun h ↦ ?_⟩
  · rintro ⟨t, hputs⟩ m hm
    obtain ⟨t₁, t₂, hset⟩ := hputs.of_mem hm
    exact hset.exists_threshold
  · refine exists_puts (fun m hm t ↦ ?_) _
    obtain ⟨x, hx⟩ := h m hm
    exact exists_sets (hms.mem_names hm) hx t

namespace Options

theorem sets_fields_iff {name : String} {v : Json} {o o' : Options} :
    Field.Sets fields name v o o' ↔ Sets reading name v o o' := by
  constructor
  · rintro ⟨f, hf, rfl, hput⟩
    simp only [fields, List.mem_cons, List.not_mem_nil, or_false] at hf
    rcases hf with rfl | rfl | rfl | rfl | rfl | rfl
    · obtain ⟨t, ht, rfl⟩ := put_eq_ok_iff.mp hput
      exact .thresholds rfl (ThresholdOverrides.asRecord_eq_ok_iff.mp ht)
    · obtain ⟨n, hn, rfl⟩ := put_eq_ok_iff.mp hput
      exact .minimumLength rfl (asLength_eq_ok_iff.mp hn)
    · obtain ⟨m, hm, rfl⟩ := put_eq_ok_iff.mp hput
      exact .ignoreContent rfl (matchersOfJson_eq_ok_iff.mp hm)
    · obtain ⟨m, hm, rfl⟩ := put_eq_ok_iff.mp hput
      exact .ignoreIdentifiers rfl (matchersOfJson_eq_ok_iff.mp hm)
    · obtain ⟨b, hb, rfl⟩ := put_eq_ok_iff.mp hput
      exact .ignoreModules rfl (asBool_eq_ok_iff.mp hb)
    · obtain ⟨es, hes, rfl⟩ := put_eq_ok_iff.mp hput
      obtain rfl := asMembers_asString_eq_ok_iff.mp hes
      exact .additional rfl (.object es)
  · -- A field is named by its place among the fields.
    have hfield {i : ℕ} (hi : i < fields.length) (hname : name = (fields.get ⟨i, hi⟩).name)
        (hput : (fields.get ⟨i, hi⟩).put v o = .ok o') : Field.Sets fields name v o o' :=
      ⟨_, List.get_mem _ _, hname.symm, hput⟩
    intro h
    cases h with
    | thresholds hname h =>
      exact hfield (i := 0) (by decide) hname
        (put_eq_ok_iff.mpr ⟨_, ThresholdOverrides.asRecord_eq_ok_iff.mpr h, rfl⟩)
    | minimumLength hname h =>
      exact hfield (i := 1) (by decide) hname
        (put_eq_ok_iff.mpr ⟨_, asLength_eq_ok_iff.mpr h, rfl⟩)
    | ignoreContent hname h =>
      exact hfield (i := 2) (by decide) hname
        (put_eq_ok_iff.mpr ⟨_, matchersOfJson_eq_ok_iff.mpr h, rfl⟩)
    | ignoreIdentifiers hname h =>
      exact hfield (i := 3) (by decide) hname
        (put_eq_ok_iff.mpr ⟨_, matchersOfJson_eq_ok_iff.mpr h, rfl⟩)
    | ignoreModules hname h =>
      exact hfield (i := 4) (by decide) hname
        (put_eq_ok_iff.mpr ⟨_, asBool_eq_ok_iff.mpr h, rfl⟩)
    | additional hname h =>
      obtain ⟨es⟩ := h
      exact hfield (i := 5) (by decide) hname
        (put_eq_ok_iff.mpr ⟨es, asMembers_asString_eq_ok_iff.mpr rfl, rfl⟩)

theorem asRecord_eq_ok_iff_puts {v : Json} {o : Options} :
    v.asRecord fields {} = .ok o ↔ ∃ ms, Members names v ms ∧ Puts (Sets reading) ms {} o := by
  have hsets : Field.Sets fields = Sets reading := by
    funext name v o o'
    exact propext sets_fields_iff
  rw [Json.asRecord_eq_ok_iff (by decide), hsets]
  rfl

/-- **Options** in JSON, field by field. -/
theorem asRecord_eq_ok_iff {v : Json} {o : Options} :
    v.asRecord fields {} = .ok o ↔ ∃ ms, Members names v ms ∧ o.IsGiven reading ms := by
  rw [asRecord_eq_ok_iff_puts]
  refine exists_congr fun ms ↦ and_congr_right fun hms ↦ ?_
  exact puts_iff_isGiven (hms.nodup (by decide)) fun _ ↦ hms.mem_names

/-- A member can be put in if it has the name of a field and a value of its kind. -/
theorem exists_sets_iff {name : String} {v : Json} {o : Options} :
    (∃ o', Sets reading name v o o') ↔ IsOption name v := by
  have hthresholds {v : Json} : v.AreThresholds ↔ ∃ t, MeansThresholds v t := by
    simp only [← ThresholdOverrides.exists_asRecord_iff, ThresholdOverrides.asRecord_eq_ok_iff]
  constructor
  · rintro ⟨o', h⟩
    cases h with
    | thresholds hname h => exact .thresholds hname (hthresholds.mpr ⟨_, h⟩)
    | minimumLength hname h => exact .minimumLength hname (isLength_iff.mpr ⟨_, h⟩)
    | ignoreContent hname h => exact .ignoreContent hname (areMatchers_iff.mpr ⟨_, h⟩)
    | ignoreIdentifiers hname h => exact .ignoreIdentifiers hname (areMatchers_iff.mpr ⟨_, h⟩)
    | ignoreModules hname h => exact .ignoreModules hname ⟨_, h⟩
    | additional hname h => exact .additional hname (arePatterns_iff.mpr ⟨_, h⟩)
  · intro h
    cases h with
    | thresholds hname h =>
      obtain ⟨t, ht⟩ := hthresholds.mp h
      exact ⟨_, .thresholds hname ht⟩
    | minimumLength hname h =>
      obtain ⟨n, hn⟩ := isLength_iff.mp h
      exact ⟨_, .minimumLength hname hn⟩
    | ignoreContent hname h =>
      obtain ⟨m, hm⟩ := areMatchers_iff.mp h
      exact ⟨_, .ignoreContent hname hm⟩
    | ignoreIdentifiers hname h =>
      obtain ⟨m, hm⟩ := areMatchers_iff.mp h
      exact ⟨_, .ignoreIdentifiers hname hm⟩
    | ignoreModules hname h =>
      obtain ⟨b, hb⟩ := h
      exact ⟨_, .ignoreModules hname hb⟩
    | additional hname h =>
      obtain ⟨m, hm⟩ := arePatterns_iff.mp h
      exact ⟨_, .additional hname hm⟩

/-- **Acceptance.** Of the values exactly those of the grammar are options. -/
theorem exists_asRecord_iff {v : Json} : (∃ o, v.asRecord fields {} = .ok o) ↔ v.IsOptions := by
  simp only [asRecord_eq_ok_iff_puts, IsOptions]
  rw [exists_comm]
  refine exists_congr fun ms ↦ ?_
  rw [exists_and_left]
  exact and_congr_right fun _ ↦ exists_puts_iff (P := IsOption) (fun _ _ _ ↦ exists_sets_iff) _

/-! ### Other orders -/

/-- The members of thresholds may come in any order. -/
theorem meansThresholds_of_shuffled {v v' : Json} (h : Shuffled v v') {t : ThresholdOverrides}
    (ht : MeansThresholds v t) : MeansThresholds v' t := by
  obtain ⟨hperm⟩ := h
  obtain ⟨ms, hms, ht⟩ := ht
  obtain ⟨hnodup, hnames⟩ := hms
  refine ⟨_, .object ?_ fun m hm ↦ hnames m (hperm.mem_iff.mpr hm), ht.perm hperm⟩
  exact (hperm.map Prod.fst).nodup_iff.mp hnodup

theorem isGiven_of_sameMember {ms ms' : List (String × Json)}
    (h : List.Forall₂ SameMember ms ms') {o : Options} (ho : o.IsGiven reading ms) :
    o.IsGiven reading ms' where
  thresholds := ho.thresholds.of_forall₂ SameMember.fst_eq h fun hsame ht ↦ by
    cases hsame with
    | refl => exact ht
    | thresholds hshuffled => exact meansThresholds_of_shuffled hshuffled ht
  minimumLength := ho.minimumLength.of_forall₂ SameMember.fst_eq h fun hsame hn ↦
    hsame.eq_of_ne (by decide) ▸ hn
  ignoreContent := ho.ignoreContent.of_forall₂ SameMember.fst_eq h fun hsame hm ↦
    hsame.eq_of_ne (by decide) ▸ hm
  ignoreIdentifiers := ho.ignoreIdentifiers.of_forall₂ SameMember.fst_eq h fun hsame hm ↦
    hsame.eq_of_ne (by decide) ▸ hm
  ignoreModules := ho.ignoreModules.of_forall₂ SameMember.fst_eq h fun hsame hb ↦
    hsame.eq_of_ne (by decide) ▸ hb
  additional := ho.additional.of_forall₂ SameMember.fst_eq h fun hsame hm ↦
    hsame.eq_of_ne (by decide) ▸ hm

/-- Members of the same names and values make the same options. -/
theorem asRecord_of_sameMember {ms ms' : List (String × Json)}
    (h : List.Forall₂ SameMember ms ms') {o : Options}
    (ho : asRecord fields {} (.object ms none) = .ok o) :
    asRecord fields {} (.object ms' none) = .ok o := by
  rw [asRecord_eq_ok_iff] at ho ⊢
  obtain ⟨_, ⟨hnodup, hnames⟩, ho⟩ := ho
  have hfst : ms.map Prod.fst = ms'.map Prod.fst := map_eq_of_forall₂ h SameMember.fst_eq
  refine ⟨ms', .object (hfst ▸ hnodup) fun m' hm' ↦ ?_, isGiven_of_sameMember h ho⟩
  obtain ⟨m, hm, hsame⟩ := exists_left_of_mem h hm'
  exact hsame.fst_eq ▸ hnames m hm

/-- So do the same members in another order. -/
theorem asRecord_of_perm {ms ms' : List (String × Json)} (h : ms.Perm ms') {o : Options}
    (ho : asRecord fields {} (.object ms none) = .ok o) :
    asRecord fields {} (.object ms' none) = .ok o := by
  rw [asRecord_eq_ok_iff] at ho ⊢
  obtain ⟨_, ⟨hnodup, hnames⟩, ho⟩ := ho
  refine ⟨ms', .object ?_ fun m hm ↦ hnames m (h.mem_iff.mpr hm), ho.perm h⟩
  exact (h.map Prod.fst).nodup_iff.mp hnodup

/-- Thresholds in another order make the same options in an array, too. -/
theorem asRecord_of_shuffled {v v' : Json} (h : Shuffled v v') {vs : List Json} {o : Options}
    (ho : asRecord fields {} (.array (v :: vs) none) = .ok o) :
    asRecord fields {} (.array (v' :: vs) none) = .ok o := by
  rw [asRecord_eq_ok_iff] at ho ⊢
  obtain ⟨_, ⟨⟩ | ⟨hlength⟩, ho⟩ := ho
  refine ⟨_, .array hlength, isGiven_of_sameMember ?_ ho⟩
  exact .cons (.thresholds h) (List.forall₂_same.mpr fun m _ ↦ .refl m)

/-- **The order of members** does not count. -/
theorem asRecord_iff_of_rearranged {v v' : Json} (h : Rearranged v v') {o : Options} :
    asRecord fields {} v' = .ok o ↔ asRecord fields {} v = .ok o := by
  cases h with
  | object hms hperm =>
    have hback := hms.flip.imp fun _ _ ↦ SameMember.symm
    exact ⟨fun ho ↦ asRecord_of_sameMember hback (asRecord_of_perm hperm.symm ho),
      fun ho ↦ asRecord_of_perm hperm (asRecord_of_sameMember hms ho)⟩
  | array h => exact ⟨asRecord_of_shuffled h.symm, asRecord_of_shuffled h⟩

/-! ### Documents -/

/-- Patterns stay in the order of the document if no label comes twice. -/
theorem entries_additional {v : Json} {o : Options} (ho : v.asRecord fields {} = .ok o)
    {ms : List (String × Json)} (hms : Members names v ms) {es : List (String × String)}
    (hes : ("additionalRegexes", .object (es.map fun e ↦ (e.1, .string e.2)) none) ∈ ms)
    (hlabels : (es.map Prod.fst).Nodup) :
    o.additional.entries = es.map fun e ↦ (e.1, .source e.2) := by
  obtain ⟨ms', hms', hgiven⟩ := asRecord_eq_ok_iff.mp ho
  obtain rfl := hms.unique hms'
  have hmeans := hgiven.additional.means_of_mem (hms.nodup (by decide)) hes
  rw [meansPatterns_unique hmeans (.object es)]
  refine LabelMap.entries_ofList ?_
  rwa [List.map_map]

/-- **Reading options from JSON.** A document is read exactly if its value is one of the grammar:
an object of members, none of which comes twice or has a name that is none of the six, or an array
of up to six values, and each value is of the kind of its field. A length is nothing or a whole
number without sign, fraction and exponent that fits 64 bits. What has been read holds the defaults
where no member is given and otherwise what the values mean; patterns whose labels differ stay in
the order of the document, and no other order counts. -/
theorem ofJson_spec {v : Json} {text : String} (h : Json.IsDocument v text.toList) :
    ((∃ o, ofJson text = .ok o) ↔ v.IsOptions) ∧
      (∀ o, ofJson text = .ok o ↔ ∃ ms, Members names v ms ∧ o.IsGiven reading ms) ∧
      (∀ o ms (es : List (String × String)), ofJson text = .ok o → Members names v ms →
        ("additionalRegexes", .object (es.map fun e ↦ (e.1, .string e.2)) none) ∈ ms →
        (es.map Prod.fst).Nodup → o.additional.entries = es.map fun e ↦ (e.1, .source e.2)) ∧
      (∀ v' text', Json.IsDocument v' text'.toList → Rearranged v v' →
        ∀ o, ofJson text' = .ok o ↔ ofJson text = .ok o) ∧
      ∀ room k cs, Spells room (.value (.number (.natural k))) cs ↔ ∃ n : Numeral, cs = n.text ∧
        n.isNegative = false ∧ n.isWhole = true ∧ n.whole.value = k ∧
          k < 0x10000000000000000 := by
  have hread {v : Json} {text : String} (h : Json.IsDocument v text.toList) :
      ofJson text = v.asRecord fields {} := decode_of_isDocument h _
  refine ⟨?_, fun o ↦ ?_, fun o ms es ho ↦ ?_, fun v' text' h' hv o ↦ ?_, fun room k cs ↦ ?_⟩
  · rw [hread h]
    exact exists_asRecord_iff
  · rw [hread h]
    exact asRecord_eq_ok_iff
  · rw [hread h] at ho
    exact fun hms hes hlabels ↦ entries_additional ho hms hes hlabels
  · rw [hread h, hread h']
    exact asRecord_iff_of_rearranged hv
  · exact spells_natural_iff

/-- A document that gives two of the options. -/
theorem ofJson_length_and_matcher :
    ofJson "\x7b\"minimumLength\": 16, \"ignoreContent\": \"^ABC\"\x7d" =
      .ok { minimumLength := some 16, ignoreContent := .one (.source "^ABC") } := by
  have hn : (Numeral.ofNat 16).json = .ok (.natural 16) :=
    Numeral.json_eq_natural_iff.mpr ⟨rfl, rfl, Numeral.value_whole_ofNat 16, by decide⟩
  have hspace : Json.Blank [' '] := by decide
  have hdocument : Json.IsDocument
      (.object [("minimumLength", .number (.natural 16)), ("ignoreContent", .string "^ABC")] none)
      "\x7b\"minimumLength\": 16, \"ignoreContent\": \"^ABC\"\x7d".toList := by
    refine ⟨[], [], _, blank_nil, blank_nil, .object (.member blank_nil blank_nil blank_nil hspace
      (spellsText_flatMap_escape _) (.number hn) (.member blank_nil hspace blank_nil hspace
        (spellsText_flatMap_escape _) (.string (spellsText_flatMap_escape _))
        (.noMember blank_nil))), ?_⟩
    decide +kernel
  refine ((ofJson_spec hdocument).2.1 _).mpr ⟨_, .object (by decide) ?_, ?_⟩
  · simp [names]
  · exact {
      thresholds := .absent (by decide)
      minimumLength := .member (.head _) (.natural 16)
      ignoreContent := .member (.tail _ (.head _)) (.one "^ABC")
      ignoreIdentifiers := .absent (by decide)
      ignoreModules := .absent (by decide)
      additional := .absent (by decide) }

end Options

end SecretScan
