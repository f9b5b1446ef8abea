import SecretScan.Finding
import SecretScan.Proofs.Json.Writer

/-!
# Findings in JSON

Findings are forwarded as the text of an array. The array has one object for each finding, in order:

```
highEntropy          {"kind": "high_entropy"}
patternMatch label   {"kind": "pattern_match", "label": label}
```

Labels are those of the host and may hold anything, also what looks like JSON itself. What is read is
the objects all the same (`isDocument_jsonList`), since a document has one value at most and a label
is quoted as one text. As an object tells its finding (`value_injective`), so does the text.
-/

namespace SecretScan.Finding

/-- The object that stands for a finding. -/
def value : Finding → Json
  | .highEntropy => .object [("kind", .string "high_entropy")] none
  | .patternMatch label =>
    .object [("kind", .string "pattern_match"), ("label", .string label)] none

theorem value_injective : Function.Injective value := by
  intro f f' h
  cases f with
  | highEntropy =>
    cases f' with
    | highEntropy => rfl
    | patternMatch => simp [value] at h
  | patternMatch label =>
    cases f' with
    | highEntropy => simp [value] at h
    | patternMatch label' => simpa [value] using h

/-- **One finding** is written as its object. -/
theorem spells_json {room : ℕ} (f : Finding) :
    Json.Spells (room + 1) (.value f.value) f.json.toList := by
  cases f with
  | highEntropy => exact Json.spells_objectText (.cons ⟨rfl, Json.spells_quote _⟩ .nil)
  | patternMatch label =>
    exact Json.spells_objectText
      (.cons ⟨rfl, Json.spells_quote _⟩ (.cons ⟨rfl, Json.spells_quote label⟩ .nil))

theorem spells_jsonList {room : ℕ} (fs : List Finding) :
    Json.Spells (room + 2) (.value (.array (fs.map value) none)) (jsonList fs).toList := by
  refine Json.spells_arrayText ?_
  rw [List.forall₂_map_left_iff, List.forall₂_map_right_iff, List.forall₂_same]
  exact fun f _ ↦ f.spells_json

theorem isDocument_jsonList (fs : List Finding) :
    Json.IsDocument (.array (fs.map value) none) (jsonList fs).toList :=
  ⟨[], [], _, Json.blank_nil, Json.blank_nil, spells_jsonList fs, (List.append_nil _).symm⟩

theorem jsonList_injective : Function.Injective jsonList := by
  intro fs fs' h
  have hvalue := (isDocument_jsonList fs).unique (h ▸ isDocument_jsonList fs')
  exact value_injective.list_map (Json.array.inj hvalue).1

/-- **Forwarded findings lose nothing.** The text of a list of findings is a JSON document, and of
one value only: the array of their objects in order. Read, it is this array and nothing is left over.
So different lists have different texts, whatever the labels hold. -/
theorem forwarded_findings_lose_nothing :
    (∀ fs v, Json.IsDocument v (jsonList fs).toList ↔ v = .array (fs.map value) none) ∧
      (∀ fs, Json.read (jsonList fs).toList = (.array (fs.map value) none, some [])) ∧
      ∀ fs fs', jsonList fs = jsonList fs' ↔ fs = fs' := by
  refine ⟨fun fs v ↦ ⟨fun h ↦ h.unique (isDocument_jsonList fs), ?_⟩, fun fs ↦ ?_, fun fs fs' ↦ ?_⟩
  · rintro rfl
    exact isDocument_jsonList fs
  · have hread := Json.read_append Json.blank_nil Json.blank_nil (spells_jsonList fs)
    rwa [List.append_nil, List.nil_append] at hread
  · exact jsonList_injective.eq_iff

end SecretScan.Finding
