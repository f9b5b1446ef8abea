import SecretScan.Json.Writer
import SecretScan.Proofs.Json.Document

/-!
# What the writer writes

The writer quotes texts and puts texts of values together, and what comes out is JSON. Of arrays:

```
each tᵢ spells vᵢ   →   "[t₁,…,tₙ]" spells the array of the vᵢ
```

and of objects the same, with a quoted name before each value. Nothing is asked of the texts but that
each spells its value, so what has been put together may be put together further.
-/

namespace SecretScan.Json

variable {room : ℕ}

theorem spells_quote (s : String) : Spells room (.value (.string s)) (quote s).toList := by
  rw [quote, String.toList_ofList]
  exact .string (spellsText_flatMap_escape _)

/-! ### Commas -/

/-- Texts one behind the other; `first` tells that none is before them. -/
def joined : (first : Bool) → List (List Char) → List Char
  | _, [] => []
  | first, t :: ts => comma first ++ (t ++ joined false ts)

/-- Commas stand between the texts and nowhere else. -/
theorem joined_true (ts : List (List Char)) : joined true ts = [','].intercalate ts := by
  induction ts with
  | nil => rfl
  | cons t ts ih =>
    cases ts with
    | nil => simp [joined, comma]
    | cons t' ts =>
      rw [List.intercalate_cons_cons, ← ih, List.append_assoc]
      rfl

theorem toList_intercalate_comma (texts : List String) :
    (",".intercalate texts).toList = joined true (texts.map String.toList) := by
  rw [String.toList_intercalate, joined_true]
  rfl

/-! ### Arrays -/

theorem spells_items {first : Bool} {vs : List Json} {ts : List (List Char)}
    (h : List.Forall₂ (fun v t ↦ Spells room (.value v) t) vs ts) :
    Spells room (.items first vs) (joined first ts ++ [']']) := by
  induction h generalizing first with
  | nil => exact .noItem blank_nil
  | @cons v t vs ts hv _ ih =>
    rw [joined, List.append_assoc, List.append_assoc]
    show Spells room _ ([] ++ (comma first ++ ([] ++ (t ++ (joined false ts ++ [']'])))))
    exact .item blank_nil blank_nil hv ih

/-- **An array** is spelled if its items are. -/
theorem spells_arrayText {vs : List Json} {texts : List String}
    (h : List.Forall₂ (fun v text ↦ Spells room (.value v) text.toList) vs texts) :
    Spells (room + 1) (.value (.array vs none)) (arrayText texts).toList := by
  rw [arrayText, String.toList_append, String.toList_append, toList_intercalate_comma]
  exact .array (spells_items (List.forall₂_map_right_iff.mpr h))

/-! ### Objects -/

/-- A member is its name between quotation marks, a colon and its value. -/
theorem toList_member (name text : String) :
    (quote name ++ ":" ++ text).toList =
      '"' :: (name.toList.flatMap escape ++ '"' :: ':' :: text.toList) := by
  rw [String.toList_append, String.toList_append, quote, String.toList_ofList]
  simp

theorem spells_members {first : Bool} {ms : List (String × Json)}
    {texts : List (String × String)}
    (h : List.Forall₂ (fun m t ↦ m.1 = t.1 ∧ Spells room (.value m.2) t.2.toList) ms texts) :
    Spells room (.members first ms)
      (joined first (texts.map fun t ↦ (quote t.1 ++ ":" ++ t.2).toList) ++ ['}']) := by
  induction h generalizing first with
  | nil => exact .noMember blank_nil
  | @cons m t ms texts hm _ ih =>
    obtain ⟨name, v⟩ := m
    obtain ⟨rfl, hv⟩ := hm
    rw [List.map_cons, joined, toList_member, List.append_assoc, List.append_assoc,
      List.cons_append, List.append_assoc]
    show Spells room _ ([] ++ (comma first ++ ([] ++ '"' :: (_ ++ '"' :: ([] ++ ':' ::
      ([] ++ (t.2.toList ++ (joined false _ ++ ['}']))))))))
    exact .member blank_nil blank_nil blank_nil blank_nil (spellsText_flatMap_escape _) hv ih

/-- **An object** is spelled if its values are. -/
theorem spells_objectText {ms : List (String × Json)} {texts : List (String × String)}
    (h : List.Forall₂ (fun m t ↦ m.1 = t.1 ∧ Spells room (.value m.2) t.2.toList) ms texts) :
    Spells (room + 1) (.value (.object ms none)) (objectText texts).toList := by
  rw [objectText, String.toList_append, String.toList_append, toList_intercalate_comma,
    List.map_map]
  exact .object (spells_members h)

end SecretScan.Json
