/-!
# Maps in the order of insertion

Values under labels. A label keeps the place where it was inserted first and the value that was
inserted last.
-/

namespace SecretScan

/-- Values under labels, in the order in which the labels were inserted. -/
structure LabelMap (α : Type) where
  /-- The labels with their values. -/
  entries : List (String × α) := []
  /-- No label stands twice. -/
  nodup : (entries.map Prod.fst).Nodup := by exact List.nodup_nil

namespace LabelMap

variable {α : Type}

/-- Replaces the value of a label, or appends the label. -/
def put (label : String) (value : α) : List (String × α) → List (String × α)
  | [] => [(label, value)]
  | (l, v) :: rest => if l = label then (l, value) :: rest else (l, v) :: put label value rest

theorem mem_labels_put {label l : String} {value : α} {entries : List (String × α)} :
    l ∈ (put label value entries).map Prod.fst ↔ l = label ∨ l ∈ entries.map Prod.fst := by
  induction entries with
  | nil => simp [put]
  | cons e rest ih =>
    obtain ⟨k, v⟩ := e
    by_cases h : k = label
    · simp [put, h]
    · simp only [put, h, if_false, List.map_cons, List.mem_cons, ih]
      grind

theorem nodup_put (label : String) (value : α) {entries : List (String × α)}
    (h : (entries.map Prod.fst).Nodup) : ((put label value entries).map Prod.fst).Nodup := by
  induction entries with
  | nil => simp [put]
  | cons e rest ih =>
    obtain ⟨k, v⟩ := e
    simp only [List.map_cons, List.nodup_cons] at h
    by_cases hk : k = label
    · subst hk
      simp only [put, if_true, List.map_cons, List.nodup_cons]
      exact h
    · simp only [put, hk, if_false, List.map_cons, List.nodup_cons, mem_labels_put]
      exact ⟨by grind, ih h.2⟩

/-- Inserts a value under a label. -/
def insert (m : LabelMap α) (label : String) (value : α) : LabelMap α :=
  ⟨put label value m.entries, nodup_put label value m.nodup⟩

/-- The map of a list of labels with values, inserted in order. -/
def ofList (entries : List (String × α)) : LabelMap α :=
  entries.foldl (fun m e => m.insert e.1 e.2) {}

theorem put_of_not_mem {label : String} {value : α} {entries : List (String × α)}
    (h : label ∉ entries.map Prod.fst) : put label value entries = entries ++ [(label, value)] := by
  induction entries with
  | nil => rfl
  | cons e rest ih =>
    obtain ⟨k, v⟩ := e
    simp only [List.map_cons, List.mem_cons, not_or] at h
    rw [put, if_neg (Ne.symm h.1), ih h.2, List.cons_append]

/-- Distinct labels stay in order. -/
theorem entries_ofList {entries : List (String × α)} (h : (entries.map Prod.fst).Nodup) :
    (ofList entries).entries = entries := by
  suffices hinsert : ∀ m : LabelMap α, ((m.entries ++ entries).map Prod.fst).Nodup →
      (entries.foldl (fun m e => m.insert e.1 e.2) m).entries = m.entries ++ entries from
    hinsert {} h
  induction entries with
  | nil => exact fun m _ => (List.append_nil m.entries).symm
  | cons e rest ih =>
    intro m hm
    have hput : (m.insert e.1 e.2).entries = m.entries ++ [e] := by
      refine put_of_not_mem fun hmem => ?_
      rw [List.map_append, List.map_cons, List.nodup_append] at hm
      exact hm.2.2 e.1 hmem e.1 List.mem_cons_self rfl
    rw [List.map_cons, List.nodup_cons] at h
    rw [List.foldl_cons, ih h.2, hput, List.append_assoc, List.singleton_append]
    rwa [hput, List.append_assoc, List.singleton_append]

end LabelMap

end SecretScan
