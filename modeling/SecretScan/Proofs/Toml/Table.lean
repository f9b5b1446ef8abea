import Mathlib.Data.List.Nodup
import SecretScan.Toml.Table

/-!
# Tables of values

A document of plain lines fills one table after the other with values, each under a key of its own.
Where that happens is a `Place`: the document itself, or the table that its last header has opened.
Doing something at the place changes the table there and nothing else (`Place.alongHeader`), so a
table grows line by line whatever stands before it.
-/

namespace SecretScan.Toml.Entries

/-- The keys of a table. -/
def keys (es : Entries) : List String := es.map Prod.fst

/-- Values, as they stand in a table that is being read. -/
def ofValues (ms : List (String × Toml)) : Entries := ms.map fun m ↦ (m.1, .value m.2)

variable {es : Entries} {key : String}

theorem keys_ofValues (ms : List (String × Toml)) : keys (ofValues ms) = ms.map Prod.fst := by
  rw [keys, ofValues, List.map_map]
  rfl

/-- A value in front of others. -/
theorem append_ofValues_cons (es : Entries) (m : String × Toml) (ms : List (String × Toml)) :
    es ++ [(m.1, .value m.2)] ++ ofValues ms = es ++ ofValues (m :: ms) := List.append_assoc ..

/-- Of names that differ, the next one is new. -/
theorem not_mem_keys_of_nodup {names : List String} (h : (es.keys ++ key :: names).Nodup) :
    key ∉ es.keys := fun hmem ↦
  (List.nodup_append.mp h).2.2 key hmem key List.mem_cons_self rfl

/-- Once something stands under it, the others are still new. -/
theorem nodup_keys_append_singleton {names : List String} (h : (es.keys ++ key :: names).Nodup)
    (node : Node) : (keys (es ++ [(key, node)]) ++ names).Nodup := by
  rw [keys, List.map_append, List.append_assoc]
  exact h

theorem find?_eq_none (h : key ∉ es.keys) : find? es key = none := by
  rw [find?, Option.map_eq_none_iff, List.find?_eq_none]
  intro e he hkey
  exact h ((beq_iff_eq.mp hkey) ▸ List.mem_map_of_mem he)

/-- What stands last under a key of its own is found there. -/
theorem find?_append_singleton (h : key ∉ es.keys) (node : Node) :
    find? (es ++ [(key, node)]) key = some node := by
  have hnone : List.find? (fun e ↦ e.1 == key) es = none :=
    Option.map_eq_none_iff.mp (find?_eq_none h)
  rw [find?, List.find?_append, hnone, Option.none_or, List.find?_cons_of_pos (by simp)]
  rfl

/-- It is put there in place of what stands there. -/
theorem set_append_singleton (h : key ∉ es.keys) (node node' : Node) :
    set key node' (es ++ [(key, node)]) = es ++ [(key, node')] := by
  induction es with
  | nil => simp [set]
  | cons e es ih =>
    rw [keys, List.map_cons, List.mem_cons, not_or] at h
    rw [List.cons_append, set, if_neg (Ne.symm h.1), ih h.2, List.cons_append]

/-- A value of a new key is appended. -/
theorem put_of_not_mem (h : key ∉ es.keys) (v : Toml) :
    put v [] key es = some (es ++ [(key, .value v)]) := by
  rw [put, find?_eq_none h]
  rfl

/-- So is the table of a new header. -/
theorem openTable_of_not_mem (h : key ∉ es.keys) :
    openTable key es = some (es ++ [(key, .table .header [])]) := by
  rw [openTable, find?_eq_none h]

/-! ### Places -/

/-- A path, and the whole document as it depends on the table that the path leads to. -/
inductive Place : List String → (Entries → Entries) → Prop where
  /-- The document itself. -/
  | document : Place [] id
  /-- The table that a header has opened last. -/
  | table {before : Entries} {name : String} (h : name ∉ before.keys) :
      Place [name] fun es ↦ before ++ [(name, .table .header es)]

/-- **Doing something at a place** changes the table there. -/
theorem Place.alongHeader {path : List String} {grow : Entries → Entries} (h : Place path grow)
    (act : Entries → Option Entries) (es : Entries) :
    alongHeader act path (grow es) = (act es).map grow := by
  cases h with
  | document =>
    rw [Entries.alongHeader, Option.map_id]
    rfl
  | @table before name h =>
    have hset : (fun sub ↦ set name (.table .header sub) (before ++ [(name, .table .header es)])) =
        fun sub ↦ before ++ [(name, .table .header sub)] :=
      funext fun sub ↦ set_append_singleton h _ _
    rw [Entries.alongHeader, find?_append_singleton h]
    show (Entries.alongHeader act [] es).map _ = _
    rw [hset, Entries.alongHeader]

/-! ### What has been read -/

theorem finishEntries_append (es es' : Entries) :
    finishEntries (es ++ es') = finishEntries es ++ finishEntries es' := by
  induction es with
  | nil => simp [finishEntries]
  | cons e es ih =>
    obtain ⟨key, node⟩ := e
    rw [List.cons_append, finishEntries, finishEntries, ih, List.cons_append]

theorem finishEntries_ofValues (ms : List (String × Toml)) : finishEntries (ofValues ms) = ms := by
  induction ms with
  | nil => simp [ofValues, finishEntries]
  | cons m ms ih =>
    obtain ⟨name, v⟩ := m
    show finishEntries ((name, .value v) :: ofValues ms) = _
    rw [finishEntries, ih, Node.finish]

/-- Tables under headers. -/
def ofTables (ts : List (String × List (String × Toml))) : Entries :=
  ts.map fun t ↦ (t.1, .table .header (ofValues t.2))

theorem finishEntries_ofTables (ts : List (String × List (String × Toml))) :
    finishEntries (ofTables ts) = ts.map fun t ↦ (t.1, .table t.2) := by
  induction ts with
  | nil => simp [ofTables, finishEntries]
  | cons t ts ih =>
    obtain ⟨name, ms⟩ := t
    show finishEntries ((name, .table .header (ofValues ms)) :: ofTables ts) = _
    rw [finishEntries, ih, Node.finish, finishEntries_ofValues]
    rfl

end SecretScan.Toml.Entries
