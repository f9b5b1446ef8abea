import Mathlib.Data.List.Induction
import Mathlib.Data.List.Nodup
import Mathlib.Data.List.TakeWhile

/-!
# Lists

What loops over lists need to know of lists: where an element stands once another has been put
behind it, which elements are first occurrences, what is found under a key, where a run of elements
ends, what is left of a list that is cut into parts, and when a loop that may fail goes through.
-/

namespace SecretScan

variable {α β : Type}

/-- In a list with a last element, an element is the last one or stands in the list before it. -/
theorem append_singleton_eq_append_cons_iff {as before after : List α} {a b : α} :
    as ++ [a] = before ++ b :: after ↔
      (as = before ∧ a = b ∧ after = []) ∨
        ∃ rest, after = rest ++ [a] ∧ as = before ++ b :: rest := by
  constructor
  · intro h
    rcases List.eq_nil_or_concat after with rfl | ⟨rest, c, rfl⟩
    · obtain ⟨rfl, hlast⟩ := List.append_inj' h rfl
      exact .inl ⟨rfl, List.head_eq_of_cons_eq hlast, rfl⟩
    · rw [List.concat_eq_append, ← List.cons_append, ← List.append_assoc] at h
      obtain ⟨rfl, hlast⟩ := List.append_inj' h rfl
      obtain rfl := List.head_eq_of_cons_eq hlast
      exact .inr ⟨rest, List.concat_eq_append, rfl⟩
  · rintro (⟨rfl, rfl, rfl⟩ | ⟨rest, rfl, rfl⟩)
    · rfl
    · rw [List.append_assoc, List.cons_append]

/-- Among first occurrences there is none twice. -/
theorem nodup_eraseDups [BEq α] [LawfulBEq α] (as : List α) : as.eraseDups.Nodup := by
  induction hlength : as.length using Nat.strongRecOn generalizing as with
  | ind length ih =>
    cases as with
    | nil => exact List.nodup_nil
    | cons a as =>
      rw [List.eraseDups_cons, List.nodup_cons, List.mem_eraseDups]
      refine ⟨by simp, ih _ ?_ _ rfl⟩
      have hfilter := List.length_filter_le (fun b ↦ !b == a) as
      rw [← hlength, List.length_cons]
      omega

/-- Where no key comes twice, each entry is found under its key. -/
theorem lookup_of_mem [BEq α] [LawfulBEq α] {es : List (α × β)} (hes : (es.map Prod.fst).Nodup)
    {e : α × β} (he : e ∈ es) : es.lookup e.1 = some e.2 := by
  induction es with
  | nil => cases he
  | cons e' es ih =>
    rw [List.map_cons, List.nodup_cons] at hes
    rw [List.lookup_cons]
    rcases List.mem_cons.mp he with rfl | he
    · rw [beq_self_eq_true]
    · have hne : e.1 ≠ e'.1 := fun h ↦ hes.1 (h ▸ List.mem_map_of_mem he)
      rw [beq_eq_false_iff_ne.mpr hne]
      exact ih hes.2 he

/-- Up to an element that stops it, which may be missing, a run is taken. -/
theorem takeWhile_append_of_stops {p : α → Bool} {as rest : List α}
    (has : ∀ a ∈ as, p a = true) (hrest : ∀ b ∈ rest.head?, p b = false) :
    (as ++ rest).takeWhile p = as := by
  rw [List.takeWhile_append_of_pos has]
  rcases rest with - | ⟨b, rest⟩
  · rw [List.takeWhile_nil, List.append_nil]
  · rw [List.takeWhile_cons_of_neg (by simp [hrest b rfl]), List.append_nil]

theorem dropWhile_append_of_stops {p : α → Bool} {as rest : List α}
    (has : ∀ a ∈ as, p a = true) (hrest : ∀ b ∈ rest.head?, p b = false) :
    (as ++ rest).dropWhile p = rest := by
  rw [List.dropWhile_append_of_pos has]
  rcases rest with - | ⟨b, rest⟩
  · rfl
  · rw [List.dropWhile_cons_of_neg (by simp [hrest b rfl])]

/-- A run and what stops it are determined by the list they make. -/
theorem append_cons_inj_of_stops {p : α → Bool} {as as' rest rest' : List α} {b b' : α}
    (has : ∀ a ∈ as, p a = true) (has' : ∀ a ∈ as', p a = true) (hb : p b = false)
    (hb' : p b' = false) (h : as ++ b :: rest = as' ++ b' :: rest') :
    as = as' ∧ b = b' ∧ rest = rest' := by
  have hstops {c : α} (hc : p c = false) (cs : List α) : ∀ a ∈ (c :: cs).head?, p a = false :=
    fun a ha ↦ Option.some.inj ha ▸ hc
  have hrun := congrArg (List.takeWhile p) h
  rw [takeWhile_append_of_stops has (hstops hb rest),
    takeWhile_append_of_stops has' (hstops hb' rest')] at hrun
  obtain rfl := hrun
  exact ⟨rfl, List.cons.inj (List.append_cancel_left h)⟩

/-- No part of a list that has been cut at an element holds this element. -/
theorem not_mem_of_mem_splitOn [BEq α] [LawfulBEq α] {a : α} {as part : List α}
    (h : part ∈ as.splitOn a) : a ∉ part := by
  induction as generalizing part with
  | nil =>
    rw [List.splitOn_nil, List.mem_singleton] at h
    rw [h]
    exact List.not_mem_nil
  | cons b as ih =>
    rw [List.splitOn_cons_eq_if_modifyHead] at h
    split at h
    · rcases List.mem_cons.mp h with rfl | h
      · exact List.not_mem_nil
      · exact ih h
    · next hb =>
      -- The element goes into the first part of what has been cut before.
      rcases hparts : as.splitOn a with - | ⟨first, rest⟩
      · exact absurd hparts (List.splitOn_ne_nil a as)
      · have hne : a ≠ b := fun hab ↦ hb (beq_iff_eq.mpr hab.symm)
        rw [hparts] at ih
        rw [hparts, List.modifyHead_cons] at h
        rcases List.mem_cons.mp h with rfl | h
        · exact List.not_mem_cons_of_ne_of_not_mem hne (ih List.mem_cons_self)
        · exact ih (List.mem_cons_of_mem _ h)

/-- A loop goes through if each step can be taken and keeps what the next one needs. -/
theorem foldlM_eq_some {f? : β → α → Option β} {f : β → α → β} {P : β → Prop} {as : List α}
    (hstep : ∀ b, P b → ∀ a ∈ as, f? b a = some (f b a) ∧ P (f b a)) {b : β} (hb : P b) :
    as.foldlM f? b = some (as.foldl f b) := by
  induction as generalizing b with
  | nil => rfl
  | cons a as ih =>
    obtain ⟨ha, hkept⟩ := hstep b hb a List.mem_cons_self
    rw [List.foldlM_cons, ha, List.foldl_cons]
    exact ih (fun b hb a' ha' ↦ hstep b hb a' (List.mem_cons_of_mem _ ha')) hkept

end SecretScan
