import Mathlib.Data.List.Forall2

/-!
# Computations that stop at a fault

A computation in `Except` meets one fault at most, and the faults behind the first are never looked
for. To say which one is first it is easiest to list them all, stage by stage, and to take the head:

```
fault? (r >>= f)    = (l ++ l').head?     where r has the faults l, and f then has the faults l'
fault? (as.mapM f)  = (as.filterMap fun a ↦ fault? (f a)).head?
```

The lists are written down without running anything behind a fault, so these two equations describe
a whole computation of several stages (`fault?_bind`, `fault?_mapM`).
-/

namespace SecretScan

variable {ε ε' α β : Type}

/-- The fault of a result, if it is one. -/
def fault? : Except ε α → Option ε
  | .error fault => some fault
  | .ok _ => none

@[simp] theorem fault?_error (fault : ε) : fault? (.error fault : Except ε α) = some fault := rfl

@[simp] theorem fault?_ok (a : α) : fault? (.ok a : Except ε α) = none := rfl

theorem fault?_eq_none_iff {r : Except ε α} : fault? r = none ↔ ∃ a, r = .ok a := by
  cases r <;> simp

theorem fault?_eq_some_iff {r : Except ε α} {fault : ε} :
    fault? r = some fault ↔ r = .error fault := by
  cases r <;> simp

theorem fault?_map (f : α → β) (r : Except ε α) : fault? (f <$> r) = fault? r := by
  cases r <;> rfl

theorem fault?_mapError (f : ε → ε') (r : Except ε α) :
    fault? (r.mapError f) = (fault? r).map f := by
  cases r <;> rfl

/-- **Two stages.** The faults of the second count only if the first has none. -/
theorem fault?_bind {r : Except ε α} {f : α → Except ε β} {l l' : List ε}
    (hr : fault? r = l.head?) (hf : ∀ a, r = .ok a → fault? (f a) = l'.head?) :
    fault? (r >>= f) = (l ++ l').head? := by
  rw [List.head?_append, ← hr]
  rcases r with fault | a
  · rfl
  · exact hf a rfl

/-- **A traversal** meets the first fault of all its items. -/
theorem fault?_mapM (f : α → Except ε β) (as : List α) :
    fault? (as.mapM f) = (as.filterMap fun a ↦ fault? (f a)).head? := by
  induction as with
  | nil => rfl
  | cons a as ih =>
    rw [List.mapM_cons]
    rcases ha : f a with fault | b
    · rw [List.filterMap_cons_some (by rw [ha]; rfl)]
      rfl
    · rw [List.filterMap_cons_none (by rw [ha]; rfl), ← ih]
      show fault? (as.mapM f >>= fun bs ↦ pure (b :: bs)) = _
      cases as.mapM f <;> rfl

/-! ### Results -/

theorem ok_bind {a : α} {f : α → Except ε β} : (.ok a : Except ε α) >>= f = f a := rfl

/-- A computation succeeds if both stages do. -/
theorem bind_eq_ok_iff {r : Except ε α} {f : α → Except ε β} {b : β} :
    r >>= f = .ok b ↔ ∃ a, r = .ok a ∧ f a = .ok b := by
  cases r <;> simp [bind, Except.bind]

theorem map_eq_ok_iff {r : Except ε α} {f : α → β} {b : β} :
    f <$> r = .ok b ↔ ∃ a, r = .ok a ∧ f a = b := by
  cases r <;> simp [Functor.map, Except.map]

theorem mapError_eq_ok_iff {r : Except ε α} {f : ε → ε'} {a : α} :
    r.mapError f = .ok a ↔ r = .ok a := by
  cases r <;> simp [Except.mapError]

theorem exists_left_of_mem {R : α → β → Prop} {as : List α} {bs : List β}
    (h : List.Forall₂ R as bs) {b : β} (hb : b ∈ bs) : ∃ a ∈ as, R a b := by
  induction h with
  | nil => cases hb
  | cons hab _ ih =>
    rcases List.mem_cons.mp hb with rfl | hb
    · exact ⟨_, List.mem_cons_self, hab⟩
    · obtain ⟨a, ha, hR⟩ := ih hb
      exact ⟨a, List.mem_cons_of_mem _ ha, hR⟩

theorem exists_right_of_mem {R : α → β → Prop} {as : List α} {bs : List β}
    (h : List.Forall₂ R as bs) {a : α} (ha : a ∈ as) : ∃ b ∈ bs, R a b :=
  exists_left_of_mem h.flip ha

theorem map_eq_of_forall₂ {γ : Type} {R : α → β → Prop} {f : α → γ} {g : β → γ} {as : List α}
    {bs : List β} (h : List.Forall₂ R as bs) (hR : ∀ {a b}, R a b → f a = g b) :
    as.map f = bs.map g := by
  induction h with
  | nil => rfl
  | cons hab _ ih => rw [List.map_cons, List.map_cons, hR hab, ih]

/-- **A traversal succeeds** if each item does, with all the results in order. -/
theorem mapM_eq_ok_iff {f : α → Except ε β} {as : List α} {bs : List β} :
    as.mapM f = .ok bs ↔ List.Forall₂ (fun a b ↦ f a = .ok b) as bs := by
  induction as generalizing bs with
  | nil =>
    rw [List.mapM_nil, List.forall₂_nil_left_iff]
    exact ⟨fun h ↦ (Except.ok.inj h).symm, fun h ↦ h ▸ rfl⟩
  | cons a as ih =>
    rw [List.mapM_cons, bind_eq_ok_iff]
    constructor
    · rintro ⟨b, hb, hrest⟩
      obtain ⟨bs', hbs', hok⟩ := bind_eq_ok_iff.mp hrest
      obtain rfl := Except.ok.inj hok
      exact .cons hb (ih.mp hbs')
    · rintro (_ | ⟨hb, hbs⟩)
      exact ⟨_, hb, bind_eq_ok_iff.mpr ⟨_, ih.mpr hbs, rfl⟩⟩

/-- Traversals whose items have the same results have the same result. -/
theorem mapM_eq_of_forall₂ {R : α → α → Prop} {f : α → Except ε β} {as' as : List α}
    (h : List.Forall₂ R as' as) (hR : ∀ {a' a}, R a' a → f a' = f a) :
    as'.mapM f = as.mapM f := by
  induction h with
  | nil => rfl
  | cons ha _ ih => rw [List.mapM_cons, List.mapM_cons, hR ha, ih]

end SecretScan
