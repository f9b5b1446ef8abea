import Mathlib.Data.List.Nodup
import SecretScan.Proofs.Traversal

/-!
# Records from their members

In a document a record is a list of members, which are values under names, and reading puts one
member after the other into a record of defaults (`Puts`). What comes out is the same in any order,
and `Given` says it for one field: a member has its name and says what the field holds, or no member
has its name and it holds its default. `IsField.given` leads from the first to the second, and
`exists_puts` with `Given.unique` leads back.
-/

namespace SecretScan

variable {α α' β σ : Type}

/-- Members are put into a record one after the other. -/
inductive Puts (put : String → α → σ → σ → Prop) : List (String × α) → σ → σ → Prop where
  /-- Without members the record stays as it is. -/
  | nil {s : σ} : Puts put [] s s
  /-- The first member is put in before the others. -/
  | cons {name : String} {v : α} {ms : List (String × α)} {s s' s'' : σ} (h : put name v s s')
      (hs : Puts put ms s' s'') : Puts put ((name, v) :: ms) s s''

/-- What the field of a name holds. -/
inductive Given (means : α → β → Prop) (default : β) (ms : List (String × α)) (name : String) :
    β → Prop where
  /-- A member of the name says it. -/
  | member {v : α} {b : β} (hmem : (name, v) ∈ ms) (h : means v b) :
      Given means default ms name b
  /-- No member has the name. -/
  | absent (h : name ∉ ms.map Prod.fst) : Given means default ms name default

variable {means : α → β → Prop} {means' : α' → β → Prop} {default : β} {ms ms' : List (String × α)}
  {name : String} {b b' : β}

/-! ### One field -/

theorem eq_of_mem_of_nodup {v v' : α} (hms : (ms.map Prod.fst).Nodup) (h : (name, v) ∈ ms)
    (h' : (name, v') ∈ ms) : v = v' :=
  congrArg Prod.snd (List.inj_on_of_nodup_map hms h h' rfl)

/-- A member of the name says what the field holds. -/
theorem Given.means_of_mem (hms : (ms.map Prod.fst).Nodup) (h : Given means default ms name b)
    {v : α} (hv : (name, v) ∈ ms) : means v b := by
  rcases h with ⟨hmem, hb⟩ | hno
  · rwa [eq_of_mem_of_nodup hms hv hmem]
  · exact absurd (List.mem_map_of_mem hv) hno

/-- What a field holds is determined if what the values say is. -/
theorem Given.unique (hms : (ms.map Prod.fst).Nodup)
    (hmeans : Relator.RightUnique means) (h : Given means default ms name b)
    (h' : Given means default ms name b') : b = b' := by
  rcases h with ⟨hmem, hb⟩ | hno
  · exact hmeans hb (h'.means_of_mem hms hmem)
  · rcases h' with ⟨hmem', hb'⟩ | hno'
    · exact absurd (List.mem_map_of_mem hmem') hno
    · rfl

/-- The order of the members does not count. -/
theorem Given.perm (hperm : ms.Perm ms') (h : Given means default ms name b) :
    Given means default ms' name b := by
  rcases h with ⟨hmem, hb⟩ | hno
  · exact .member (hperm.mem_iff.mp hmem) hb
  · exact .absent fun hmem ↦ hno ((hperm.map Prod.fst).mem_iff.mpr hmem)

/-- A member of another name does not count. -/
theorem Given.cons {name' : String} {v : α} (hname : name' ≠ name)
    (h : Given means default ms name b) : Given means default ((name', v) :: ms) name b := by
  rcases h with ⟨hmem, hb⟩ | hno
  · exact .member (List.mem_cons_of_mem _ hmem) hb
  · refine .absent ?_
    rw [List.map_cons, List.mem_cons, not_or]
    exact ⟨Ne.symm hname, hno⟩

/-- Members whose values say the same can stand for each other. -/
theorem Given.of_forall₂ {R : String × α → String × α' → Prop} {ms' : List (String × α')}
    (hR : ∀ {m m'}, R m m' → m.1 = m'.1) (hms : List.Forall₂ R ms ms')
    (hmeans : ∀ {v v'}, R (name, v) (name, v') → means v b → means' v' b)
    (h : Given means default ms name b) : Given means' default ms' name b := by
  rcases h with ⟨hmem, hb⟩ | hno
  · obtain ⟨⟨name', v'⟩, hmem', hrel⟩ := exists_right_of_mem hms hmem
    obtain rfl : name = name' := hR hrel
    exact .member hmem' (hmeans hrel hb)
  · exact .absent (map_eq_of_forall₂ hms hR ▸ hno)

/-! ### A record -/

variable {put : String → α → σ → σ → Prop} {s s' : σ}

/-- A part of a record is the field of a name: only a member of this name changes it, and then it
holds what the value means. -/
structure IsField (put : String → α → σ → σ → Prop) (name : String) (get : σ → β)
    (means : α → β → Prop) : Prop where
  /-- A member of the name sets the field. -/
  set : ∀ v s s', put name v s s' → means v (get s')
  /-- A member of another name does not. -/
  keep : ∀ name' v s s', name' ≠ name → put name' v s s' → get s' = get s

variable {get : σ → β}

theorem IsField.keep_all (hfield : IsField put name get means) (hname : name ∉ ms.map Prod.fst)
    (h : Puts put ms s s') : get s' = get s := by
  induction h with
  | nil => rfl
  | cons hput _ ih =>
    rw [List.map_cons, List.mem_cons, not_or] at hname
    rw [ih hname.2, hfield.keep _ _ _ _ (Ne.symm hname.1) hput]

/-- **What a field holds in the end.** -/
theorem IsField.given (hfield : IsField put name get means) (hms : (ms.map Prod.fst).Nodup)
    (h : Puts put ms s s') : Given means (get s) ms name (get s') := by
  induction h with
  | nil => exact .absent List.not_mem_nil
  | @cons name' v ms s s' s'' hput hs ih =>
    rw [List.map_cons, List.nodup_cons] at hms
    by_cases hname : name' = name
    · subst hname
      rw [hfield.keep_all hms.1 hs]
      exact .member List.mem_cons_self (hfield.set v s s' hput)
    · have hrest := ih hms.2
      rw [hfield.keep name' v s s' hname hput] at hrest
      exact hrest.cons hname

/-- Each member has been put in at some point. -/
theorem Puts.of_mem (h : Puts put ms s s') {m : String × α} (hm : m ∈ ms) :
    ∃ s₁ s₂, put m.1 m.2 s₁ s₂ := by
  induction h with
  | nil => cases hm
  | cons hput _ ih =>
    rcases List.mem_cons.mp hm with rfl | hm
    · exact ⟨_, _, hput⟩
    · exact ih hm

/-- Members can be put in if each of them can, whatever is there already. -/
theorem exists_puts (h : ∀ m ∈ ms, ∀ s, ∃ s', put m.1 m.2 s s') (s : σ) :
    ∃ s', Puts put ms s s' := by
  induction ms generalizing s with
  | nil => exact ⟨s, .nil⟩
  | cons m ms ih =>
    obtain ⟨s', hput⟩ := h m List.mem_cons_self s
    obtain ⟨s'', hs⟩ := ih (fun m hm ↦ h m (List.mem_cons_of_mem _ hm)) s'
    exact ⟨s'', .cons hput hs⟩

/-- Members can be put in exactly if each of them can. -/
theorem exists_puts_iff {P : String → α → Prop}
    (hput : ∀ name v s, (∃ s', put name v s s') ↔ P name v) (s : σ) :
    (∃ s', Puts put ms s s') ↔ ∀ m ∈ ms, P m.1 m.2 := by
  constructor
  · rintro ⟨s', h⟩ m hm
    obtain ⟨s₁, s₂, hs⟩ := h.of_mem hm
    exact (hput m.1 m.2 s₁).mp ⟨s₂, hs⟩
  · exact fun h ↦ exists_puts (fun m hm s ↦ (hput m.1 m.2 s).mpr (h m hm)) s

end SecretScan
