import SecretScan.Proofs.Regex.Words

/-!
# The text around a match

An expression that asks no conditions looks at nothing but the characters it steps over. What stands
before and behind a match can then neither make nor break it:

```
e.isMatch text  →  e.isMatch text'                        where text stands in text'
e.isMatch (text ++ c :: text')  ↔  e.isMatch text ∨ e.isMatch text'
```

The first holds of every such expression (`isMatch_of_infix`). The second needs that no match steps
over the character `c`, which is read off the sets of the expression (`Expr.avoids`); a text may
then be cut at every `c`, and each part be looked at by itself (`isMatch_iff_exists_splitOn`).
-/

namespace SecretScan.Regex

variable {c : Char} {text text' : List Char}

/-- A word without a character stands on one side of it. -/
theorem infix_append_cons_iff {v : List Char} (hv : c ∉ v) :
    v <:+: text ++ c :: text' ↔ v <:+: text ∨ v <:+: text' := by
  -- What a word and a text that starts with the character have in common is empty.
  have hnil : ∀ w : List Char, c ∉ w → w <+: c :: text' → w = [] := by
    intro w hw hprefix
    rcases List.prefix_cons_iff.mp hprefix with rfl | ⟨rest, rfl, -⟩
    · rfl
    · exact absurd List.mem_cons_self hw
  constructor
  · intro h
    rcases List.infix_append_iff.mp h with h | h | ⟨u, w, rfl, hu, hw⟩
    · exact .inl h
    · rcases List.infix_cons_iff.mp h with h | h
      · rw [hnil v hv h]
        exact .inl List.nil_infix
      · exact .inr h
    · rw [List.mem_append, not_or] at hv
      rw [hnil w hv.2 hw, List.append_nil]
      exact .inl hu.isInfix
  · rintro (h | h)
    · exact h.trans (List.prefix_append text _).isInfix
    · exact h.trans (((List.suffix_cons c text').trans (List.suffix_append text _)).isInfix)

namespace Expr

variable {α : Type}

/-! ### Embedding -/

/-- **A match stays one in every longer text.** -/
theorem isMatch_of_infix {e : Expr CharSet Assertion} (he : e.isPlain = true)
    (h : text <:+: text') (hmatch : e.isMatch text.toArray = true) :
    e.isMatch text'.toArray = true := by
  obtain ⟨v, hv, hinfix⟩ := (isMatch_iff he).mp hmatch
  exact (isMatch_iff he).mpr ⟨v, hv, hinfix.trans h⟩

/-! ### Characters that no match holds -/

/-- Whether no set that an expression steps by holds a character. -/
def avoids (c : Char) : Expr CharSet α → Bool
  | .empty | .guard _ => true
  | .step s => !s.contains c.toNat
  | .cat e f | .alt e f => e.avoids c && f.avoids c
  | .times e _ _ => e.avoids c

/-- A character that is avoided stands in no word. -/
theorem not_mem_of_avoids {e : Expr CharSet α} (he : e.avoids c = true) {v : List Char}
    (hv : v ∈ e.words) : c ∉ v := by
  induction e generalizing v with
  | empty =>
    obtain rfl := (Language.mem_one v).mp hv
    exact List.not_mem_nil
  | guard a =>
    obtain rfl := (Language.mem_one v).mp hv
    exact List.not_mem_nil
  | step s =>
    obtain ⟨d, rfl, hd⟩ := hv
    rw [avoids, Bool.not_eq_true'] at he
    rw [List.mem_singleton]
    rintro rfl
    rw [he] at hd
    cases hd
  | cat e f ihe ihf =>
    rw [avoids, Bool.and_eq_true] at he
    obtain ⟨u, hu, w, hw, rfl⟩ := hv
    rw [List.mem_append, not_or]
    exact ⟨ihe he.1 hu, ihf he.2 hw⟩
  | alt e f ihe ihf =>
    rw [avoids, Bool.and_eq_true] at he
    exact hv.elim (ihe he.1) (ihf he.2)
  | times e least most ih =>
    -- How often the part is repeated does not matter: the word consists of words of the part.
    obtain ⟨n, -, -, hn⟩ := hv
    obtain ⟨parts, rfl, -, hparts⟩ := Language.mem_pow.mp hn
    rw [List.mem_flatten]
    rintro ⟨part, hpart, hc⟩
    exact ih he (hparts part hpart) hc

variable {e : Expr CharSet Assertion}

/-- **A character as a barrier.** An expression that avoids it matches on one of its sides. -/
theorem isMatch_append_cons_iff (he : e.isPlain = true) (hc : e.avoids c = true) :
    e.isMatch (text ++ c :: text').toArray = true ↔
      e.isMatch text.toArray = true ∨ e.isMatch text'.toArray = true := by
  simp only [isMatch_iff he]
  constructor
  · rintro ⟨v, hv, hinfix⟩
    rcases (infix_append_cons_iff (not_mem_of_avoids hc hv)).mp hinfix with h | h
    · exact .inl ⟨v, hv, h⟩
    · exact .inr ⟨v, hv, h⟩
  · rintro (⟨v, hv, h⟩ | ⟨v, hv, h⟩)
    · exact ⟨v, hv, (infix_append_cons_iff (not_mem_of_avoids hc hv)).mpr (.inl h)⟩
    · exact ⟨v, hv, (infix_append_cons_iff (not_mem_of_avoids hc hv)).mpr (.inr h)⟩

/-- Any number of barriers, one after the other. -/
theorem isMatch_intercalate_iff (he : e.isPlain = true) (hc : e.avoids c = true)
    {parts : List (List Char)} (hparts : parts ≠ []) :
    e.isMatch ([c].intercalate parts).toArray = true ↔
      ∃ part ∈ parts, e.isMatch part.toArray = true := by
  induction parts with
  | nil => exact absurd rfl hparts
  | cons part rest ih =>
    -- No barrier stands behind the last part, so it is a case of its own.
    rcases rest with - | ⟨next, rest⟩
    · simp
    · rw [List.intercalate_cons_cons, List.append_assoc, List.singleton_append,
        isMatch_append_cons_iff he hc, ih (List.cons_ne_nil _ _)]
      simp only [List.mem_cons, exists_eq_or_imp]

/-- **A text cut at a barrier.** -/
theorem isMatch_iff_exists_splitOn (he : e.isPlain = true) (hc : e.avoids c = true) :
    e.isMatch text.toArray = true ↔ ∃ part ∈ text.splitOn c, e.isMatch part.toArray = true := by
  rw [← isMatch_intercalate_iff he hc (List.splitOn_ne_nil c text), List.intercalate_splitOn]

end Expr

end SecretScan.Regex
