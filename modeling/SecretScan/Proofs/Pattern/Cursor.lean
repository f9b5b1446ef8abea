import SecretScan.Pattern.Registry
import SecretScan.Proofs.Pattern.KeywordIndex

/-!
# What a cursor delivers

A cursor is a position in a list of truth values, one for each pattern, and says nothing about how
many matching patterns lie below or behind it. `Cursor.remaining` does: it is the list of what is
still to come, read off the registry, and everything a cursor does is an operation on that list.

```
c.next.1            = c.remaining.head?
c.next.2.remaining  = c.remaining.tail
c.toList            = c.remaining
```

No agreement between the registry and the truth values is asked for. Positions behind the last
pattern are passed over, and patterns behind the last truth value are not tried, which is what `zip`
says too.

With what the index selects (`KeywordIndex.selection_ofPatterns`) this settles what a registry
matches: the patterns that are eligible and whose expression matches, each at its place in the list
(`matchingLabels_ofPatterns`).
-/

namespace SecretScan

/-- What a pattern is asked when its turn comes: that its keywords, if it has any, allow it to
match, and that its expression does. -/
def Pattern.Fires (p : Pattern) (text : String) : Prop :=
  p.Eligible text ∧ p.regex.isMatch text = true

instance (p : Pattern) (text : String) : Decidable (p.Fires text) :=
  inferInstanceAs (Decidable (_ ∧ _))

namespace Cursor

variable {c : Cursor}

/-- The patterns still to come, in order. -/
def remaining (c : Cursor) : List Pattern :=
  (((c.registry.patterns.zip c.selected).drop c.position).filter
    fun e ↦ e.2 && e.1.regex.isMatch c.text).map Prod.fst

/-! ### One position -/

/-- At the end of the truth values nothing is left. -/
theorem remaining_of_none (h : c.selected[c.position]? = none) : c.remaining = [] := by
  have hlen : c.selected.length ≤ c.position := List.getElem?_eq_none_iff.mp h
  have hdrop : (c.registry.patterns.zip c.selected).drop c.position = [] := by
    rw [List.drop_eq_nil_iff, List.length_zip]
    omega
  rw [remaining, hdrop]
  rfl

/-- Behind the last pattern nothing is left either. -/
theorem remaining_of_getAt?_none (h : c.registry.getAt? c.position = none) : c.remaining = [] := by
  have hlen : c.registry.patterns.length ≤ c.position := List.getElem?_eq_none_iff.mp h
  have hdrop : (c.registry.patterns.zip c.selected).drop c.position = [] := by
    rw [List.drop_eq_nil_iff, List.length_zip]
    omega
  rw [remaining, hdrop]
  rfl

/-- What is left is the pattern at the position, if it is selected and matches, and what is left one
position further on. -/
theorem remaining_of_some {isSelected : Bool} {p : Pattern}
    (hs : c.selected[c.position]? = some isSelected) (hp : c.registry.getAt? c.position = some p) :
    c.remaining =
      if (isSelected && p.regex.isMatch c.text) = true then p :: c.behind.remaining
      else c.behind.remaining := by
  have hzip : (c.registry.patterns.zip c.selected)[c.position]? = some (p, isSelected) :=
    List.getElem?_zip_eq_some.mpr ⟨hp, hs⟩
  obtain ⟨hlt, heq⟩ := List.getElem?_eq_some_iff.mp hzip
  rw [remaining, List.drop_eq_getElem_cons hlt, heq, List.filter_cons]
  split <;> rfl

/-- **A position that is passed over.** Unless a pattern stands there that is selected and matches,
what is left is what is left one position further on. -/
theorem remaining_behind {isSelected : Bool} (hs : c.selected[c.position]? = some isSelected)
    (h : ∀ p, c.registry.getAt? c.position = some p →
      (isSelected && p.regex.isMatch c.text) = false) :
    c.behind.remaining = c.remaining := by
  rcases hp : c.registry.getAt? c.position with - | p
  · have hbehind : c.behind.registry.getAt? c.behind.position = none :=
      List.getElem?_eq_none (Nat.le_succ_of_le (List.getElem?_eq_none_iff.mp hp))
    rw [remaining_of_getAt?_none hp, remaining_of_getAt?_none hbehind]
  · rw [remaining_of_some hs hp, h p hp]
    rfl

/-! ### One pattern, and a run -/

/-- **A step.** The next pattern is the first of those still to come, and the others come behind it.
-/
theorem next_eq (c : Cursor) :
    c.next.1 = c.remaining.head? ∧ c.next.2.remaining = c.remaining.tail := by
  fun_induction Cursor.next c with
  | case1 c hs => simp [remaining_of_none hs]
  | case2 c hp hs ih =>
    have hskip := remaining_behind hs fun p h ↦ absurd (hp.symm.trans h) (by simp)
    rwa [hskip] at ih
  | case3 c p hp hmatch hs =>
    rw [remaining_of_some hs hp, if_pos (by simpa using hmatch)]
    exact ⟨rfl, rfl⟩
  | case4 c p hp hmatch hs ih =>
    have hskip := remaining_behind hs fun q h ↦ by
      obtain rfl := Option.some.inj (hp.symm.trans h)
      simpa using hmatch
    rwa [hskip] at ih
  | case5 c isSelected hs hsel ih =>
    have hskip := remaining_behind hs fun p _ ↦ by simp [hsel]
    rwa [hskip] at ih

/-- **A run.** A cursor delivers exactly the patterns still to come. -/
theorem toList_eq_remaining (c : Cursor) : c.toList = c.remaining := by
  fun_induction Cursor.toList c with
  | case1 c c' h =>
    have hhead := (next_eq c).1
    rw [h] at hhead
    exact (List.head?_eq_none_iff.mp hhead.symm).symm
  | case2 c p c' h ih =>
    obtain ⟨hhead, htail⟩ := next_eq c
    rw [h] at hhead htail
    rw [ih, htail]
    exact (List.eq_cons_of_mem_head? hhead.symm).symm

end Cursor

namespace Registry

/-- **What a registry matches.** The cursor of a text delivers, in order, the patterns that fire. -/
theorem toList_cursor (r : Registry) (text : String) :
    (r.cursor text).toList = r.patterns.filter fun p ↦ decide (p.Fires text) := by
  have hsel : r.selection text = r.patterns.map fun p ↦ decide (p.Eligible text) := by
    rw [selection, r.index_eq]
    exact KeywordIndex.selection_ofPatterns r.patterns text
  rw [Cursor.toList_eq_remaining, Cursor.remaining]
  show ((List.drop 0 (r.patterns.zip (r.selection text))).filter _).map _ = _
  rw [hsel, List.drop_zero, ← List.map_prod_left_eq_zip, List.filter_map, List.map_map]
  show List.map id _ = _
  rw [List.map_id]
  refine List.filter_congr fun p _ ↦ ?_
  show (decide (p.Eligible text) && p.regex.isMatch text) = decide (p.Fires text)
  rw [Bool.eq_iff_iff, Bool.and_eq_true, decide_eq_true_iff, decide_eq_true_iff, Pattern.Fires]

theorem matchingLabels_eq (r : Registry) (text : String) :
    r.matchingLabels text =
      (r.patterns.filter fun p ↦ decide (p.Fires text)).map Pattern.label := by
  rw [matchingLabels, toList_cursor]

/-- The first match is the first of all matches. -/
theorem next_cursor (r : Registry) (text : String) :
    (r.cursor text).next.1 = r.patterns.find? fun p ↦ decide (p.Fires text) := by
  rw [(Cursor.next_eq _).1, ← Cursor.toList_eq_remaining, toList_cursor, List.head?_filter]

/-- **Exact selection, for any list of patterns.** The labels of the matches are those of the
patterns, each at its place, that have no keywords or one that occurs in the text up to the case of
ASCII letters, and whose expression matches. An empty keyword keeps no pattern from being run. -/
theorem matchingLabels_ofPatterns (patterns : List Pattern) (text : String) :
    (ofPatterns patterns).matchingLabels text =
        (patterns.filter fun p ↦
          decide (p.keywords = [] ∨ ∃ k ∈ p.keywords, Occurs k text) &&
            p.regex.isMatch text).map Pattern.label ∧
      ∀ p ∈ patterns, "" ∈ p.keywords → p.Eligible text := by
  refine ⟨?_, fun p _ h ↦ .inr ⟨"", h, occurs_empty text⟩⟩
  rw [matchingLabels_eq]
  refine congrArg _ (List.filter_congr fun p _ ↦ ?_)
  rw [Bool.eq_iff_iff, Bool.and_eq_true, decide_eq_true_iff, decide_eq_true_iff, Pattern.Fires,
    Pattern.Eligible]

end Registry

end SecretScan
