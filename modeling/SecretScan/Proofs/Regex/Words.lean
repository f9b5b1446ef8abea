import Mathlib.Computability.Language
import SecretScan.Regex.Chart.Spans

/-!
# The words of an expression

A chart relates places of one text. For an expression that asks no conditions the text around a
match does not count, and what it matches is a language: `Expr.words`. The bridge is

```
Spans (e.over text) i j  ↔  j = i + v.length for a word v of e that stands at place i
e.isMatch text           ↔  a word of e stands somewhere in the text
```

The first half holds of every expression from left to right, since a condition only takes matches
away (`exists_word_of_isMatch`); the converse is where `Expr.isPlain` is needed (`isMatch_iff`).
-/

namespace SecretScan.Regex

namespace Expr

variable {α : Type}

/-- The words that an expression matches, conditions passed over. -/
def words : Expr CharSet α → Language Char
  | .empty | .guard _ => 1
  | .step s => {w | ∃ c : Char, w = [c] ∧ s.contains c.toNat = true}
  | .cat e f => e.words * f.words
  | .alt e f => e.words + f.words
  | .times e least most => {w | ∃ n, least ≤ n ∧ (∀ m, most = some m → n ≤ m) ∧ w ∈ e.words ^ n}

/-- Whether an expression asks no conditions. -/
def isPlain : Expr CharSet α → Bool
  | .empty | .step _ => true
  | .guard _ => false
  | .cat e f | .alt e f => e.isPlain && f.isPlain
  | .times e _ _ => e.isPlain

end Expr

/-- A word of a language stands in a text from one place to another. -/
def StandsAt (l : Language Char) (text : List Char) (i j : ℕ) : Prop :=
  ∃ v ∈ l, v <+: text.drop i ∧ j = i + v.length

namespace StandsAt

variable {l m : Language Char} {text : List Char} {i j k n : ℕ}

theorem one_iff : StandsAt 1 text i j ↔ i = j := by
  constructor
  · rintro ⟨v, hv, -, rfl⟩
    obtain rfl := (Language.mem_one v).mp hv
    rfl
  · rintro rfl
    exact ⟨[], Language.nil_mem_one, List.nil_prefix, rfl⟩

/-- A word that is put together stands where its parts stand one behind the other. -/
theorem mul_iff : StandsAt (l * m) text i j ↔ ∃ k, StandsAt l text i k ∧ StandsAt m text k j := by
  constructor
  · rintro ⟨-, ⟨u, hu, v, hv, rfl⟩, ⟨rest, hrest⟩, rfl⟩
    have hu' : u <+: text.drop i := ⟨v ++ rest, by rw [← hrest, List.append_assoc]⟩
    have hv' : v <+: text.drop (i + u.length) := by
      rw [← List.drop_drop, ← hrest, List.append_assoc, List.drop_left]
      exact List.prefix_append v rest
    exact ⟨i + u.length, ⟨u, hu, hu', rfl⟩, v, hv, hv', by rw [List.length_append, Nat.add_assoc]⟩
  · rintro ⟨-, ⟨u, hu, ⟨rest, hrest⟩, rfl⟩, v, hv, hv', rfl⟩
    rw [← List.drop_drop, ← hrest, List.drop_left] at hv'
    refine ⟨u ++ v, Language.append_mem_mul hu hv, ?_, by rw [List.length_append, Nat.add_assoc]⟩
    rw [← hrest, List.prefix_append_right_inj]
    exact hv'

theorem pow_iff : StandsAt (l ^ n) text i j ↔ Power (StandsAt l text) n i j := by
  induction n generalizing i with
  | zero => rw [pow_zero, one_iff, Power]
  | succ n ih =>
    rw [pow_succ', mul_iff, Power]
    exact exists_congr fun k ↦ and_congr_right fun _ ↦ ih

end StandsAt

namespace Power

variable {R S : ℕ → ℕ → Prop} {n i j : ℕ}

/-- Steps of a relation are steps of every wider one. -/
theorem mono (h : ∀ i j, R i j → S i j) (hij : Power R n i j) : Power S n i j := by
  induction n generalizing i with
  | zero => exact hij
  | succ n ih =>
    obtain ⟨k, hik, hkj⟩ := hij
    exact ⟨k, h i k hik, ih hkj⟩

end Power

namespace Expr

variable {e : Expr CharSet Assertion} {text : List Char} {i j : ℕ}

theorem standsAt_step_iff {s : CharSet} :
    StandsAt (words (α := Assertion) (.step s)) text i j ↔
      i ∈ membersIn text.toArray s ∧ j = i + 1 := by
  rw [mem_membersIn]
  constructor
  · rintro ⟨-, ⟨c, rfl, hc⟩, ⟨rest, hrest⟩, rfl⟩
    refine ⟨⟨c, ?_, hc⟩, rfl⟩
    have hget : (text.drop i)[0]? = some c := by rw [← hrest]; rfl
    simpa using hget
  · rintro ⟨⟨c, hget, hc⟩, rfl⟩
    refine ⟨[c], ⟨c, rfl, hc⟩, ?_, rfl⟩
    rw [List.getElem?_toArray] at hget
    obtain ⟨hlt, rfl⟩ := List.getElem?_eq_some_iff.mp hget
    rw [List.drop_eq_getElem_cons hlt]
    exact ⟨text.drop (i + 1), rfl⟩

/-- What a chart spans is a word of its expression. -/
theorem standsAt_of_spans (h : Chart.Spans (e.over text.toArray) i j) :
    StandsAt e.words text i j := by
  induction e generalizing i j with
  | empty => exact StandsAt.one_iff.mpr h
  | guard a => exact StandsAt.one_iff.mpr h.2
  | step s => exact standsAt_step_iff.mpr h
  | cat e f ihe ihf =>
    obtain ⟨k, hik, hkj⟩ := h
    exact StandsAt.mul_iff.mpr ⟨k, ihe hik, ihf hkj⟩
  | alt e f ihe ihf =>
    rcases h with h | h
    · obtain ⟨v, hv, hplace⟩ := ihe h
      exact ⟨v, .inl hv, hplace⟩
    · obtain ⟨v, hv, hplace⟩ := ihf h
      exact ⟨v, .inr hv, hplace⟩
  | times e least most ih =>
    obtain ⟨n, hleast, hmost, hn⟩ := h
    obtain ⟨v, hv, hplace⟩ := StandsAt.pow_iff.mpr (hn.mono fun i j ↦ ih)
    exact ⟨v, ⟨n, hleast, hmost, hv⟩, hplace⟩

/-- Without conditions every word is spanned wherever it stands. -/
theorem spans_of_standsAt (he : e.isPlain = true) (h : StandsAt e.words text i j) :
    Chart.Spans (e.over text.toArray) i j := by
  induction e generalizing i j with
  | empty => exact StandsAt.one_iff.mp h
  | guard a => exact absurd he (by simp [isPlain])
  | step s => exact standsAt_step_iff.mp h
  | cat e f ihe ihf =>
    rw [isPlain, Bool.and_eq_true] at he
    obtain ⟨k, hik, hkj⟩ := StandsAt.mul_iff.mp h
    exact ⟨k, ihe he.1 hik, ihf he.2 hkj⟩
  | alt e f ihe ihf =>
    rw [isPlain, Bool.and_eq_true] at he
    obtain ⟨v, hv | hv, hplace⟩ := h
    · exact .inl (ihe he.1 ⟨v, hv, hplace⟩)
    · exact .inr (ihf he.2 ⟨v, hv, hplace⟩)
  | times e least most ih =>
    obtain ⟨v, ⟨n, hleast, hmost, hv⟩, hplace⟩ := h
    have hn := StandsAt.pow_iff.mp ⟨v, hv, hplace⟩
    exact ⟨n, hleast, hmost, hn.mono fun i j ↦ ih he⟩

/-- A word stands from some place on if it is part of the text. -/
theorem exists_standsAt_iff {l : Language Char} :
    (∃ i j, i ≤ text.length ∧ StandsAt l text i j) ↔ ∃ v ∈ l, v <:+: text := by
  constructor
  · rintro ⟨i, j, -, v, hv, hprefix, -⟩
    exact ⟨v, hv, hprefix.isInfix.trans (List.drop_suffix i text).isInfix⟩
  · rintro ⟨v, hv, before, behind, rfl⟩
    refine ⟨before.length, _, by simp, v, hv, ?_, rfl⟩
    rw [List.append_assoc, List.drop_left]
    exact List.prefix_append v behind

/-- A match is a word of the expression that is part of the text. -/
theorem exists_word_of_isMatch (h : e.isMatch text.toArray = true) :
    ∃ v ∈ e.words, v <:+: text := by
  obtain ⟨i, j, hi, hij⟩ := isMatch_eq_true_iff.mp h
  exact exists_standsAt_iff.mp ⟨i, j, hi, standsAt_of_spans hij⟩

/-- **Matching without conditions.** Such an expression matches a text exactly if one of its words
is part of it. -/
theorem isMatch_iff (he : e.isPlain = true) :
    e.isMatch text.toArray = true ↔ ∃ v ∈ e.words, v <:+: text := by
  refine ⟨exists_word_of_isMatch, fun h ↦ ?_⟩
  obtain ⟨i, j, hi, hij⟩ := exists_standsAt_iff.mpr h
  exact isMatch_eq_true_iff.mpr ⟨i, j, hi, spans_of_standsAt he hij⟩

end Expr

end SecretScan.Regex
