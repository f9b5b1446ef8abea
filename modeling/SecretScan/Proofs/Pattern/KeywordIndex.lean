import Mathlib.Data.List.Basic
import Mathlib.Data.List.Infix
import SecretScan.Pattern.KeywordIndex

/-!
# What the keyword index selects

The index turns a list of patterns round: from a pattern's keywords to the patterns of a keyword.
This module says what the turned list holds, and from it which patterns are run on a text.

```
Holds k i      ↔ pattern i has a keyword that reads k in small letters
selection text = patterns.map fun p ↦ p is eligible for the text
```

Two tables grow side by side while the index is built, the keywords and the positions held under
each, and a map remembers at which place a keyword stands. `Draft.Sound` is the agreement of the
three; it is what lets one step be read as "the position is held under the keyword from now on, and
nothing else changes" (`Draft.holds_enter`). Keywords that are shared, repeated or differ in case
are not treated apart: they only ever meet in that one step.

`selection_ofPatterns` then rests on two facts: a keyword is a hit exactly when it occurs
(`mem_hits`), and an index without keywords belongs to patterns none of which has one, so that the
short cut taken for it is the general rule.
-/

namespace SecretScan

/-! ### Occurrence -/

theorem occursIn_iff {part text : List Char} : occursIn part text = true ↔ part <:+: text := by
  induction text with
  | nil => simp [occursIn]
  | cons c cs ih =>
    rw [occursIn, Bool.or_eq_true, List.isPrefixOf_iff_prefix, ih, List.infix_cons_iff]

/-- A keyword stands somewhere in a text, up to the case of ASCII letters. -/
def Occurs (keyword text : String) : Prop :=
  ∃ part, part <:+: text.toList ∧ part.map Char.toLower = keyword.toList.map Char.toLower

theorem lowered_infix_iff {keyword text : String} :
    lowered keyword <:+: lowered text ↔ Occurs keyword text := by
  rw [lowered, lowered, List.infix_map_iff]
  exact exists_congr fun part ↦ and_congr_right fun _ ↦ eq_comm

instance (keyword text : String) : Decidable (Occurs keyword text) :=
  decidable_of_iff (occursIn (lowered keyword) (lowered text) = true)
    (occursIn_iff.trans lowered_infix_iff)

/-- An empty keyword occurs in every text. -/
theorem occurs_empty (text : String) : Occurs "" text :=
  ⟨[], List.nil_infix, rfl⟩

/-- A pattern is eligible for a text if it has no keywords or one that occurs there. -/
def Pattern.Eligible (p : Pattern) (text : String) : Prop :=
  p.keywords = [] ∨ ∃ k ∈ p.keywords, Occurs k text

instance (p : Pattern) (text : String) : Decidable (p.Eligible text) :=
  inferInstanceAs (Decidable (_ ∨ _))

namespace KeywordIndex

/-! ### What is held under a keyword -/

/-- A position is held under a keyword. -/
def Holds (index : KeywordIndex) (k : List Char) (i : ℕ) : Prop :=
  ∃ place : ℕ, index.keywords[place]? = some k ∧ i ∈ index.holders[place]?.getD []

namespace Draft

/-- The tables of an index that is being built agree: there is a list of positions for each keyword,
and the map sends a keyword to the one place where it stands. -/
structure Sound (d : Draft) : Prop where
  /-- There are as many lists of positions as keywords. -/
  length_eq : d.index.holders.length = d.index.keywords.length
  /-- The map tells where a keyword stands. -/
  places_iff : ∀ (k : List Char) (place : ℕ),
    d.places[k]? = some place ↔ d.index.keywords[place]? = some k

theorem sound_empty : Sound {} where
  length_eq := rfl
  places_iff k place := by simp

variable {d : Draft} {k k' : List Char} {i i' place : ℕ}

/-- A keyword that is known keeps its place, and one more position is held there. -/
theorem enter_of_some (h : d.places[k]? = some place) :
    d.enter i k =
      { d with index.holders := d.index.holders.modify place fun held ↦ held ++ [i] } := by
  rw [enter, h]

/-- A new keyword is put behind the others, with one position. -/
theorem enter_of_none (h : d.places[k]? = none) :
    d.enter i k =
      { index := { d.index with
          keywords := d.index.keywords ++ [k]
          holders := d.index.holders ++ [[i]] }
        places := d.places.insert k d.index.keywords.length } := by
  rw [enter, h]

theorem unkeyed_enter : (d.enter i k).index.unkeyed = d.index.unkeyed := by
  rcases h : d.places[k]? with - | place
  · rw [enter_of_none h]
  · rw [enter_of_some h]

namespace Sound

theorem lt_length (hd : d.Sound) (h : d.places[k]? = some place) :
    place < d.index.keywords.length := by
  obtain ⟨hlt, -⟩ := List.getElem?_eq_some_iff.mp ((hd.places_iff k place).1 h)
  exact hlt

/-- No two keywords stand at one place. -/
theorem place_inj (hd : d.Sound) (h : d.places[k]? = some place) (h' : d.places[k']? = some place) :
    k = k' :=
  Option.some.inj (((hd.places_iff k place).1 h).symm.trans ((hd.places_iff k' place).1 h'))

/-- No keyword stands at two places. -/
theorem nodup_keywords (hd : d.Sound) : d.index.keywords.Nodup := by
  refine List.pairwise_iff_getElem.mpr fun place place' hplace hplace' hlt heq ↦ ?_
  have hat : d.places[d.index.keywords[place]]? = some place :=
    (hd.places_iff _ _).2 (List.getElem?_eq_getElem hplace)
  have hat' : d.places[d.index.keywords[place]]? = some place' :=
    (hd.places_iff _ _).2 (heq ▸ List.getElem?_eq_getElem hplace')
  exact Nat.ne_of_lt hlt (Option.some.inj (hat.symm.trans hat'))

/-- What is held under a keyword, read through the map. -/
theorem holds_iff (hd : d.Sound) :
    d.index.Holds k i ↔
      ∃ place : ℕ, d.places[k]? = some place ∧ i ∈ d.index.holders[place]?.getD [] := by
  simp only [Holds, hd.places_iff]

theorem enter (hd : d.Sound) (i : ℕ) (k : List Char) : (d.enter i k).Sound := by
  rcases h : d.places[k]? with - | place
  · rw [enter_of_none h]
    refine ⟨by simp [hd.length_eq], fun k' place ↦ ?_⟩
    show (d.places.insert k _)[k']? = _ ↔ (d.index.keywords ++ [k])[place]? = _
    rw [Std.HashMap.getElem?_insert, List.getElem?_append]
    by_cases hlt : place < d.index.keywords.length
    · rw [if_pos hlt, ← hd.places_iff]
      by_cases hk : k = k'
      · -- the place is an old one, and the keyword had none
        subst hk
        simp [h, Nat.ne_of_gt hlt]
      · simp [hk]
    · rw [if_neg hlt]
      have hold : d.places[k']? ≠ some place := fun hp ↦ hlt (hd.lt_length hp)
      by_cases hk : k = k'
      · subst hk
        rcases Nat.eq_or_lt_of_le (Nat.le_of_not_lt hlt) with rfl | hgt
        · simp
        · have hne : d.index.keywords.length ≠ place := Nat.ne_of_lt hgt
          have hpos : place - d.index.keywords.length ≠ 0 := by omega
          simp [hne, hpos]
      · simp [hk, hold, List.getElem?_singleton]
  · rw [enter_of_some h]
    exact ⟨by simp [hd.length_eq], hd.places_iff⟩

/-- The keyword is known from now on, and no other one becomes so. -/
theorem mem_keywords_enter (hd : d.Sound) :
    k' ∈ (d.enter i k).index.keywords ↔ k' ∈ d.index.keywords ∨ k' = k := by
  rcases h : d.places[k]? with - | place
  · rw [enter_of_none h]
    show k' ∈ d.index.keywords ++ [k] ↔ _
    rw [List.mem_append, List.mem_singleton]
  · have hmem : k ∈ d.index.keywords := List.mem_of_getElem? ((hd.places_iff k place).1 h)
    rw [enter_of_some h]
    exact (or_iff_left_of_imp fun hk ↦ hk ▸ hmem).symm

/-- **One step of the construction.** The position is held under the keyword from now on, and
nothing else changes. -/
theorem holds_enter (hd : d.Sound) :
    (d.enter i k).index.Holds k' i' ↔ d.index.Holds k' i' ∨ k' = k ∧ i' = i := by
  rw [(hd.enter i k).holds_iff, hd.holds_iff]
  rcases h : d.places[k]? with - | place
  · rw [enter_of_none h]
    show (∃ place : ℕ, (d.places.insert k _)[k']? = _ ∧
      i' ∈ (d.index.holders ++ [[i]])[place]?.getD []) ↔ _
    rw [Std.HashMap.getElem?_insert, ← hd.length_eq]
    by_cases hk : k' = k
    · subst hk
      simp [h]
    · have hne : (k == k') = false := by simpa using Ne.symm hk
      -- what is held at an old place is not touched by what is put behind it
      have hsame : ∀ n : ℕ, d.places[k']? = some n →
          (d.index.holders ++ [[i]])[n]? = d.index.holders[n]? := by
        intro n hn
        exact List.getElem?_append_left (hd.length_eq ▸ hd.lt_length hn)
      rw [hne, or_iff_left fun h' ↦ hk h'.1]
      exact exists_congr fun n ↦ and_congr_right fun hn ↦ by rw [hsame n hn]
  · have hlt : place < d.index.holders.length := hd.length_eq ▸ hd.lt_length h
    rw [enter_of_some h]
    show (∃ n : ℕ, d.places[k']? = some n ∧
      i' ∈ (d.index.holders.modify place fun held ↦ held ++ [i])[n]?.getD []) ↔ _
    by_cases hk : k' = k
    · subst hk
      simp [h, List.getElem?_modify, hlt]
    · have hsame : ∀ n : ℕ, d.places[k']? = some n →
          (d.index.holders.modify place fun held ↦ held ++ [i])[n]? = d.index.holders[n]? := by
        intro n hn
        have hne : place ≠ n := by
          rintro rfl
          exact hk (hd.place_inj hn h)
        simp [hne]
      rw [or_iff_left fun h' ↦ hk h'.1]
      exact exists_congr fun n ↦ and_congr_right fun hn ↦ by rw [hsame n hn]

/-! ### A pattern's keywords, one after the other -/

theorem foldl_enter (hd : d.Sound) (i : ℕ) (ks : List (List Char)) :
    (ks.foldl (Draft.enter i) d).Sound := by
  induction ks generalizing d with
  | nil => exact hd
  | cons k ks ih => exact ih (hd.enter i k)

/-- A pattern's keywords may be entered whatever its position. -/
theorem add (hd : d.Sound) (i : ℕ) (p : Pattern) : (d.add i p).Sound := by
  rw [Draft.add]
  split
  · exact ⟨hd.length_eq, hd.places_iff⟩
  · exact hd.foldl_enter i _

theorem mem_keywords_foldl_enter (hd : d.Sound) {ks : List (List Char)} :
    k' ∈ (ks.foldl (Draft.enter i) d).index.keywords ↔ k' ∈ d.index.keywords ∨ k' ∈ ks := by
  induction ks generalizing d with
  | nil => simp
  | cons k ks ih =>
    rw [List.foldl_cons, ih (hd.enter i k), hd.mem_keywords_enter, List.mem_cons, or_assoc]

theorem holds_foldl_enter (hd : d.Sound) {ks : List (List Char)} :
    (ks.foldl (Draft.enter i) d).index.Holds k' i' ↔
      d.index.Holds k' i' ∨ k' ∈ ks ∧ i' = i := by
  induction ks generalizing d with
  | nil => simp
  | cons k ks ih =>
    rw [List.foldl_cons, ih (hd.enter i k), hd.holds_enter, List.mem_cons, or_and_right, or_assoc]

end Sound

theorem unkeyed_foldl_enter {ks : List (List Char)} :
    (ks.foldl (Draft.enter i) d).index.unkeyed = d.index.unkeyed := by
  induction ks generalizing d with
  | nil => rfl
  | cons k ks ih => rw [List.foldl_cons, ih, unkeyed_enter]

/-! ### The patterns, one after the other -/

variable {p : Pattern} {patterns : List Pattern}

/-- **The invariant of the construction.** After some patterns the index has their keywords, holds
under each of these the positions of the patterns that have it, and apart the positions of those
that have none. -/
structure Covers (d : Draft) (patterns : List Pattern) : Prop extends d.Sound where
  /-- The keywords are those of the patterns. -/
  mem_keywords_iff : ∀ k, k ∈ d.index.keywords ↔ ∃ p ∈ patterns, k ∈ p.keywords.map lowered
  /-- A position is held under a keyword if the pattern there has it. -/
  holds_iff_mem : ∀ k i, d.index.Holds k i ↔ ∃ p, patterns[i]? = some p ∧ k ∈ p.keywords.map lowered
  /-- The positions of the patterns without keywords, in order. -/
  unkeyed_eq : d.index.unkeyed =
    (patterns.zipIdx.filter fun e ↦ e.1.keywords.isEmpty).map Prod.snd

theorem covers_empty : Covers {} [] where
  toSound := sound_empty
  mem_keywords_iff k := by simp
  holds_iff_mem k i := by simp [Holds]
  unkeyed_eq := rfl

/-- Whether a pattern has a keyword, once one more is put behind the others. -/
theorem exists_mem_append_singleton {patterns : List Pattern} {p : Pattern} {k : List Char} :
    (∃ q ∈ patterns ++ [p], k ∈ q.keywords.map lowered) ↔
      (∃ q ∈ patterns, k ∈ q.keywords.map lowered) ∨ k ∈ p.keywords.map lowered := by
  simp only [List.mem_append, List.mem_singleton, or_and_right, exists_or, exists_eq_left]

/-- Where a pattern with a keyword stands, once one more is put behind the others. -/
theorem exists_getElem?_append_singleton {patterns : List Pattern} {p : Pattern} {k : List Char}
    {i : ℕ} :
    (∃ q, (patterns ++ [p])[i]? = some q ∧ k ∈ q.keywords.map lowered) ↔
      (∃ q, patterns[i]? = some q ∧ k ∈ q.keywords.map lowered) ∨
        k ∈ p.keywords.map lowered ∧ i = patterns.length := by
  rcases Nat.lt_trichotomy i patterns.length with hlt | rfl | hgt
  · rw [List.getElem?_append_left hlt, or_iff_left fun h ↦ Nat.ne_of_lt hlt h.2]
  · simp
  · have hnone : patterns[i]? = none := List.getElem?_eq_none (Nat.le_of_lt hgt)
    have hnone' : (patterns ++ [p])[i]? = none := by
      rw [List.getElem?_eq_none_iff, List.length_append, List.length_singleton]
      omega
    simp [hnone, hnone', Nat.ne_of_gt hgt]

theorem Covers.add (hd : d.Covers patterns) (p : Pattern) :
    (d.add patterns.length p).Covers (patterns ++ [p]) := by
  have hsound := hd.toSound.add patterns.length p
  by_cases hp : p.keywords.isEmpty = true
  · rw [Draft.add, if_pos hp] at hsound ⊢
    refine ⟨hsound, fun k ↦ ?_, fun k i ↦ ?_, ?_⟩
    · show k ∈ d.index.keywords ↔ _
      rw [hd.mem_keywords_iff, exists_mem_append_singleton, List.isEmpty_iff.mp hp]
      simp
    · rw [exists_getElem?_append_singleton, List.isEmpty_iff.mp hp]
      show d.index.Holds k i ↔ _
      rw [hd.holds_iff_mem]
      simp
    · show d.index.unkeyed ++ [patterns.length] = _
      rw [hd.unkeyed_eq, List.zipIdx_append]
      simp [hp]
  · rw [Draft.add, if_neg hp] at hsound ⊢
    refine ⟨hsound, fun k ↦ ?_, fun k i ↦ ?_, ?_⟩
    · rw [hd.mem_keywords_foldl_enter, hd.mem_keywords_iff, exists_mem_append_singleton]
    · rw [hd.holds_foldl_enter, hd.holds_iff_mem, exists_getElem?_append_singleton]
    · rw [unkeyed_foldl_enter, hd.unkeyed_eq, List.zipIdx_append]
      simp [hp]

theorem covers_foldl (patterns : List Pattern) :
    (patterns.zipIdx.foldl (fun d e ↦ d.add e.2 e.1) ({} : Draft)).Covers patterns := by
  induction patterns using List.reverseRecOn with
  | nil => exact covers_empty
  | append_singleton patterns p ih =>
    rw [List.zipIdx_append, List.foldl_append]
    simpa using ih.add p

end Draft

/-! ### The finished index -/

variable {patterns : List Pattern} {k : List Char} {i : ℕ}

theorem holds_ofPatterns :
    (ofPatterns patterns).Holds k i ↔
      ∃ p, patterns[i]? = some p ∧ k ∈ p.keywords.map lowered :=
  (Draft.covers_foldl patterns).holds_iff_mem k i

theorem unkeyed_ofPatterns :
    (ofPatterns patterns).unkeyed =
      (patterns.zipIdx.filter fun e ↦ e.1.keywords.isEmpty).map Prod.snd :=
  (Draft.covers_foldl patterns).unkeyed_eq

theorem mem_unkeyed_ofPatterns :
    i ∈ (ofPatterns patterns).unkeyed ↔ ∃ p, patterns[i]? = some p ∧ p.keywords = [] := by
  simp [unkeyed_ofPatterns, List.mem_zipIdx_iff_getElem?, and_comm]

/-- If there are no keywords at all then no pattern has one. -/
theorem keywords_eq_nil (h : (ofPatterns patterns).keywords = []) {p : Pattern}
    (hp : p ∈ patterns) : p.keywords = [] := by
  obtain ⟨i, hi⟩ := List.getElem?_of_mem hp
  by_contra hne
  obtain ⟨k, ks, hk⟩ := List.exists_cons_of_ne_nil hne
  have hmem : lowered k ∈ p.keywords.map lowered := by simp [hk]
  obtain ⟨place, hplace, -⟩ := holds_ofPatterns.2 ⟨p, hi, hmem⟩
  rw [h] at hplace
  exact absurd hplace (by simp)

/-! ### Selection -/

variable {index : KeywordIndex}

/-- A place is a hit if the keyword that stands there occurs in the text. -/
theorem mem_hits {text : List Char} {place : ℕ} :
    place ∈ index.hits text ↔ ∃ k, index.keywords[place]? = some k ∧ k <:+: text := by
  simp [hits, List.mem_zipIdx_iff_getElem?, occursIn_iff]

/-- The positions that the hits of a text lead to are those held under a keyword that occurs. -/
theorem mem_flatMap_hits {text : List Char} :
    (i ∈ (index.hits text).flatMap fun place ↦ index.holders[place]?.getD []) ↔
      ∃ k, index.Holds k i ∧ k <:+: text := by
  simp only [List.mem_flatMap, mem_hits, Holds]
  constructor
  · rintro ⟨place, ⟨k, hk, htext⟩, hi⟩
    exact ⟨k, ⟨place, hk, hi⟩, htext⟩
  · rintro ⟨k, ⟨place, hk, hi⟩, htext⟩
    exact ⟨place, ⟨k, hk, htext⟩, hi⟩

/-- A truth value is set if its position is among those given, and as it was otherwise. -/
theorem getElem?_mark {positions : List ℕ} {flags : List Bool} {i : ℕ} :
    (mark positions flags)[i]? = flags[i]?.map fun b ↦ decide (i ∈ positions) || b := by
  induction positions generalizing flags with
  | nil => simp [mark]
  | cons n positions ih =>
    rw [mark, List.foldl_cons, ← mark, ih, List.getElem?_set]
    by_cases h : n = i
    · subst h
      by_cases hlt : n < flags.length <;> simp [hlt]
    · have hne : i ≠ n := Ne.symm h
      simp [h, hne]

/-- The positions collected for a text are those of the eligible patterns. -/
theorem mem_positions_iff {p : Pattern} {text : String} (hi : patterns[i]? = some p) :
    (i ∈ (ofPatterns patterns).unkeyed ++ ((ofPatterns patterns).hits (lowered text)).flatMap
      fun place ↦ (ofPatterns patterns).holders[place]?.getD []) ↔ p.Eligible text := by
  rw [List.mem_append, mem_unkeyed_ofPatterns, mem_flatMap_hits, Pattern.Eligible]
  simp only [holds_ofPatterns, hi, Option.some.injEq, exists_eq_left', List.mem_map]
  refine or_congr_right ⟨?_, ?_⟩
  · rintro ⟨_, ⟨k, hk, rfl⟩, htext⟩
    exact ⟨k, hk, lowered_infix_iff.1 htext⟩
  · rintro ⟨k, hk, htext⟩
    exact ⟨lowered k, ⟨k, hk, rfl⟩, lowered_infix_iff.2 htext⟩

/-- **Selection.** The truth values say which patterns are eligible for the text. -/
theorem selection_ofPatterns (patterns : List Pattern) (text : String) :
    (ofPatterns patterns).selection patterns.length text =
      patterns.map fun p ↦ decide (p.Eligible text) := by
  rw [selection]
  split
  · next hnone =>
    -- no keyword anywhere: all patterns are run, and all are eligible
    symm
    rw [List.eq_replicate_iff]
    refine ⟨List.length_map _, fun b hb ↦ ?_⟩
    obtain ⟨p, hp, rfl⟩ := List.mem_map.mp hb
    exact decide_eq_true (.inl (keywords_eq_nil (List.isEmpty_iff.mp hnone) hp))
  · refine List.ext_getElem? fun i ↦ ?_
    rw [getElem?_mark, List.getElem?_replicate, List.getElem?_map]
    rcases hi : patterns[i]? with - | p
    · rw [if_neg (Nat.not_lt_of_le (List.getElem?_eq_none_iff.mp hi))]
      rfl
    · rw [if_pos (List.getElem?_eq_some_iff.mp hi).1]
      simp only [Option.map_some, Bool.or_false, mem_positions_iff hi]

end KeywordIndex

end SecretScan
