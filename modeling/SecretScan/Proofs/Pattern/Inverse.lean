import SecretScan.Pattern.Registry
import SecretScan.Proofs.Lists
import SecretScan.Proofs.Pattern.KeywordIndex

/-!
# The keyword index as an inverse

The index of a list of patterns is the list turned round, with nothing lost and nothing put in
(`KeywordIndex.Inverts`): of a pattern and a keyword, the index says the same as the list. Every
position it holds is therefore one of the list, and there are positions for every keyword.

Lists are looked into by number in three places: where a position is added behind those of a keyword
that is known, where the positions of a keyword that occurs are looked up, and where the truth value
at a position is set. The program does nothing at a number that is too large. The variants here,
with a `?` behind their names, fail there instead:

```
ofPatterns? patterns                            = some (ofPatterns patterns)
(ofPatterns patterns).selection? n text         = some (selection of the registry)
```

So none of these numbers is ever too large. While the index is built this rests on the agreement of
its tables only (`Draft.Sound`), and for a text on the index being an inverse.
-/

namespace SecretScan

namespace KeywordIndex

variable {patterns : List Pattern} {index : KeywordIndex}

/-! ### What the index holds -/

/-- An index says of patterns and keywords what a list of patterns says. -/
structure Inverts (index : KeywordIndex) (patterns : List Pattern) : Prop where
  /-- No keyword comes twice. -/
  nodup_keywords : index.keywords.Nodup
  /-- The keywords are those of the patterns, in small letters. -/
  mem_keywords_iff : ∀ k, k ∈ index.keywords ↔ ∃ p ∈ patterns, k ∈ p.keywords.map lowered
  /-- There is a list of positions for each keyword. -/
  length_holders : index.holders.length = index.keywords.length
  /-- In the list beside a keyword stand the positions of the patterns that have it. -/
  mem_holders_iff : ∀ (place i : ℕ) (k : List Char) (held : List ℕ),
    index.keywords[place]? = some k → index.holders[place]? = some held →
      (i ∈ held ↔ ∃ p, patterns[i]? = some p ∧ k ∈ p.keywords.map lowered)
  /-- Apart stand the positions of the patterns without keywords, -/
  mem_unkeyed_iff : ∀ i, i ∈ index.unkeyed ↔ ∃ p, patterns[i]? = some p ∧ p.keywords = []
  /-- each once and in order. -/
  pairwise_unkeyed : index.unkeyed.Pairwise (· < ·)
  /-- A position in one of the lists is one of a pattern. -/
  lt_of_mem_holders : ∀ held ∈ index.holders, ∀ i ∈ held, i < patterns.length
  /-- So is one that stands apart. -/
  lt_of_mem_unkeyed : ∀ i ∈ index.unkeyed, i < patterns.length

/-- What is held under a keyword is what stands in the list beside it. -/
theorem Draft.Sound.mem_iff_holds {d : Draft} (hd : d.Sound) {place i : ℕ} {k : List Char}
    {held : List ℕ} (hk : d.index.keywords[place]? = some k)
    (hheld : d.index.holders[place]? = some held) : i ∈ held ↔ d.index.Holds k i := by
  have hplace : d.places[k]? = some place := (hd.places_iff k place).2 hk
  rw [hd.holds_iff]
  constructor
  · intro hi
    exact ⟨place, hplace, by rwa [hheld]⟩
  · rintro ⟨place', hplace', hi⟩
    obtain rfl := Option.some.inj (hplace.symm.trans hplace')
    rwa [hheld] at hi

/-- A list of positions stands beside a keyword. -/
theorem Draft.Sound.exists_keyword {d : Draft} (hd : d.Sound) {held : List ℕ}
    (hheld : held ∈ d.index.holders) :
    ∃ (place : ℕ) (k : List Char), d.index.keywords[place]? = some k ∧
      d.index.holders[place]? = some held := by
  obtain ⟨place, hplace⟩ := List.getElem?_of_mem hheld
  obtain ⟨hlt, -⟩ := List.getElem?_eq_some_iff.mp hplace
  rw [hd.length_eq] at hlt
  exact ⟨place, d.index.keywords[place], List.getElem?_eq_getElem hlt, hplace⟩

/-- Positions that stand apart are in order. -/
theorem pairwise_unkeyed_ofPatterns (patterns : List Pattern) :
    (ofPatterns patterns).unkeyed.Pairwise (· < ·) := by
  rw [unkeyed_ofPatterns]
  have hsublist := (List.filter_sublist (p := fun e : Pattern × ℕ ↦ e.1.keywords.isEmpty)
    (l := patterns.zipIdx)).map Prod.snd
  refine List.Pairwise.sublist hsublist ?_
  rw [List.zipIdx_map_snd]
  exact List.pairwise_lt_range'

theorem inverts_ofPatterns (patterns : List Pattern) : (ofPatterns patterns).Inverts patterns := by
  have hd := Draft.covers_foldl patterns
  have hlt {i : ℕ} {P : Pattern → Prop} (h : ∃ p, patterns[i]? = some p ∧ P p) :
      i < patterns.length := by
    obtain ⟨p, hp, -⟩ := h
    exact (List.getElem?_eq_some_iff.mp hp).1
  have hholders (place i : ℕ) (k : List Char) (held : List ℕ)
      (hk : (ofPatterns patterns).keywords[place]? = some k)
      (hheld : (ofPatterns patterns).holders[place]? = some held) :
      i ∈ held ↔ ∃ p, patterns[i]? = some p ∧ k ∈ p.keywords.map lowered :=
    (hd.mem_iff_holds hk hheld).trans holds_ofPatterns
  exact {
    nodup_keywords := hd.nodup_keywords
    mem_keywords_iff := hd.mem_keywords_iff
    length_holders := hd.length_eq
    mem_holders_iff := hholders
    mem_unkeyed_iff := fun i ↦ mem_unkeyed_ofPatterns
    pairwise_unkeyed := pairwise_unkeyed_ofPatterns patterns
    lt_of_mem_holders := fun held hheld i hi ↦ by
      obtain ⟨place, k, hk, hplace⟩ := hd.exists_keyword hheld
      exact hlt ((hholders place i k held hk hplace).1 hi)
    lt_of_mem_unkeyed := fun i hi ↦ hlt (mem_unkeyed_ofPatterns.1 hi) }

/-! ### Building -/

namespace Draft

/-- Entering a position, which fails if no positions stand at the place of a known keyword. -/
def enter? (position : ℕ) (d : Draft) (keyword : List Char) : Option Draft :=
  match d.places[keyword]? with
  | some place => do
    let held ← d.index.holders[place]?
    return { d with index.holders := d.index.holders.set place (held ++ [position]) }
  | none => some (d.enter position keyword)

/-- Entering the pattern at a position, which fails if one of its keywords cannot be entered. -/
def add? (d : Draft) (position : ℕ) (p : Pattern) : Option Draft :=
  if p.keywords.isEmpty then some (d.add position p)
  else (p.keywords.map lowered).foldlM (Draft.enter? position) d

variable {d : Draft}

/-- At the place of a known keyword there are positions. -/
theorem Sound.enter?_eq (hd : d.Sound) (i : ℕ) (k : List Char) :
    d.enter? i k = some (d.enter i k) := by
  rw [enter?]
  rcases h : d.places[k]? with - | place
  · rfl
  · have hlt : place < d.index.holders.length := hd.length_eq ▸ hd.lt_length h
    rw [enter_of_some h, List.modify_eq_set_get _ hlt]
    show (d.index.holders[place]? >>= fun held ↦ _) = _
    rw [List.getElem?_eq_getElem hlt]
    rfl

theorem Sound.add?_eq (hd : d.Sound) (i : ℕ) (p : Pattern) : d.add? i p = some (d.add i p) := by
  by_cases hp : p.keywords.isEmpty = true
  · rw [add?, if_pos hp]
  · rw [add?, if_neg hp, Draft.add, if_neg hp]
    exact foldlM_eq_some (fun d hd k _ ↦ ⟨hd.enter?_eq i k, hd.enter i k⟩) hd

end Draft

/-- The index of a list of patterns, unless one of them cannot be entered. -/
def ofPatterns? (patterns : List Pattern) : Option KeywordIndex :=
  Draft.index <$> patterns.zipIdx.foldlM (fun d e ↦ d.add? e.2 e.1) ({} : Draft)

theorem ofPatterns?_eq (patterns : List Pattern) :
    ofPatterns? patterns = some (ofPatterns patterns) := by
  rw [ofPatterns?, foldlM_eq_some (f := fun d e ↦ d.add e.2 e.1)
    (fun d hd e _ ↦ ⟨hd.add?_eq e.2 e.1, hd.add e.2 e.1⟩) Draft.sound_empty]
  rfl

/-! ### Selecting -/

/-- Setting the truth values at some positions, which fails at a position that has none. -/
def mark? (positions : List ℕ) (flags : List Bool) : Option (List Bool) :=
  positions.foldlM (fun flags i ↦ if i < flags.length then some (flags.set i true) else none) flags

/-- The patterns to run on a text, unless positions are missing or one of them has no truth value. -/
def selection? (index : KeywordIndex) (n : ℕ) (text : String) : Option (List Bool) :=
  if index.keywords.isEmpty then some (List.replicate n true)
  else do
    let flags ← mark? index.unkeyed (List.replicate n false)
    (index.hits (lowered text)).foldlM (fun flags place ↦ do mark? (← index.holders[place]?) flags)
      flags

theorem length_mark (positions : List ℕ) (flags : List Bool) :
    (mark positions flags).length = flags.length := by
  induction positions generalizing flags with
  | nil => rfl
  | cons i positions ih => rw [mark, List.foldl_cons, ← mark, ih, List.length_set]

/-- One keyword after the other, or all their positions together. -/
theorem mark_append_flatMap (positions places : List ℕ) (f : ℕ → List ℕ) (flags : List Bool) :
    mark (positions ++ places.flatMap f) flags =
      places.foldl (fun flags place ↦ mark (f place) flags) (mark positions flags) := by
  rw [mark, List.foldl_append, List.foldl_flatMap]
  rfl

theorem mark?_eq {positions : List ℕ} {flags : List Bool}
    (h : ∀ i ∈ positions, i < flags.length) : mark? positions flags = some (mark positions flags) :=
  foldlM_eq_some (P := fun flags' ↦ flags'.length = flags.length)
    (fun flags' hflags i hi ↦ ⟨if_pos (hflags ▸ h i hi), by rw [List.length_set, hflags]⟩) rfl

/-- **Selection** looks up positions that are there, and sets truth values that are there. -/
theorem Inverts.selection?_eq (h : index.Inverts patterns) (text : String) :
    index.selection? patterns.length text = some (index.selection patterns.length text) := by
  rw [selection?, selection]
  split
  · rfl
  · have hunkeyed : mark? index.unkeyed (List.replicate patterns.length false) =
        some (mark index.unkeyed (List.replicate patterns.length false)) :=
      mark?_eq fun i hi ↦ by
        rw [List.length_replicate]
        exact h.lt_of_mem_unkeyed i hi
    rw [hunkeyed, mark_append_flatMap]
    refine foldlM_eq_some (P := fun flags ↦ flags.length = patterns.length)
      (fun flags hflags place hplace ↦ ?_) (by rw [length_mark, List.length_replicate])
    obtain ⟨k, hk, -⟩ := mem_hits.1 hplace
    have hlt : place < index.holders.length := by
      rw [h.length_holders]
      exact (List.getElem?_eq_some_iff.mp hk).1
    have hheld : mark? index.holders[place] flags = some (mark index.holders[place] flags) :=
      mark?_eq fun i hi ↦ by
        rw [hflags]
        exact h.lt_of_mem_holders _ (List.getElem_mem hlt) i hi
    rw [List.getElem?_eq_getElem hlt, Option.getD_some]
    exact ⟨hheld, by rw [length_mark, hflags]⟩

/-- **The keyword index is the inverse of the list of patterns.** It has each keyword once, beside
each the positions of the patterns that have it, and apart, in order, those of the patterns that have
none. Neither while it is built nor when patterns are selected for a text is a list looked into at a
place that it does not have. -/
theorem is_inverse_of_patterns (patterns : List Pattern) :
    (ofPatterns patterns).Inverts patterns ∧
      ofPatterns? patterns = some (ofPatterns patterns) ∧
      ∀ text, (ofPatterns patterns).selection? patterns.length text =
        some ((Registry.ofPatterns patterns).selection text) := by
  have hinverts := inverts_ofPatterns patterns
  exact ⟨hinverts, ofPatterns?_eq patterns, hinverts.selection?_eq⟩

end KeywordIndex

end SecretScan
