import SecretScan.Regex.Chart

/-!
# What sets of positions compute

`Chart.ends` moves sets of places and `Chart.Spans` relates single places; this module proves that the
two agree (`Chart.mem_ends`), and so what it means that an expression matches
(`Expr.isMatch_eq_true_iff`).

That a move follows a relation (`Follows`) is kept by composition, union and repetition, one lemma for
each, so that the agreement is an induction on the expression. A round of an unbounded repetition never
moves back, so rounds that stay in place can be left out and as many rounds as the text has characters
reach everything (`Power.shorten`); what the search has seen on the way is its invariant (`Wave`).
-/

namespace SecretScan.Regex

/-! ### Powers of a relation -/

namespace Power

variable {R : Nat → Nat → Prop} {m n i j k : Nat}

/-- Steps taken one after the other add up. -/
theorem trans (h : Power R m i k) (h' : Power R n k j) : Power R (m + n) i j := by
  induction m generalizing i with
  | zero =>
    obtain rfl := h
    simpa using h'
  | succ m ih =>
    obtain ⟨l, hl, h⟩ := h
    rw [Nat.add_right_comm]
    exact ⟨l, hl, ih h⟩

/-- A sum of steps can be split. -/
theorem split (h : Power R (m + n) i j) : ∃ k, Power R m i k ∧ Power R n k j := by
  induction m generalizing i with
  | zero => exact ⟨i, rfl, by simpa using h⟩
  | succ m ih =>
    rw [Nat.add_right_comm] at h
    obtain ⟨l, hl, h⟩ := h
    obtain ⟨k, hk, hkj⟩ := ih h
    exact ⟨k, ⟨l, hl, hk⟩, hkj⟩

/-- A relation that never moves back has powers that never move back. -/
theorem le (hR : ∀ i j, R i j → i ≤ j) (h : Power R n i j) : i ≤ j := by
  induction n generalizing i with
  | zero => exact Nat.le_of_eq h
  | succ n ih =>
    obtain ⟨k, hk, h⟩ := h
    exact Nat.le_trans (hR i k hk) (ih h)

/-- A relation that never leaves the places up to `size` has powers that never leave them. -/
theorem le_size {size : Nat} (hR : ∀ i j, i ≤ size → R i j → j ≤ size) (hi : i ≤ size)
    (h : Power R n i j) : j ≤ size := by
  induction n generalizing i with
  | zero => exact h ▸ hi
  | succ n ih =>
    obtain ⟨k, hk, h⟩ := h
    exact ih (hR i k hi hk) h

/-- Where no step moves back, the steps that stay in place can be left out. -/
theorem shorten (hR : ∀ i j, R i j → i ≤ j) (h : Power R n i j) :
    ∃ m, m ≤ n ∧ m ≤ j - i ∧ Power R m i j := by
  induction n generalizing i with
  | zero => exact ⟨0, Nat.le_refl 0, Nat.zero_le _, h⟩
  | succ n ih =>
    obtain ⟨k, hk, h⟩ := h
    obtain ⟨m, hmn, hmj, hm⟩ := ih h
    have hik := hR i k hk
    have hkj := h.le hR
    rcases Nat.eq_or_lt_of_le hik with rfl | hlt
    · exact ⟨m, by omega, hmj, hm⟩
    · exact ⟨m + 1, by omega, by omega, k, hk, hm⟩

end Power

namespace Chart

/-! ### Moves and the relations they follow -/

/-- A move of sets follows a relation on the places up to `size`: it takes a set to all places related
to a member, and these are places up to `size` again. -/
structure Follows (size : Nat) (move : Positions → Positions) (R : Nat → Nat → Prop) : Prop where
  /-- The places moved to are those related to a member. -/
  mem_iff : ∀ s : Positions, (∀ i ∈ s, i ≤ size) → ∀ j, j ∈ move s ↔ ∃ i ∈ s, R i j
  /-- No place beyond the text is moved to. -/
  le_size : ∀ i j, i ≤ size → R i j → j ≤ size
  /-- No step moves back. -/
  le : ∀ i j, R i j → i ≤ j

namespace Follows

variable {size : Nat} {move : Positions → Positions} {R : Nat → Nat → Prop}

/-- A move keeps sets within the text. -/
theorem bounded (hf : Follows size move R) {s : Positions} (hs : ∀ i ∈ s, i ≤ size) :
    ∀ j ∈ move s, j ≤ size := by
  intro j hj
  obtain ⟨i, hi, hij⟩ := (hf.mem_iff s hs j).mp hj
  exact hf.le_size i j (hs i hi) hij

theorem mem_iterate (hf : Follows size move R) (n : Nat) {s : Positions} (hs : ∀ i ∈ s, i ≤ size)
    (j : Nat) : j ∈ iterate move n s ↔ ∃ i ∈ s, Power R n i j := by
  induction n generalizing s with
  | zero => simp [iterate, Power]
  | succ n ih =>
    rw [iterate]
    split
    · next hempty =>
      rw [Positions.isEmpty_iff] at hempty
      constructor
      · exact fun h => absurd h (hempty j)
      · rintro ⟨i, hi, -⟩
        exact absurd hi (hempty i)
    · rw [ih (hf.bounded hs)]
      constructor
      · rintro ⟨k, hk, hkj⟩
        obtain ⟨i, hi, hik⟩ := (hf.mem_iff s hs k).mp hk
        exact ⟨i, hi, k, hik, hkj⟩
      · rintro ⟨i, hi, k, hik, hkj⟩
        exact ⟨k, (hf.mem_iff s hs k).mpr ⟨i, hi, hik⟩, hkj⟩

/-- A path that starts in a set stays there until it passes a member of `next`, if every step out of
the set leads to one. -/
theorem path_escapes {inside next : Nat → Prop}
    (hstep : ∀ i j, inside i → R i j → inside j ∨ next j) {n i j : Nat} (hi : inside i)
    (h : Power R n i j) : inside j ∨ ∃ m, m < n ∧ ∃ k, next k ∧ Power R m k j := by
  induction n generalizing i with
  | zero =>
    obtain rfl := h
    exact .inl hi
  | succ n ih =>
    obtain ⟨k, hik, hkj⟩ := h
    rcases hstep i k hi hik with hk | hk
    · rcases ih hk hkj with hj | ⟨m, hmn, l, hl, hlj⟩
      · exact .inl hj
      · exact .inr ⟨m, by omega, l, hl, hlj⟩
    · exact .inr ⟨n, by omega, k, hk, hkj⟩

/-- The invariant of a search that spreads: the fresh places are among those seen, and from all the
others no step leads on. -/
structure Wave (size : Nat) (R : Nat → Nat → Prop) (seen fresh : Positions) : Prop where
  /-- Nothing beyond the text has been seen. -/
  le_size : ∀ i ∈ seen, i ≤ size
  /-- A fresh place has been seen. -/
  mem_seen : ∀ i ∈ fresh, i ∈ seen
  /-- A step from a place that is not fresh leads to one that has been seen. -/
  closed : ∀ i ∈ seen, i ∉ fresh → ∀ j, R i j → j ∈ seen

theorem wave_start {s : Positions} (hs : ∀ i ∈ s, i ≤ size) : Wave size R s s where
  le_size := hs
  mem_seen _ hi := hi
  closed _ hi hfresh := absurd hi hfresh

namespace Wave

variable {seen fresh : Positions}

/-- What is fresh next. -/
theorem mem_next (hw : Wave size R seen fresh) (hf : Follows size move R) {j : Nat} :
    j ∈ (move fresh).diff seen ↔ (∃ i ∈ fresh, R i j) ∧ j ∉ seen := by
  rw [Positions.mem_diff, hf.mem_iff fresh fun i hi => hw.le_size i (hw.mem_seen i hi)]

/-- A step from a place that has been seen leads to another one or to what is fresh next. -/
theorem mem_or_mem_next (hw : Wave size R seen fresh) (hf : Follows size move R) (i j : Nat)
    (hi : i ∈ seen) (hij : R i j) : j ∈ seen ∨ j ∈ (move fresh).diff seen := by
  by_cases hj : j ∈ seen
  · exact .inl hj
  · by_cases hfresh : i ∈ fresh
    · exact .inr ((hw.mem_next hf).mpr ⟨⟨i, hfresh, hij⟩, hj⟩)
    · exact .inl (hw.closed i hi hfresh j hij)

/-- A round of the search keeps the invariant. -/
theorem next (hw : Wave size R seen fresh) (hf : Follows size move R) :
    Wave size R (seen.union ((move fresh).diff seen)) ((move fresh).diff seen) where
  le_size i hi := by
    rcases Positions.mem_union.mp hi with hi | hi
    · exact hw.le_size i hi
    · obtain ⟨⟨k, hk, hki⟩, -⟩ := (hw.mem_next hf).mp hi
      exact hf.le_size k i (hw.le_size k (hw.mem_seen k hk)) hki
  mem_seen i hi := Positions.mem_union.mpr (.inr hi)
  closed i hi hfresh j hij := by
    rcases Positions.mem_union.mp hi with hi | hi
    · exact Positions.mem_union.mpr (hw.mem_or_mem_next hf i j hi hij)
    · exact absurd hi hfresh

end Wave

theorem mem_spread (hf : Follows size move R) (n : Nat) {seen fresh : Positions}
    (hw : Wave size R seen fresh) (j : Nat) :
    j ∈ spread move n seen fresh ↔ j ∈ seen ∨ ∃ m, m ≤ n ∧ ∃ i ∈ fresh, Power R m i j := by
  induction n generalizing seen fresh with
  | zero =>
    rw [spread]
    constructor
    · exact .inl
    · rintro (h | ⟨m, hm, i, hi, hij⟩)
      · exact h
      · obtain rfl : m = 0 := by omega
        obtain rfl := hij
        exact hw.mem_seen i hi
  | succ n ih =>
    rw [spread]
    split
    · next hempty =>
      rw [Positions.isEmpty_iff] at hempty
      refine (or_iff_left ?_).symm
      rintro ⟨m, -, i, hi, -⟩
      exact hempty i hi
    · rw [ih (hw.next hf)]
      constructor
      · rintro (h | ⟨m, hm, k, hk, hkj⟩)
        · rcases Positions.mem_union.mp h with h | h
          · exact .inl h
          · obtain ⟨⟨i, hi, hij⟩, -⟩ := (hw.mem_next hf).mp h
            exact .inr ⟨1, by omega, i, hi, j, hij, rfl⟩
        · obtain ⟨⟨i, hi, hik⟩, -⟩ := (hw.mem_next hf).mp hk
          exact .inr ⟨m + 1, by omega, i, hi, k, hik, hkj⟩
      · rintro (h | ⟨m, hm, i, hi, hij⟩)
        · exact .inl (Positions.mem_union.mpr (.inl h))
        · rcases path_escapes (hw.mem_or_mem_next hf) (hw.mem_seen i hi) hij with
            h | ⟨l, hl, k, hk, hkj⟩
          · exact .inl (Positions.mem_union.mpr (.inl h))
          · exact .inr ⟨l, by omega, k, hk, hkj⟩

/-- Moves one after the other follow the relations one after the other. -/
theorem comp {move' : Positions → Positions} {R' : Nat → Nat → Prop} (hf : Follows size move R)
    (hf' : Follows size move' R') :
    Follows size (fun s => move' (move s)) (fun i j => ∃ k, R i k ∧ R' k j) where
  mem_iff s hs j := by
    rw [hf'.mem_iff _ (hf.bounded hs)]
    constructor
    · rintro ⟨k, hk, hkj⟩
      obtain ⟨i, hi, hik⟩ := (hf.mem_iff s hs k).mp hk
      exact ⟨i, hi, k, hik, hkj⟩
    · rintro ⟨i, hi, k, hik, hkj⟩
      exact ⟨k, (hf.mem_iff s hs k).mpr ⟨i, hi, hik⟩, hkj⟩
  le_size := fun i j hi ⟨k, hik, hkj⟩ => hf'.le_size k j (hf.le_size i k hi hik) hkj
  le := fun i j ⟨k, hik, hkj⟩ => Nat.le_trans (hf.le i k hik) (hf'.le k j hkj)

/-- Moves beside each other follow either relation. -/
theorem union {move' : Positions → Positions} {R' : Nat → Nat → Prop} (hf : Follows size move R)
    (hf' : Follows size move' R') :
    Follows size (fun s => (move s).union (move' s)) (fun i j => R i j ∨ R' i j) where
  mem_iff s hs j := by
    rw [Positions.mem_union, hf.mem_iff s hs, hf'.mem_iff s hs]
    constructor
    · rintro (⟨i, hi, h⟩ | ⟨i, hi, h⟩)
      · exact ⟨i, hi, .inl h⟩
      · exact ⟨i, hi, .inr h⟩
    · rintro ⟨i, hi, h | h⟩
      · exact .inl ⟨i, hi, h⟩
      · exact .inr ⟨i, hi, h⟩
  le_size i j hi h := h.elim (hf.le_size i j hi) (hf'.le_size i j hi)
  le i j h := h.elim (hf.le i j) (hf'.le i j)

/-- After `least` rounds, up to `n` further ones. -/
theorem mem_spread_iterate (hf : Follows size move R) (least n : Nat) {s : Positions}
    (hs : ∀ i ∈ s, i ≤ size) (j : Nat) :
    j ∈ spread move n (iterate move least s) (iterate move least s) ↔
      ∃ i ∈ s, ∃ m, m ≤ n ∧ Power R (least + m) i j := by
  have hstart := hf.mem_iterate least hs
  have hle : ∀ k ∈ iterate move least s, k ≤ size := by
    intro k hk
    obtain ⟨i, hi, hik⟩ := (hstart k).mp hk
    exact hik.le_size hf.le_size (hs i hi)
  rw [hf.mem_spread n (wave_start hle) j]
  constructor
  · rintro (h | ⟨m, hm, k, hk, hkj⟩)
    · obtain ⟨i, hi, hij⟩ := (hstart j).mp h
      exact ⟨i, hi, 0, Nat.zero_le n, hij⟩
    · obtain ⟨i, hi, hik⟩ := (hstart k).mp hk
      exact ⟨i, hi, m, hm, hik.trans hkj⟩
  · rintro ⟨i, hi, m, hm, hij⟩
    obtain ⟨k, hik, hkj⟩ := hij.split
    exact .inr ⟨m, hm, k, (hstart k).mpr ⟨i, hi, hik⟩, hkj⟩

/-- Rounds of a move follow the powers of its relation. Of a repetition without a bound no more
rounds count than there are places, since rounds that stay in place can be left out. -/
theorem times (hf : Follows size move R) (least : Nat) (most : Option Nat) :
    Follows size
      (fun s =>
        let start := iterate move least s
        match most with
        | none => spread move (size + 1) start start
        | some m => if m < least then .empty else spread move (m - least) start start)
      (fun i j => ∃ n, least ≤ n ∧ (∀ m, most = some m → n ≤ m) ∧ Power R n i j) where
  mem_iff s hs j := by
    cases most with
    | none =>
      refine (hf.mem_spread_iterate least (size + 1) hs j).trans ?_
      constructor
      · rintro ⟨i, hi, m, -, hij⟩
        exact ⟨i, hi, least + m, by omega, by simp, hij⟩
      · rintro ⟨i, hi, n, hn, -, hij⟩
        obtain ⟨m, rfl⟩ := Nat.exists_eq_add_of_le hn
        obtain ⟨k, hik, hkj⟩ := hij.split
        obtain ⟨l, -, hl, hkj⟩ := hkj.shorten hf.le
        have hj := hkj.le_size hf.le_size (hik.le_size hf.le_size (hs i hi))
        exact ⟨i, hi, l, by omega, hik.trans hkj⟩
    | some most =>
      show j ∈ (if most < least then _ else _) ↔ _
      split
      · next hlt =>
        refine iff_of_false (Positions.not_mem_empty j) ?_
        rintro ⟨i, hi, n, hn, hmost, -⟩
        have := hmost most rfl
        omega
      · next hge =>
        refine (hf.mem_spread_iterate least (most - least) hs j).trans ?_
        constructor
        · rintro ⟨i, hi, m, hm, hij⟩
          exact ⟨i, hi, least + m, by omega, fun _ h => by cases h; omega, hij⟩
        · rintro ⟨i, hi, n, hn, hmost, hij⟩
          obtain ⟨m, rfl⟩ := Nat.exists_eq_add_of_le hn
          have := hmost most rfl
          exact ⟨i, hi, m, by omega, hij⟩
  le_size := fun _ _ hi ⟨_, _, _, h⟩ => h.le_size hf.le_size hi
  le := fun _ _ ⟨_, _, _, h⟩ => h.le hf.le

end Follows

/-! ### Charts -/

/-- All steps of a chart are taken at places below `size`. -/
def Within (size : Nat) : Chart → Prop
  | .empty | .guard _ => True
  | .step s => ∀ i ∈ s, i < size
  | .cat e f | .alt e f => Within size e ∧ Within size f
  | .times e _ _ => Within size e

theorem follows_empty (size : Nat) : Follows size (ends size .empty) (Spans .empty) where
  mem_iff s _ j := by simp [ends, Spans]
  le_size _ _ hi h := h ▸ hi
  le _ _ h := Nat.le_of_eq h

/-- A step leads one place on from where it may be taken. -/
theorem follows_step {size : Nat} {k : Positions} (hk : ∀ i ∈ k, i < size) :
    Follows size (ends size (.step k)) (Spans (.step k)) where
  mem_iff s _ j := by
    simp only [ends, Spans, Positions.mem_next, Positions.mem_inter]
    constructor
    · rintro ⟨i, ⟨hs, hk⟩, rfl⟩
      exact ⟨i, hs, hk, rfl⟩
    · rintro ⟨i, hs, hk, rfl⟩
      exact ⟨i, ⟨hs, hk⟩, rfl⟩
  le_size := fun i _ _ ⟨hi, hj⟩ => hj ▸ hk i hi
  le := fun i _ ⟨_, hj⟩ => hj ▸ Nat.le_succ i

/-- A guard stays in place where it holds. -/
theorem follows_guard (size : Nat) (a : Positions) :
    Follows size (ends size (.guard a)) (Spans (.guard a)) where
  mem_iff s _ j := by
    simp only [ends, Spans, Positions.mem_inter]
    constructor
    · exact fun h => ⟨j, h.1, h.2, rfl⟩
    · rintro ⟨i, hs, ha, rfl⟩
      exact ⟨hs, ha⟩
  le_size _ _ hi h := h.2 ▸ hi
  le _ _ h := Nat.le_of_eq h.2

/-- **Moving sets along a chart follows the chart.** -/
theorem follows_ends {size : Nat} {e : Chart} (he : Within size e) :
    Follows size (ends size e) (Spans e) := by
  induction e with
  | empty => exact follows_empty size
  | step k => exact follows_step he
  | guard a => exact follows_guard size a
  | cat e f ihe ihf => exact (ihe he.1).comp (ihf he.2)
  | alt e f ihe ihf => exact (ihe he.1).union (ihf he.2)
  | times e least most ih => exact (ih he).times least most

/-- The places where a match may end are those that the chart leads to. -/
theorem mem_ends {size : Nat} {e : Chart} (he : Within size e) {s : Positions}
    (hs : ∀ i ∈ s, i ≤ size) {j : Nat} : j ∈ ends size e s ↔ ∃ i ∈ s, Spans e i j :=
  (follows_ends he).mem_iff s hs j

end Chart

/-! ### Expressions -/

theorem mem_membersIn {text : Array Char} {s : CharSet} {i : Nat} :
    i ∈ membersIn text s ↔ ∃ c, text[i]? = some c ∧ s.contains c.toNat = true := by
  rw [membersIn, Positions.mem_below, Option.any_eq_true]
  constructor
  · exact fun h => h.2
  · rintro ⟨c, hc, hs⟩
    exact ⟨(Array.getElem?_eq_some_iff.mp hc).1, c, hc, hs⟩

theorem Assertion.mem_positions {text : Array Char} {a : Assertion} {i : Nat} :
    i ∈ a.positions text ↔
      i ≤ text.size ∧ a.holds (if i = 0 then none else text[i - 1]?) text[i]? = true := by
  rw [Assertion.positions, Positions.mem_below, Nat.lt_succ_iff]

/-- An expression laid over a text steps within the text. -/
theorem Expr.within_over (text : Array Char) (e : Expr CharSet Assertion) :
    Chart.Within text.size (e.over text) := by
  induction e with
  | empty => trivial
  | guard a => trivial
  | step s =>
    intro i hi
    obtain ⟨c, hc, -⟩ := mem_membersIn.mp hi
    exact (Array.getElem?_eq_some_iff.mp hc).1
  | cat e f ihe ihf => exact ⟨ihe, ihf⟩
  | alt e f ihe ihf => exact ⟨ihe, ihf⟩
  | times e least most ih => exact ih

/-- An expression matches in a text when it leads from some place of the text to another. -/
theorem Expr.isMatch_eq_true_iff {e : Expr CharSet Assertion} {text : Array Char} :
    e.isMatch text = true ↔ ∃ i j, i ≤ text.size ∧ Chart.Spans (e.over text) i j := by
  have hmem := fun j => Chart.mem_ends (e.within_over text) (s := .upTo text.size)
    (fun i hi => Positions.mem_upTo.mp hi) (j := j)
  rw [Expr.isMatch, Bool.not_eq_true', ← Bool.not_eq_true, Positions.isEmpty_iff]
  constructor
  · intro h
    obtain ⟨j, hj⟩ := Classical.not_forall.mp h
    obtain ⟨i, hi, hij⟩ := (hmem j).mp (Classical.not_not.mp hj)
    exact ⟨i, j, Positions.mem_upTo.mp hi, hij⟩
  · rintro ⟨i, j, hi, hij⟩ h
    exact h j ((hmem j).mpr ⟨i, Positions.mem_upTo.mpr hi, hij⟩)

end SecretScan.Regex
