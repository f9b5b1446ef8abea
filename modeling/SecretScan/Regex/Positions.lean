/-!
# Sets of positions

A finite set of positions of a text, kept as one natural number whose bit `i` says whether position
`i` belongs to it. Intersection, union and the move to the next position then cost one pass over
machine words, whatever the sets hold. Everything else in the library sees a set only through
membership: each operation below has one lemma that says which positions are in its result.
-/

namespace SecretScan

/-- A finite set of positions; position `i` belongs to it when bit `i` is set. -/
structure Positions where
  /-- The bits of this number are the members. -/
  bits : Nat
deriving DecidableEq, Inhabited

namespace Positions

instance : Membership Nat Positions := ⟨fun s i => s.bits.testBit i = true⟩

instance (i : Nat) (s : Positions) : Decidable (i ∈ s) :=
  inferInstanceAs (Decidable (s.bits.testBit i = true))

theorem mem_def {i : Nat} {s : Positions} : i ∈ s ↔ s.bits.testBit i = true := Iff.rfl

/-- Two sets with the same members are equal. -/
theorem ext {s t : Positions} (h : ∀ i, i ∈ s ↔ i ∈ t) : s = t := by
  cases s; cases t
  congr 1
  exact Nat.eq_of_testBit_eq fun i => Bool.eq_iff_iff.mpr (h i)

/-! ### Operations -/

/-- The set without members. -/
def empty : Positions := ⟨0⟩

/-- The positions `0, …, n`. -/
def upTo (n : Nat) : Positions := ⟨Nat.pow 2 (n + 1) - 1⟩

/-- Whether there is no member. -/
def isEmpty (s : Positions) : Bool := s.bits == 0

/-- The common members. -/
def inter (s t : Positions) : Positions := ⟨s.bits &&& t.bits⟩

/-- The members of either. -/
def union (s t : Positions) : Positions := ⟨s.bits ||| t.bits⟩

/-- The members of the first that are not in the second. -/
def diff (s t : Positions) : Positions := ⟨s.bits ^^^ (s.bits &&& t.bits)⟩

/-- Every member moved one position on. -/
def next (s : Positions) : Positions := ⟨s.bits <<< 1⟩

/-- The `2 ^ d` positions from `lo` on, those kept that satisfy `p`. -/
def block (p : Nat → Bool) : (d lo : Nat) → Nat
  | 0, lo => (p lo).toNat
  | d + 1, lo => block p d lo ||| block p d (lo + Nat.pow 2 d) <<< Nat.pow 2 d

/-- The positions below `n` that satisfy `p`. -/
def below (n : Nat) (p : Nat → Bool) : Positions :=
  ⟨block (fun i => decide (i < n) && p i) (n.log2 + 1) 0⟩

/-! ### Membership -/

@[simp] theorem not_mem_empty (i : Nat) : i ∉ empty := by simp [mem_def, empty]

@[simp] theorem mem_upTo {n i : Nat} : i ∈ upTo n ↔ i ≤ n := by
  simp only [mem_def, upTo, Nat.pow_eq, Nat.testBit_two_pow_sub_one, decide_eq_true_eq,
    Nat.lt_succ_iff]

@[simp] theorem mem_inter {s t : Positions} {i : Nat} : i ∈ s.inter t ↔ i ∈ s ∧ i ∈ t := by
  simp [mem_def, inter]

@[simp] theorem mem_union {s t : Positions} {i : Nat} : i ∈ s.union t ↔ i ∈ s ∨ i ∈ t := by
  simp [mem_def, union]

@[simp] theorem mem_diff {s t : Positions} {i : Nat} : i ∈ s.diff t ↔ i ∈ s ∧ i ∉ t := by
  simp only [mem_def, diff, Nat.testBit_xor, Nat.testBit_and]
  cases s.bits.testBit i <;> cases t.bits.testBit i <;> simp

@[simp] theorem mem_next {s : Positions} {i : Nat} : i ∈ s.next ↔ ∃ j ∈ s, i = j + 1 := by
  simp only [mem_def, next, Nat.testBit_shiftLeft]
  constructor
  · intro h
    simp only [Bool.and_eq_true, decide_eq_true_eq] at h
    exact ⟨i - 1, h.2, by omega⟩
  · rintro ⟨j, hj, rfl⟩
    simpa using hj

theorem isEmpty_iff {s : Positions} : s.isEmpty = true ↔ ∀ i, i ∉ s := by
  simp only [isEmpty, beq_iff_eq, mem_def]
  constructor
  · intro h i
    simp [h]
  · intro h
    exact Nat.eq_of_testBit_eq fun i => by simpa using h i

theorem testBit_block (p : Nat → Bool) (d lo i : Nat) :
    (block p d lo).testBit i = (decide (i < Nat.pow 2 d) && p (lo + i)) := by
  induction d generalizing lo i with
  | zero =>
    cases i with
    | zero => cases h : p lo <;> simp [block, h]
    | succ i => cases h : p lo <;> simp [block, h, Nat.testBit_succ]
  | succ d ih =>
    simp only [block, Nat.testBit_or, Nat.testBit_shiftLeft, ih]
    have hpow : 2 ^ (d + 1) = 2 ^ d + 2 ^ d := by omega
    by_cases h : i < 2 ^ d
    · have h1 : ¬ i ≥ 2 ^ d := by omega
      have h2 : i < 2 ^ (d + 1) := by omega
      simp [h, h1, h2]
    · have h1 : i ≥ 2 ^ d := by omega
      have h2 : lo + 2 ^ d + (i - 2 ^ d) = lo + i := by omega
      by_cases h3 : i < 2 ^ (d + 1)
      · have h4 : i - 2 ^ d < 2 ^ d := by omega
        simp [h, h1, h2, h3, h4]
      · have h4 : ¬ i - 2 ^ d < 2 ^ d := by omega
        simp [h, h3, h4]

@[simp] theorem mem_below {n : Nat} {p : Nat → Bool} {i : Nat} :
    i ∈ below n p ↔ i < n ∧ p i = true := by
  simp only [mem_def, below, testBit_block, Nat.zero_add, Bool.and_eq_true, decide_eq_true_eq]
  constructor
  · exact fun h => h.2
  · exact fun h => ⟨Nat.lt_trans h.1 Nat.lt_log2_self, h⟩

end Positions

end SecretScan
