import SecretScan.Proofs.Entropy

/-!
# How entropy is calculated

The entropy of a text is a real number, and a program calculates with numbers that are rounded.
What is calculated can be said without saying how: it is a term, `Calculation`, made of the counters
by the operations that are carried out, in their order. A term has a value in every `Arithmetic`. In
that of the real numbers, where nothing is rounded, it is the entropy,

```
(Calculation.ofText text).value .real = (Histogram.ofText text).bits
```

and two texts of the same term have the same value in every other arithmetic too, to the last digit.
-/

namespace SecretScan

/-- Numbers that can be calculated with. -/
structure Arithmetic (α : Type) where
  /-- The number that a counter stands for. -/
  word : UInt32 → α
  /-- Zero. -/
  zero : α
  /-- What a sum starts with. In some arithmetics this is a zero of its own. -/
  emptySum : α
  /-- The opposite number. -/
  neg : α → α
  /-- The binary logarithm. -/
  log2 : α → α
  /-- The sum. -/
  add : α → α → α
  /-- The product. -/
  mul : α → α → α
  /-- The quotient. -/
  div : α → α → α
  /-- The greater number. -/
  max : α → α → α

/-- The arithmetic of real numbers. -/
noncomputable def Arithmetic.real : Arithmetic ℝ where
  word n := n.toNat
  zero := 0
  emptySum := 0
  neg x := -x
  log2 := Real.logb (2 : ℕ)
  add := (· + ·)
  mul := (· * ·)
  div := (· / ·)
  max := Max.max

/-- What is calculated. -/
inductive Calculation where
  | word (n : UInt32)
  | zero
  | emptySum
  | neg (x : Calculation)
  | log2 (x : Calculation)
  | add (x y : Calculation)
  | mul (x y : Calculation)
  | div (x y : Calculation)
  | max (x y : Calculation)
deriving DecidableEq

namespace Calculation

variable {α : Type} (A : Arithmetic α)

/-- The number that is calculated. -/
def value : Calculation → α
  | .word n => A.word n
  | .zero => A.zero
  | .emptySum => A.emptySum
  | .neg x => A.neg x.value
  | .log2 x => A.log2 x.value
  | .add x y => A.add x.value y.value
  | .mul x y => A.mul x.value y.value
  | .div x y => A.div x.value y.value
  | .max x y => A.max x.value y.value

/-- What a character contributes that comes `n` times among `total` characters. -/
def contribution (total n : UInt32) : Calculation :=
  let share := .div (.word n) (.word total)
  .mul (.neg share) (.log2 share)

/-- The calculation of the entropy from counters. Those that are zero are passed over, and the
others contribute in their order. -/
def ofTally (t : Tally) : Calculation :=
  let summands := (t.counters.filter (0 < ·)).map (contribution t.total)
  .max (summands.foldl .add .emptySum) .zero

/-- The calculation of the entropy of a text. For the empty text there is nothing to calculate. -/
def ofText (text : List Char) : Calculation :=
  if text.isEmpty then .zero else ofTally (.ofText text)

/-- A sum is calculated from left to right. -/
theorem value_foldl_add (x : Calculation) (summands : List Calculation) :
    (summands.foldl add x).value A = (summands.map (value A)).foldl A.add (x.value A) := by
  induction summands generalizing x with
  | nil => rfl
  | cons y summands ih => exact ih (x.add y)

theorem value_ofTally (t : Tally) : (ofTally t).value .real = (Histogram.ofTally t).bits := by
  have hfilter : (t.counters.map UInt32.toNat).filter (0 < ·) =
      (t.counters.filter (0 < ·)).map UInt32.toNat := by
    rw [List.filter_map]
    rfl
  have hsum : (((t.counters.filter (0 < ·)).map (contribution t.total)).foldl add emptySum).value
      .real = (((t.counters.map UInt32.toNat).filter (0 < ·)).map fun c : ℕ ↦
        -((c : ℝ) / t.total.toNat) * Real.logb 2 (c / t.total.toNat)).sum := by
    rw [value_foldl_add, hfilter, List.map_map, List.map_map, List.sum_eq_foldl]
    rfl
  rw [Histogram.bits, max_comm]
  exact congrArg (Max.max · 0) hsum

/-- **Nothing rounded**, the calculation gives the entropy. -/
theorem value_ofText (text : List Char) :
    (ofText text).value .real = (Histogram.ofText text).bits := by
  rw [ofText]
  split
  · next h =>
    rw [List.isEmpty_iff.mp h]
    exact Histogram.bits_ofText_nil.symm
  · exact value_ofTally _

/-- **The same calculation** for characters of ASCII in any order. -/
theorem ofText_eq_of_perm {s t : List Char} (hperm : s.Perm t)
    (hascii : ∀ c ∈ s, c.toNat < 128) : ofText s = ofText t := by
  have htally := (Tally.records_ofText s).eq_of_perm (Tally.records_ofText t) hperm hascii
  rw [ofText, ofText, htally, hperm.isEmpty_eq]

end Calculation

end SecretScan
