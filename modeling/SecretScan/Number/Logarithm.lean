/-!
# Whole parts of multiples of binary logarithms

For natural numbers `b ≤ a` and a factor `k`, `floorLog a b k` is the whole part of
`k * log₂ (a / b)`: the greatest `r` with `2 ^ r * b ^ k ≤ a ^ k`. Neither power is computed. The
quotient is held in brackets, a lower and an upper bound of `p` binary places each; powers of bracketed
numbers are bracketed by repeated squaring, and once the upper bound of the power stays below the next
power of two, the whole part is known. If it is not known, more places are taken.
-/

namespace SecretScan

/-- Bounds for a number of at least one: with `p` binary places, it lies between
`low * 2 ^ (exponent - p)` and `high * 2 ^ (exponent - p)`, where `2 ^ p ≤ low < 2 ^ (p + 1)`. -/
structure Bracketed where
  /-- The lower bound's places. -/
  low : Nat
  /-- The upper bound's places. -/
  high : Nat
  /-- The whole part of the lower bound's binary logarithm. -/
  exponent : Nat

namespace Bracketed

/-- The quotient of two numbers, rounded up. -/
def ceilDiv (a b : Nat) : Nat := (a + b - 1) / b

/-- The quotient `a / b`, which is at least one, with `p` places. -/
def ofQuotient (p a b : Nat) : Bracketed :=
  let e := (a / b).log2
  ⟨a * Nat.pow 2 p / (b * Nat.pow 2 e), ceilDiv (a * Nat.pow 2 p) (b * Nat.pow 2 e), e⟩

/-- The number one. -/
def one (p : Nat) : Bracketed := ⟨Nat.pow 2 p, Nat.pow 2 p, 0⟩

/-- The product of two numbers with `p` places. -/
def mul (p : Nat) (x y : Bracketed) : Bracketed :=
  let carry := if x.low * y.low < Nat.pow 2 (2 * p + 1) then 0 else 1
  ⟨x.low * y.low / Nat.pow 2 (p + carry), ceilDiv (x.high * y.high) (Nat.pow 2 (p + carry)),
    x.exponent + y.exponent + carry⟩

/-- The `k`-th power of a number with `p` places, where `k < 2 ^ fuel`. -/
def pow (p : Nat) (x : Bracketed) : (fuel k : Nat) → Bracketed
  | 0, _ => one p
  | fuel + 1, k =>
    if k = 0 then one p
    else
      let half := pow p x fuel (k / 2)
      let square := mul p half half
      if k % 2 = 0 then square else mul p square x

/-- The whole part of the binary logarithm, if both bounds agree on it. -/
def floorLog? (p : Nat) (x : Bracketed) : Option Nat :=
  if x.high < Nat.pow 2 (p + 1) then some x.exponent else none

end Bracketed

/-- The whole part of `k * log₂ (a / b)`, with `p` binary places and then twice as many each time that
these are too few. Past the last try the powers themselves are divided. -/
def floorLogFrom (a b k : Nat) : (tries p : Nat) → Nat
  | 0, _ => (a.pow k / b.pow k).log2
  | tries + 1, p =>
    match ((Bracketed.ofQuotient p a b).pow p (k.log2 + 1) k).floorLog? p with
    | some r => r
    | none => floorLogFrom a b k tries (2 * p)

/-- The whole part of `k * log₂ (a / b)`, for `0 < b ≤ a`. -/
def floorLog (a b k : Nat) : Nat := floorLogFrom a b k 24 (k.log2 + 64)

end SecretScan
