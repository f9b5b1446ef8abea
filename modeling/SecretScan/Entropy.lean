import SecretScan.Number.Binary64
import SecretScan.Number.Logarithm
import SecretScan.Tally

/-!
# Entropy

The entropy of a text of `n` characters whose distinct characters occur `c₁, …, c_k` times is
`log₂ n - (c₁ log₂ c₁ + ⋯ + c_k log₂ c_k) / n` bits a character. It is kept exactly, as the two
natural numbers of the equation `2 ^ (n * bits) = n ^ (c₁ + ⋯ + c_k) / (c₁ ^ c₁ * ⋯ * c_k ^ c_k)`, so
that it can be compared with a binary64 number without rounding.
-/

namespace SecretScan

/-- How often the characters of a text occur. -/
structure Histogram where
  /-- The number of characters. -/
  total : Nat
  /-- The counters of characters. One that is zero does not matter. -/
  counters : List Nat
deriving DecidableEq

namespace Histogram

/-- What a tally has counted. A counter that has gone round to zero tells nothing any more. -/
def ofTally (t : Tally) : Histogram where
  total := t.total.toNat
  counters := t.counters.map UInt32.toNat

/-- Counts the characters of a text. -/
def ofText (text : List Char) : Histogram := ofTally (.ofText text)

/-- Counts the characters of a text that is given in parts, each with the number of times that it
stands there one behind the other. The text is not written out. -/
def ofParts (parts : List (List Char × Nat)) : Histogram where
  total := min (parts.foldr (fun p n => p.1.length * p.2 + n) 0) (counterLimit - 1)
  counters := (parts.flatMap Prod.fst).eraseDups.map fun c =>
    parts.foldr (fun p n => p.1.count c * p.2 + n) 0 % counterLimit

end Histogram

/-- An entropy, in bits a character. -/
structure Entropy where
  /-- The number of characters. -/
  total : Nat
  /-- Numerator of two to the power of all bits together. -/
  num : Nat
  /-- Denominator of two to the power of all bits together. -/
  den : Nat
deriving DecidableEq, Inhabited

namespace Entropy

/-- The entropy of counted characters. -/
def ofHistogram (h : Histogram) : Entropy where
  total := h.total
  num := h.total.pow (h.counters.foldr (· + ·) 0)
  den := (h.counters.map fun c => c.pow c).foldl (· * ·) 1

/-- The entropy of a text. -/
def ofText (text : List Char) : Entropy := ofHistogram (.ofText text)

/-- The entropy of a text that is given in parts, each with the number of times that it stands
there. -/
def ofParts (parts : List (List Char × Nat)) : Entropy := ofHistogram (.ofParts parts)

/-- Whether there is any entropy. -/
def isPositive (e : Entropy) : Bool := decide (e.den < e.num)

/-- Whether the entropy is at least a number. With `p / k` the number in lowest terms, `k` a power of
two, this asks whether `n * p ≤ k * log₂ (num / den)`. -/
def reaches (e : Entropy) : Binary64 → Bool
  | .nan => false
  | .infinite negative => negative
  | .finite true _ => true
  | .finite false units =>
    let common := units.gcd Binary64.one
    decide (e.total * (units / common) ≤ floorLog e.num e.den (Binary64.one / common))

/-- The entropy in units of `10 ^ -9` bits, a half rounded to the even unit. `twice` is the whole part
of twice that number; when it is odd, the fraction beyond it decides, and there is none only if the
logarithm is whole. -/
def nanobits (e : Entropy) : Nat :=
  let scale := 2000000000
  let twice := floorLog e.num e.den scale / e.total
  let whole := (e.num / e.den).log2
  let isTie := e.num == e.den * Nat.pow 2 whole && whole * scale == twice * e.total
  if twice % 2 = 0 then twice / 2
  else if isTie then twice / 2 + twice / 2 % 2
  else twice / 2 + 1

/-- The entropy with nine decimals. -/
def text (e : Entropy) : String :=
  let n := e.nanobits
  let fraction := toString (n % 1000000000)
  s!"{n / 1000000000}." ++ String.ofList (List.replicate (9 - fraction.length) '0') ++ fraction

end Entropy

end SecretScan
