/-!
# Binary64 numbers

Numbers of the binary64 format, held exactly. Every finite one is a whole multiple of `2 ^ -1074`, so
a sign and the natural number of such units describe it, and comparison is comparison of natural
numbers. Rounding takes a quotient of natural numbers to the nearest multiple that has at most 53
significant bits, a tie to the even one.
-/

namespace SecretScan

/-- A number of the binary64 format. -/
inductive Binary64 where
  /-- Not a number. -/
  | nan
  /-- An infinity. -/
  | infinite (negative : Bool)
  /-- The number of `units` times `2 ^ -1074`, negated if `negative`; zero has both signs. -/
  | finite (negative : Bool) (units : Nat)
deriving DecidableEq, Inhabited

namespace Binary64

/-- Units in the number one. -/
def one : Nat := Nat.pow 2 1074

/-- Every finite number has fewer units. -/
def unitLimit : Nat := Nat.pow 2 2098

/-- The natural number nearest to a quotient, of two equally near ones the even one. -/
def roundQuotient (num den : Nat) : Nat :=
  let q := num / den
  let twice := 2 * (num % den)
  if twice < den then q else if den < twice then q + 1 else q + q % 2

/-- The units of the number nearest to a quotient of units, without an upper limit. -/
def roundUnits (num den : Nat) : Nat :=
  let shift := (num / den).log2 - 52
  roundQuotient num (den * Nat.pow 2 shift) * Nat.pow 2 shift

/-- The number nearest to a quotient of units. -/
def ofUnits (negative : Bool) (num den : Nat) : Binary64 :=
  let units := roundUnits num den
  if units < unitLimit then .finite negative units else .infinite negative

/-- The number nearest to `n * 10 ^ e`. Exponents so far out that the answer is beyond doubt are
answered without computing the power. -/
def ofDecimal (negative : Bool) (n : Nat) (e : Int) : Binary64 :=
  if n = 0 then .finite negative 0
  else if 310 < e then .infinite negative
  else if e < -(400 + (n.log2 : Int)) then .finite negative 0
  else if 0 ≤ e then ofUnits negative (n * Nat.pow 10 e.toNat * one) 1
  else ofUnits negative (n * one) (Nat.pow 10 (-e).toNat)

/-- The number nearest to a natural number. -/
def ofNat (n : Nat) : Binary64 := ofUnits false (n * one) 1

/-- The same number with the other sign. -/
def neg : Binary64 → Binary64
  | .nan => .nan
  | .infinite negative => .infinite !negative
  | .finite negative units => .finite (!negative) units

/-- Whether a number is finite. -/
def isFinite : Binary64 → Bool
  | .finite _ _ => true
  | _ => false

/-- Whether the first number is at most the second; both zeros are equal, and nothing compares with
what is not a number. -/
def le : Binary64 → Binary64 → Bool
  | .nan, _ | _, .nan => false
  | .infinite true, _ | _, .infinite false => true
  | _, .infinite true | .infinite false, _ => false
  | .finite false a, .finite false b => decide (a ≤ b)
  | .finite true a, .finite true b => decide (b ≤ a)
  | .finite true _, .finite false _ => true
  | .finite false a, .finite true b => a == 0 && b == 0

/-- Whether a number is greater than zero. -/
def isPositive : Binary64 → Bool
  | .infinite negative => !negative
  | .finite negative units => !negative && units != 0
  | .nan => false

end Binary64

end SecretScan
