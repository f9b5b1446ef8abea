import SecretScan.Regex.Expr

/-!
# The size of an expression

An expression is refused when the machine that would run it takes too much room. Counted repetitions
copy what they repeat, so a short text can ask for a huge machine. The measure here is an estimate in
bytes: a state takes 32, and a set of characters has a few states for every range beyond the first.
-/

namespace SecretScan.Regex

/-- The estimated room, in bytes, that a set of characters takes. -/
def setSize (s : CharSet) : Nat := 32 + 60 * (s.rangeCount - 1)

/-- The estimated room, in bytes, that an expression takes. -/
def Expr.size : Expr CharSet Assertion → Nat
  | .empty | .guard _ => 32
  | .step s => setSize s
  | .cat e f => e.size + f.size
  | .alt e f => e.size + f.size + 36
  | .times e least none => max least 1 * e.size + 72
  | .times e least (some most) => least * e.size + (most - least) * (e.size + 36) + 32

/-- The room an expression may take: ten mebibytes. -/
def sizeLimit : Nat := 10 * 1024 * 1024

end SecretScan.Regex
