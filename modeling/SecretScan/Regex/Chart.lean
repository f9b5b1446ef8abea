import SecretScan.Regex.Expr
import SecretScan.Regex.Positions

/-!
# Matching by sets of positions

Laid over a text, a regular expression becomes a chart: each set of characters is replaced by the
positions of the characters in it, each assertion by the places where it holds. A chart then moves
whole sets of positions at once: `Chart.ends` takes the places where a match may start to all places
where one may end. No search tree is walked, so no expression takes exponential time.

`Chart.Spans` says what it means that a chart leads from one place to another; that `Chart.ends`
computes it is proved in `SecretScan.Regex.Chart.Spans`.
-/

namespace SecretScan.Regex

/-- A regular expression laid over a text. -/
abbrev Chart := Expr Positions Positions

/-- The places from `i` to `j` are joined by `n` steps of a relation. -/
def Power (R : Nat → Nat → Prop) : (n i j : Nat) → Prop
  | 0, i, j => i = j
  | n + 1, i, j => ∃ k, R i k ∧ Power R n k j

namespace Chart

/-- A chart leads from place `i` to place `j`. -/
def Spans : Chart → (i j : Nat) → Prop
  | .empty, i, j => i = j
  | .step s, i, j => i ∈ s ∧ j = i + 1
  | .guard s, i, j => i ∈ s ∧ i = j
  | .cat e f, i, j => ∃ k, Spans e i k ∧ Spans f k j
  | .alt e f, i, j => Spans e i j ∨ Spans f i j
  | .times e least most, i, j =>
    ∃ n, least ≤ n ∧ (∀ m, most = some m → n ≤ m) ∧ Power (Spans e) n i j

/-- Applies a move `n` times, or until no position is left. -/
def iterate (move : Positions → Positions) : (n : Nat) → Positions → Positions
  | 0, s => s
  | n + 1, s => if s.isEmpty then s else iterate move n (move s)

/-- All positions that up to `n` moves reach: those `seen` so far, and those still reached from the
`fresh` ones, which are the last to have been added. -/
def spread (move : Positions → Positions) : (n : Nat) → (seen fresh : Positions) → Positions
  | 0, seen, _ => seen
  | n + 1, seen, fresh =>
    if fresh.isEmpty then seen
    else
      let next := (move fresh).diff seen
      spread move n (seen.union next) next

/-- The places where a match may end that starts at one of the given places. In a text of `size`
characters there are `size + 1` places, so that many rounds exhaust an unbounded repetition. -/
def ends (size : Nat) : Chart → Positions → Positions
  | .empty, s => s
  | .step k, s => (s.inter k).next
  | .guard a, s => s.inter a
  | .cat e f, s => ends size f (ends size e s)
  | .alt e f, s => (ends size e s).union (ends size f s)
  | .times e least most, s =>
    let start := iterate (ends size e) least s
    match most with
    | none => spread (ends size e) (size + 1) start start
    | some m => if m < least then .empty else spread (ends size e) (m - least) start start

end Chart

/-- The positions of the characters of a text that belong to a set. -/
def membersIn (text : Array Char) (s : CharSet) : Positions :=
  .below text.size fun i => text[i]?.any fun c => s.contains c.toNat

/-- The places of a text at which an assertion holds. -/
def Assertion.positions (text : Array Char) (a : Assertion) : Positions :=
  .below (text.size + 1) fun i =>
    a.holds (if i = 0 then none else text[i - 1]?) text[i]?

/-- An expression laid over a text. -/
def Expr.over (text : Array Char) (e : Expr CharSet Assertion) : Chart :=
  e.map (membersIn text) (Assertion.positions text)

/-- Whether an expression matches anywhere in a text. -/
def Expr.isMatch (e : Expr CharSet Assertion) (text : Array Char) : Bool :=
  !((e.over text).ends text.size (.upTo text.size)).isEmpty

end SecretScan.Regex
