import SecretScan.Unicode.Folding

/-!
# Sets of characters

A set of characters is an expression over ranges and tables: union, intersection, difference,
symmetric difference, complement and closure under case. Membership is computed point by point, so
that each operation means what it says for every character and no normal form is ever built.
-/

namespace SecretScan

/-- When two characters count as the same letter in different case. -/
inductive CaseRule where
  /-- Only the letters `A` to `Z` have another case. -/
  | ascii
  /-- Simple case folding of all characters. -/
  | unicode
deriving DecidableEq

/-- The other characters that equal a character up to case. -/
def CaseRule.companions : CaseRule → Nat → List Nat
  | .ascii, c =>
    if 65 ≤ c ∧ c ≤ 90 then [c + 32] else if 97 ≤ c ∧ c ≤ 122 then [c - 32] else []
  | .unicode, c => Unicode.Folding.companions c

/-- A set of characters, given by their code points. -/
inductive CharSet where
  /-- The code points from `first` to `last`, both included. -/
  | range (first last : Nat)
  /-- The code points of a table. -/
  | table (ranges : Unicode.Ranges)
  /-- The members of either. -/
  | union (s t : CharSet)
  /-- The common members. -/
  | inter (s t : CharSet)
  /-- The members of the first that are not in the second. -/
  | diff (s t : CharSet)
  /-- The members of exactly one of the two. -/
  | symmDiff (s t : CharSet)
  /-- The characters that are not members. -/
  | compl (s : CharSet)
  /-- The members and all characters that equal one up to case. -/
  | fold (rule : CaseRule) (s : CharSet)
deriving DecidableEq

namespace CharSet

/-- The set without members. -/
def empty : CharSet := .range 1 0

/-- All characters. -/
def any : CharSet := .range 0 0x10ffff

/-- The set of one character. -/
def single (c : Char) : CharSet := .range c.toNat c.toNat

/-- The members of any set of a list. -/
def unions : List CharSet → CharSet
  | [] => empty
  | [s] => s
  | s :: rest => .union s (unions rest)

/-- Whether a code point belongs to a set. -/
def contains : CharSet → Nat → Bool
  | .range first last, c => decide (first ≤ c) && decide (c ≤ last)
  | .table ranges, c => ranges.contains c
  | .union s t, c => s.contains c || t.contains c
  | .inter s t, c => s.contains c && t.contains c
  | .diff s t, c => s.contains c && !t.contains c
  | .symmDiff s t, c => s.contains c != t.contains c
  | .compl s, c => !s.contains c
  | .fold rule s, c => s.contains c || (rule.companions c).any s.contains

/-- About how many ranges of code points a set takes when it is written out. -/
def rangeCount : CharSet → Nat
  | .range _ _ => 1
  | .table ranges => ranges.size
  | .union s t | .symmDiff s t => s.rangeCount + t.rangeCount
  | .inter s t => max s.rangeCount t.rangeCount
  | .diff s t => s.rangeCount + t.rangeCount
  | .compl s => s.rangeCount + 1
  | .fold _ s => 2 * s.rangeCount

/-! ### Sets that patterns name -/

/-- The blank characters: tabulation and line ends, spaces of every width, separators. -/
def space : CharSet :=
  unions [.range 0x9 0xd, .range 0x20 0x20, .range 0x85 0x85, .range 0xa0 0xa0,
    .range 0x1680 0x1680, .range 0x2000 0x200a, .range 0x2028 0x2029, .range 0x202f 0x202f,
    .range 0x205f 0x205f, .range 0x3000 0x3000]

/-- The decimal digits `0` to `9`. -/
def asciiDigit : CharSet := .range 48 57

/-- The letters `A` to `Z` and `a` to `z`. -/
def asciiLetter : CharSet := .union (.range 65 90) (.range 97 122)

/-- ASCII letters, decimal digits and the underscore. -/
def asciiWord : CharSet := unions [asciiLetter, asciiDigit, .range 95 95]

/-- Tabulation and line ends, and the plain space. -/
def asciiSpace : CharSet := .union (.range 0x9 0xd) (.range 0x20 0x20)

end CharSet

end SecretScan
