/-!
# Tables of code points

A property of characters is given by the ranges of code points that have it, in ascending order.
A table is written as a text such as `41-5a 61-7a aa`: hexadecimal code points, a range by its two
ends, blanks between, on as many lines as it takes. Membership is a binary search.
-/

namespace SecretScan.Unicode

/-- Ranges of code points, both ends included, in ascending order and apart from each other. -/
structure Ranges where
  /-- The lower and upper ends. -/
  bounds : Array (Nat × Nat)
deriving DecidableEq, Inhabited

/-- The value of a hexadecimal digit; every other character counts as zero. -/
def hexValue (c : Char) : Nat :=
  if '0' ≤ c ∧ c ≤ '9' then c.toNat - 48
  else if 'a' ≤ c ∧ c ≤ 'f' then c.toNat - 87
  else if 'A' ≤ c ∧ c ≤ 'F' then c.toNat - 55
  else 0

namespace Ranges

/-- What has been read of a table's text: the finished ranges, the lower end of the present one if
it was given apart, and the number being read. -/
private structure Partial where
  done : Array (Nat × Nat) := #[]
  lower : Option Nat := none
  number : Nat := 0

private def Partial.finish (s : Partial) : Array (Nat × Nat) :=
  s.done.push (s.lower.getD s.number, s.number)

private def Partial.read (s : Partial) (c : Char) : Partial :=
  if c = '-' then ⟨s.done, some s.number, 0⟩
  else if c = ' ' then ⟨s.finish, none, 0⟩
  else ⟨s.done, s.lower, s.number * 16 + hexValue c⟩

/-- The ranges of one line of a table. -/
def readLine (line : String) : Array (Nat × Nat) :=
  (line.foldl Partial.read (Partial.mk #[] none 0)).finish

/-- Reads a table from its lines, none of them empty. -/
def ofLines (lines : List String) : Ranges :=
  ⟨lines.foldl (fun done line => done ++ readLine line) #[]⟩

/-- Searches the ranges with an index from `lo` up to `hi`, halving at most `fuel` times. -/
def search (bounds : Array (Nat × Nat)) (c : Nat) : (fuel lo hi : Nat) → Bool
  | 0, _, _ => false
  | fuel + 1, lo, hi =>
    let mid := (lo + hi) / 2
    match bounds[mid]? with
    | none => false
    | some (first, last) =>
      if hi ≤ lo then false
      else if c < first then search bounds c fuel lo mid
      else if last < c then search bounds c fuel (mid + 1) hi
      else true

/-- Whether a code point lies in one of the ranges. -/
def contains (t : Ranges) (c : Nat) : Bool :=
  search t.bounds c (t.bounds.size.log2 + 2) 0 t.bounds.size

/-- The number of ranges. -/
def size (t : Ranges) : Nat := t.bounds.size

end Ranges

end SecretScan.Unicode
