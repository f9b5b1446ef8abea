import SecretScan.Number.Binary64

/-!
# Decimal notation

A finite number is written in the fewest decimal digits that read back as the same number, of several
such texts the nearest one; always positionally, without an exponent and without a fraction that is
zero.

The numbers that read back as a given one form an interval around it, and the decimals with a given
last place form a grid. The coarsest grid with a point in the interval gives the fewest digits, and
one of the two grid points beside the number is then in the interval.
-/

namespace SecretScan.Binary64

/-- The distance from a number to the next greater one, in units. -/
def spacing (units : Nat) : Nat := Nat.pow 2 (units.log2 - 52)

/-- Whether a decimal `n * 10 ^ e` rounds to the number of the given units. In quarters of a unit the
ends of the interval are whole; the lower end is nearer where the spacing changes. The ends belong to
it when the significand is even. -/
def readsBack (units n : Nat) (e : Int) : Bool :=
  let gap := spacing units
  let low := 4 * units - if units = 0x10000000000000 * gap ∧ 1 < gap then gap else 2 * gap
  let high := 4 * units + 2 * gap
  let isEven := units / gap % 2 = 0
  let num := 4 * n * Nat.pow 10 e.toNat * one
  let den := Nat.pow 10 (-e).toNat
  if isEven then low * den ≤ num ∧ num ≤ high * den else low * den < num ∧ num < high * den

/-- The multiple of `10 ^ e` next to the number that reads back as it, if there is one; of two the
nearer, and the greater if both are equally near. -/
def gridPoint? (units : Nat) (e : Int) : Option (Nat × Int) :=
  let num := units * Nat.pow 10 (-e).toNat
  let den := one * Nat.pow 10 e.toNat
  let below := num / den
  let above := below + 1
  let lowHit := below != 0 && readsBack units below e
  let highHit := readsBack units above e
  if lowHit && (!highHit || 2 * (num % den) < den) then some (below, e)
  else if highHit then some (above, e)
  else none

/-- The decimal with the fewest digits that reads back as a number other than zero, as digits and
exponent. The search starts above the number's own order of magnitude, and seventeen digits always
suffice. -/
def shortest (units : Nat) : Nat × Int :=
  let top := ((units.log2 : Int) - 1074) * 301 / 1000 + 3
  ((List.range 40).findSome? fun (i : Nat) => gridPoint? units (top - (i : Int))).getD (0, 0)

/-- The digits `n` with the point moved `e` places to the right, written positionally. -/
def positional (n : Nat) (e : Int) : String :=
  let digits := (toString n).toList
  if 0 ≤ e then String.ofList (digits ++ List.replicate e.toNat '0')
  else
    let places := (-e).toNat
    let padded := List.replicate (places + 1 - digits.length) '0' ++ digits
    String.ofList (padded.take (padded.length - places) ++ '.' :: padded.drop (padded.length - places))

/-- The text of a number. -/
def text : Binary64 → String
  | .nan => "NaN"
  | .infinite negative => if negative then "-inf" else "inf"
  | .finite negative units =>
    let body := if units = 0 then "0" else
      let (n, e) := shortest units
      positional n e
    if negative then "-" ++ body else body

/-! ### Reading -/

/-- The digits of a decimal with the point left out, how many of them follow the point, and whether
every character was a digit or the one point. -/
def readMantissa (cs : List Char) : Option (Nat × Nat) :=
  let whole := cs.takeWhile Char.isDigit
  let value (ds : List Char) (n : Nat) := ds.foldl (fun n c => 10 * n + (c.toNat - 48)) n
  match cs.dropWhile Char.isDigit with
  | [] => if whole.isEmpty then none else some (value whole 0, 0)
  | '.' :: rest =>
    if rest.all Char.isDigit && !(whole.isEmpty && rest.isEmpty) then
      some (value rest (value whole 0), rest.length)
    else none
  | _ => none

/-- The value of a whole number with an optional sign. -/
def readSigned (cs : List Char) : Option Int :=
  let (negative, ds) := match cs with
    | '-' :: ds => (true, ds)
    | '+' :: ds => (false, ds)
    | ds => (false, ds)
  if ds.isEmpty || !ds.all Char.isDigit then none
  else
    let n : Int := ds.foldl (fun n c => 10 * n + (c.toNat - 48 : Nat)) 0
    some (if negative then -n else n)

/-- Reads a decimal, or the text of a number that is not finite, as the nearest number. -/
def ofText? (s : String) : Option Binary64 :=
  let (negative, cs) := match s.toList with
    | '-' :: cs => (true, cs)
    | '+' :: cs => (false, cs)
    | cs => (false, cs)
  match String.ofList cs with
  | "NaN" | "nan" => some .nan
  | "inf" => some (.infinite negative)
  | _ => do
    let mantissa := cs.takeWhile fun c => c != 'e' && c != 'E'
    let (n, places) ← readMantissa mantissa
    let e ← match cs.drop mantissa.length with
      | [] => some 0
      | _ :: ds => readSigned ds
    some (ofDecimal negative n (e - places))

end SecretScan.Binary64
