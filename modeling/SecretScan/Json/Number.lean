import SecretScan.Fault

/-!
# Numbers in JSON

A whole number without fraction and exponent is kept as it is while it fits 64 bits. Every other
number becomes a binary64 number: its leading digits that fit 64 bits make a whole number, further
digits only count, and that number is scaled by one power of ten. Both the whole number and the scaling
are rounded, so that the result is not always the nearest one.
-/

namespace SecretScan.Json

/-- A number as it is read. -/
inductive Number where
  /-- A whole number below `2 ^ 64`. -/
  | natural (n : Nat)
  /-- The negative of a whole number from one to `2 ^ 63`. -/
  | negative (n : Nat)
  /-- Any other number. -/
  | real (x : Binary64)
deriving DecidableEq

namespace Number

/-- The binary64 number nearest to a number. -/
def toBinary64 : Number → Binary64
  | .natural n => .ofNat n
  | .negative n => (Binary64.ofNat n).neg
  | .real x => x

/-- Appends decimal digits to a number as long as it fits 64 bits; the digits that are left. -/
def accumulate : (n : Nat) → (digits : List Char) → Nat × List Char
  | n, [] => (n, [])
  | n, c :: cs =>
    let more := 10 * n + (c.toNat - 48)
    if more < 0x10000000000000000 then accumulate more cs else (n, c :: cs)

/-- The units of `10 ^ e` as a binary64 number. -/
def powerUnits (e : Nat) : Nat := Binary64.roundUnits (Nat.pow 10 e * Binary64.one) 1

/-- Scales a binary64 number, given by its units, by `10 ^ e`, dividing by `10 ^ 308` first while the
exponent is below `-308`. Three such divisions leave nothing of any number of 64 bits. -/
def scale : (fuel units : Nat) → (e : Int) → Except JsonFault Nat
  | 0, _, _ => .ok 0
  | fuel + 1, units, e =>
    if 0 ≤ e then
      if units = 0 then .ok 0
      else if 308 < e then .error .malformed
      else
        let scaled := Binary64.roundUnits (units * powerUnits e.toNat) Binary64.one
        if scaled < Binary64.unitLimit then .ok scaled else .error .malformed
    else if -308 ≤ e then
      .ok (Binary64.roundUnits (units * Binary64.one) (powerUnits (-e).toNat))
    else if units = 0 then .ok 0
    else scale fuel (Binary64.roundUnits (units * Binary64.one) (powerUnits 308)) (e + (308 : Int))

/-- The number of a sign, a significand and an exponent. A number too large is malformed. -/
def ofParts (isNegative : Bool) (significand : Nat) (e : Int) : Except JsonFault Number := do
  let units ← scale 5 (Binary64.roundUnits (significand * Binary64.one) 1) e
  return .real (.finite isNegative units)

/-- Whether a minus sign is in front, and what follows the sign, if there is one. -/
def readSign : List Char → Bool × List Char
  | '+' :: rest => (false, rest)
  | '-' :: rest => (true, rest)
  | rest => (false, rest)

/-- The exponent, from behind its letter, with the exponent so far. An exponent beyond 31 bits makes
every number but zero too large, or zero. -/
def readExponent (isNegative : Bool) (significand : Nat) (e : Int) (cs : List Char) :
    Except JsonFault (Number × List Char) :=
  let (down, cs) := readSign cs
  match cs with
  | [] => .error .unfinished
  | c :: _ =>
    if !c.isDigit then .error .malformed
    else
      let n : Nat := (cs.takeWhile Char.isDigit).foldl (fun n c => 10 * n + (c.toNat - 48)) 0
      let rest := cs.dropWhile Char.isDigit
      if n < 0x80000000 then do
        let number ← ofParts isNegative significand (if down then e - (n : Int) else e + (n : Int))
        return (number, rest)
      else if significand != 0 && !down then .error .malformed
      else .ok (.real (.finite isNegative 0), rest)

/-- What follows the digits of a number: an exponent or nothing of it. -/
def readTail (isNegative : Bool) (significand : Nat) (e : Int) :
    List Char → Except JsonFault (Number × List Char)
  | 'e' :: rest | 'E' :: rest => readExponent isNegative significand e rest
  | rest => do return (← ofParts isNegative significand e, rest)

/-- The digits behind the point, at least one, and what follows them. -/
def readFraction (isNegative : Bool) (significand : Nat) (e : Int) (cs : List Char) :
    Except JsonFault (Number × List Char) :=
  let digits := cs.takeWhile Char.isDigit
  let rest := cs.dropWhile Char.isDigit
  if digits.isEmpty then .error (if rest.isEmpty then .unfinished else .malformed)
  else
    let (significand, left) := accumulate significand digits
    readTail isNegative significand (e - (digits.length - left.length : Nat)) rest

/-- A whole number without fraction and exponent. The negative of zero and of what exceeds 63 bits is
no whole number. -/
def whole (isNegative : Bool) (n : Nat) : Number :=
  if !isNegative then .natural n
  else if 0 < n ∧ n ≤ 0x8000000000000000 then .negative n
  else .real ((Binary64.ofNat n).neg)

/-- A number, from behind its sign, and what follows it. -/
def read (isNegative : Bool) (cs : List Char) : Except JsonFault (Number × List Char) :=
  let digits := cs.takeWhile Char.isDigit
  let rest := cs.dropWhile Char.isDigit
  if digits.isEmpty then .error (if rest.isEmpty then .unfinished else .malformed)
  else if digits.head? = some '0' && 1 < digits.length then .error .malformed
  else
    let (significand, left) := accumulate 0 digits
    match rest with
    | '.' :: rest => readFraction isNegative significand left.length rest
    | 'e' :: rest | 'E' :: rest => readExponent isNegative significand left.length rest
    | rest =>
      if left.isEmpty then .ok (whole isNegative significand, rest)
      else readTail isNegative significand left.length rest

end Number

end SecretScan.Json
