import SecretScan.Number.Decimal
import SecretScan.Toml.Datetime
import SecretScan.Toml.Value
import SecretScan.Unicode.Ranges

/-!
# Numbers, truth values and dates in TOML

The values that are written without marks. A whole number is decimal with an optional sign, or
hexadecimal, octal or binary without one; underscores may stand between digits. A number with a
fraction or an exponent becomes the nearest binary64 number and must not be too large for one.
-/

namespace SecretScan.Toml

/-- Digits with single underscores between them, the underscores left out. -/
def digits? (isDigit : Char → Bool) : List Char → Option (List Char)
  | [] => none
  | [c] => if isDigit c then some [c] else none
  | c :: '_' :: rest => if isDigit c then (digits? isDigit rest).map (c :: ·) else none
  | c :: rest => if isDigit c then (digits? isDigit rest).map (c :: ·) else none

/-- Decimal digits that do not start with a zero unless it stands alone. -/
def wholeDigits? (cs : List Char) : Option (List Char) :=
  match digits? Char.isDigit cs with
  | some ('0' :: _ :: _) => none
  | ds => ds

/-- The value of digits to a base. -/
def digitsValue (base : Nat) (digits : List Char) : Nat :=
  digits.foldl (fun n c => base * n + Unicode.hexValue c) 0

/-- A sign and what follows it. -/
def readSign : List Char → Bool × List Char
  | '-' :: rest => (true, rest)
  | '+' :: rest => (false, rest)
  | cs => (false, cs)

/-- A whole number. -/
def integer? (cs : List Char) : Option Int :=
  let radix (base : Nat) (isDigit : Char → Bool) (rest : List Char) : Option Int :=
    (digits? isDigit rest).map fun ds => (digitsValue base ds : Int)
  match cs with
  | '0' :: 'x' :: rest =>
    radix 16 (fun c => c.isDigit || ('a' ≤ c && c ≤ 'f') || ('A' ≤ c && c ≤ 'F')) rest
  | '0' :: 'o' :: rest => radix 8 (fun c => '0' ≤ c && c ≤ '7') rest
  | '0' :: 'b' :: rest => radix 2 (fun c => c == '0' || c == '1') rest
  | cs =>
    let (negative, rest) := readSign cs
    (wholeDigits? rest).map fun ds =>
      let n : Int := digitsValue 10 ds
      if negative then -n else n

/-- The digits behind a point, if there is one, and what follows them. -/
def places? : List Char → Option (List Char × List Char)
  | '.' :: rest =>
    let places := rest.takeWhile fun c => c != 'e' && c != 'E'
    (digits? Char.isDigit places).map (·, rest.drop places.length)
  | rest => some ([], rest)

/-- The power of ten of an exponent, which may be missing behind a fraction. -/
def exponent? (hasPlaces : Bool) : List Char → Option Int
  | [] => if hasPlaces then some 0 else none
  | _ :: rest =>
    let (down, rest) := readSign rest
    (digits? Char.isDigit rest).map fun ds =>
      let n : Int := digitsValue 10 ds
      if down then -n else n

/-- A number with a fraction or an exponent, or one that is not finite. -/
def float? (cs : List Char) : Option Binary64 := do
  let (negative, rest) := readSign cs
  if rest = ['i', 'n', 'f'] then some (.infinite negative)
  else if rest = ['n', 'a', 'n'] then some .nan
  else
    let whole := rest.takeWhile fun c => c != '.' && c != 'e' && c != 'E'
    let n ← wholeDigits? whole
    let (places, rest) ← places? (rest.drop whole.length)
    let e ← exponent? (!places.isEmpty) rest
    let x := Binary64.ofDecimal negative (digitsValue 10 (n ++ places)) (e - places.length)
    if x.isFinite then some x else none

/-- A value written without marks. -/
def scalar? (cs : List Char) : Option Toml :=
  match String.ofList cs with
  | "true" => some (.bool true)
  | "false" => some (.bool false)
  | _ =>
    ((integer? cs).map Toml.integer).or
      (((float? cs).map Toml.float).or ((datetimeText? cs).map Toml.datetime))

/-- Whether a character may stand in a value written without marks. -/
def isScalarChar (c : Char) : Bool := c.isAlphanum || "+-_.:".toList.contains c

/-- A value written without marks, and what follows it. A date and a time of day may have one space
between them. -/
def readScalar (cs : List Char) : Option (Toml × List Char) :=
  let word := cs.takeWhile isScalarChar
  let rest := cs.drop word.length
  match readDate word, rest with
  | some (_, []), ' ' :: c :: after =>
    if c.isDigit then
      let time := (c :: after).takeWhile isScalarChar
      (datetimeText? (word ++ ' ' :: time)).map fun text =>
        (.datetime text, (c :: after).drop time.length)
    else (scalar? word).map (·, rest)
  | _, _ => (scalar? word).map (·, rest)

end SecretScan.Toml
