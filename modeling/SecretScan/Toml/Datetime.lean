/-!
# Dates and times

A date, a time of day, both, or both with the distance from universal time. Each is read from its
digits and written in its usual form: a capital `T` between date and time, a capital `Z` for universal
time, and no zeros at the end of a fraction of a second.
-/

namespace SecretScan.Toml

/-- Exactly `width` decimal digits and what follows them. -/
def readDigits (width : Nat) (cs : List Char) : Option (Nat × List Char) :=
  let digits := cs.take width
  if digits.length = width ∧ digits.all Char.isDigit then
    some (digits.foldl (fun n c => 10 * n + (c.toNat - 48)) 0, cs.drop width)
  else none

/-- A number with at least `width` digits. -/
def padded (width n : Nat) : String :=
  let digits := toString n
  String.ofList (List.replicate (width - digits.length) '0') ++ digits

/-- The number of days of a month. -/
def daysIn (year month : Nat) : Nat :=
  if month = 2 then
    if year % 4 = 0 ∧ (year % 100 ≠ 0 ∨ year % 400 = 0) then 29 else 28
  else if month = 4 ∨ month = 6 ∨ month = 9 ∨ month = 11 then 30
  else 31

/-- A date, as it is written, and what follows it. -/
def readDate (cs : List Char) : Option (String × List Char) := do
  let (year, rest) ← readDigits 4 cs
  let '-' :: rest := rest | none
  let (month, rest) ← readDigits 2 rest
  let '-' :: rest := rest | none
  let (day, rest) ← readDigits 2 rest
  if 1 ≤ month ∧ month ≤ 12 ∧ 1 ≤ day ∧ day ≤ daysIn year month then
    some (padded 4 year ++ "-" ++ padded 2 month ++ "-" ++ padded 2 day, rest)
  else none

/-- A fraction of a second of at most nine places, as it is written. -/
def fraction (digits : List Char) : String :=
  let kept := ((digits.take 9).reverse.dropWhile (· == '0')).reverse
  "." ++ if kept.isEmpty then "0" else String.ofList kept

/-- A time of day, as it is written, and what follows it. Seconds may be left out. -/
def readTime (cs : List Char) : Option (String × List Char) := do
  let (hour, rest) ← readDigits 2 cs
  let ':' :: rest := rest | none
  let (minute, rest) ← readDigits 2 rest
  if 24 ≤ hour ∨ 60 ≤ minute then none
  let text := padded 2 hour ++ ":" ++ padded 2 minute
  match rest with
  | ':' :: rest =>
    let (second, rest) ← readDigits 2 rest
    if 61 ≤ second then none
    let text := text ++ ":" ++ padded 2 second
    match rest with
    | '.' :: rest =>
      let digits := rest.takeWhile Char.isDigit
      if digits.isEmpty then none else some (text ++ fraction digits, rest.drop digits.length)
    | rest => some (text, rest)
  | rest => some (text, rest)

/-- The distance from universal time, as it is written; nothing else may follow. -/
def readOffset (cs : List Char) : Option String :=
  match cs with
  | [] => some ""
  | ['Z'] | ['z'] => some "Z"
  | sign :: rest => do
    if sign ≠ '+' ∧ sign ≠ '-' then none
    let (hour, rest) ← readDigits 2 rest
    let ':' :: rest := rest | none
    let (minute, rest) ← readDigits 2 rest
    if hour < 24 ∧ minute < 60 ∧ rest = [] then
      some (sign.toString ++ padded 2 hour ++ ":" ++ padded 2 minute)
    else none

/-- The usual form of a date, a time of day or both. -/
def datetimeText? (cs : List Char) : Option String :=
  match readDate cs with
  | none =>
    match readTime cs with
    | some (time, []) => some time
    | _ => none
  | some (date, []) => some date
  | some (date, sep :: rest) => do
    if sep ≠ 'T' ∧ sep ≠ 't' ∧ sep ≠ ' ' then none
    let (time, rest) ← readTime rest
    return date ++ "T" ++ time ++ (← readOffset rest)

end SecretScan.Toml
