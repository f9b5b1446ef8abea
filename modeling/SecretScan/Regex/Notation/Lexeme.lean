import SecretScan.CharSet
import SecretScan.Unicode.Ranges

/-!
# Lexemes of written expressions

Blanks, comments and numbers inside an expression. Where blanks do not count (`spaced`), they and
comments, which run from `#` to the end of the line, may stand between any two characters.
-/

namespace SecretScan.Regex.Notation

/-- Whether a character is a blank. -/
def isBlank (c : Char) : Bool := CharSet.space.contains c.toNat

/-- Drops leading blanks and comments; `inComment` says that a comment has started. -/
def dropBlank : (inComment : Bool) → List Char → List Char
  | _, [] => []
  | true, c :: cs => dropBlank (c != '\n') cs
  | false, c :: cs =>
    if isBlank c then dropBlank false cs else if c = '#' then dropBlank true cs else c :: cs

/-- Drops leading blanks and comments where they do not count. -/
def skip (spaced : Bool) (cs : List Char) : List Char :=
  if spaced then dropBlank false cs else cs

/-- The characters up to a closing brace, and what follows it. -/
def takeBraced (spaced : Bool) : (inComment : Bool) → List Char → Option (List Char × List Char)
  | _, [] => none
  | true, c :: cs => takeBraced spaced (c != '\n') cs
  | false, c :: cs =>
    if spaced && isBlank c then takeBraced spaced false cs
    else if spaced && c == '#' then takeBraced spaced true cs
    else if c = '}' then some ([], cs)
    else (takeBraced spaced false cs).map fun (taken, rest) => (c :: taken, rest)

/-- The leading decimal digits, and what follows them. -/
def takeDigits (spaced : Bool) : (inComment : Bool) → List Char → List Char × List Char
  | _, [] => ([], [])
  | true, c :: cs => takeDigits spaced (c != '\n') cs
  | false, c :: cs =>
    if spaced && isBlank c then takeDigits spaced false cs
    else if spaced && c == '#' then takeDigits spaced true cs
    else if c.isDigit then
      let (taken, rest) := takeDigits spaced false cs
      (c :: taken, rest)
    else ([], c :: cs)

/-- The value of decimal digits. -/
def decimalValue (digits : List Char) : Nat :=
  digits.foldl (fun n c => 10 * n + (c.toNat - 48)) 0

/-- A decimal number below `2 ^ 32`, with blanks around it, and what follows. -/
def readDecimal (spaced : Bool) (cs : List Char) : Option (Nat × List Char) :=
  let (digits, rest) := takeDigits spaced false (cs.dropWhile isBlank)
  let n := decimalValue digits
  if digits.isEmpty ∨ 0x100000000 ≤ n then none else some (n, rest.dropWhile isBlank)

/-- The bounds of a counted repetition, from behind its opening brace to behind its closing one:
`n}`, `n,}` or `m,n}`. -/
def readBounds (spaced : Bool) (cs : List Char) : Option ((Nat × Option Nat) × List Char) := do
  let (least, rest) ← readDecimal spaced (skip spaced cs)
  match rest with
  | '}' :: rest => some ((least, some least), rest)
  | ',' :: rest =>
    match skip spaced rest with
    | '}' :: rest => some ((least, none), rest)
    | rest =>
      let (most, rest) ← readDecimal spaced rest
      match rest with
      | '}' :: rest => if least ≤ most then some ((least, some most), rest) else none
      | _ => none
  | _ => none

/-- Whether a character is a hexadecimal digit. -/
def isHexDigit (c : Char) : Bool :=
  c.isDigit || ('a' ≤ c && c ≤ 'f') || ('A' ≤ c && c ≤ 'F')

/-- Exactly `n` hexadecimal digits, and what follows them. -/
def takeHex (spaced : Bool) : (n : Nat) → List Char → Option (List Char × List Char)
  | 0, cs => some ([], cs)
  | _ + 1, [] => none
  | n + 1, c :: cs =>
    if isHexDigit c then
      (takeHex spaced n (skip spaced cs)).map fun (taken, rest) => (c :: taken, rest)
    else none

/-- The character of a code point given in hexadecimal digits. -/
def hexChar? (digits : List Char) : Option Char :=
  let n := digits.foldl (fun n c => 16 * n + Unicode.hexValue c) 0
  if digits.isEmpty then none else if h : n.isValidChar then some (Char.ofNatAux n h) else none

end SecretScan.Regex.Notation
