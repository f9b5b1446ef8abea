import SecretScan.Regex.Expr
import SecretScan.Regex.Modes
import SecretScan.Regex.Notation.Lexeme
import SecretScan.Unicode.Property

/-!
# Escapes

What a backslash and the characters behind it stand for: a character, a set of characters, or an
assertion. There are no references back to earlier parts of the match.
-/

namespace SecretScan.Regex.Notation

/-- One element of an expression. -/
inductive Atom where
  /-- One character; `isByte` says that it was written as two hexadecimal digits. -/
  | char (c : Char) (isByte : Bool)
  /-- A set of characters, case and complement already applied. -/
  | set (s : CharSet)
  /-- A condition on the place. -/
  | assertion (a : Assertion)

/-- The punctuation that has a meaning of its own in some place of an expression. -/
def isMeta (c : Char) : Bool := "\\.+*?()|[]\x7b\x7d^$#&-~".toList.contains c

/-- Whether a backslash may stand before a character without changing it: everything in ASCII but
letters, digits and the angle brackets. -/
def isEscapable (c : Char) : Bool :=
  isMeta c || (c.toNat < 128 && !c.isAlphanum && c != '<' && c != '>')

/-- The rule for word characters in a mode. -/
def wordRule (modes : Modes) : WordRule := if modes.unicode then .unicode else .ascii

/-- The set of a class letter (`d`, `s` or `w`, a capital for the complement). -/
def classLetter? (modes : Modes) (c : Char) : Option CharSet :=
  let positive : Option CharSet :=
    match c.toLower with
    | 'd' => some (if modes.unicode then Unicode.digit else .asciiDigit)
    | 's' => some (if modes.unicode then .space else .asciiSpace)
    | 'w' => some (if modes.unicode then .table Unicode.word else .asciiWord)
    | _ => none
  positive.bind (modes.negateIf c.isUpper)

/-- Splits a property query at the sign between name and value: `!=` first, then a colon, then an
equals sign. The flag says that the value is excluded. -/
def splitQuery (query : List Char) : List Char × Option (Bool × List Char) :=
  match splitAtPair query with
  | some (name, value) => (name, some (true, value))
  | none =>
    let sign := if query.contains ':' then ':' else '='
    match query.dropWhile (· != sign) with
    | [] => (query, none)
    | _ :: value => (query.takeWhile (· != sign), some (false, value))
where
  /-- The text before and after the first `!=`. -/
  splitAtPair : List Char → Option (List Char × List Char)
    | '!' :: '=' :: rest => some ([], rest)
    | c :: rest => (splitAtPair rest).map fun (name, value) => (c :: name, value)
    | [] => none

/-- The set of a property query. -/
def propertySet? (modes : Modes) (negated : Bool) (query : List Char) : Option CharSet :=
  if !modes.unicode then none
  else
    match splitQuery query with
    | (name, none) =>
      (Unicode.property? name).bind fun s => modes.negateIf negated (modes.foldCase s)
    | (name, some (excluded, value)) =>
      (Unicode.propertyValue? name value).bind fun s =>
        modes.negateIf (negated != excluded) (modes.foldCase s)

/-- A property, from behind its `p` or `P`: one letter, or a query in braces. -/
def readProperty (modes : Modes) (negated : Bool) (cs : List Char) : Option (Atom × List Char) :=
  match skip modes.spaced cs with
  | [] => none
  | '{' :: rest => do
    let (query, rest) ← takeBraced modes.spaced false rest
    let s ← propertySet? modes negated query
    some (.set s, rest)
  | '\\' :: _ => none
  | c :: rest => do
    let s ← propertySet? modes negated [c]
    some (.set s, rest)

/-- A character by its code point, from behind the `x`, `u` or `U`: hexadecimal digits in braces, or
exactly `width` of them. -/
def readCodePoint (modes : Modes) (width : Nat) (cs : List Char) : Option (Atom × List Char) :=
  match skip modes.spaced cs with
  | '{' :: rest => do
    let (digits, rest) ← takeBraced modes.spaced false rest
    let c ← if digits.all isHexDigit then hexChar? digits else none
    some (.char c false, rest)
  | rest => do
    let (digits, rest) ← takeHex modes.spaced width rest
    let c ← hexChar? digits
    some (.char c (width = 2), rest)

/-- A word boundary, from behind its `b`. A name in braces makes it a one-sided boundary; braces that
hold no name are left for a counted repetition. -/
def readBoundary (modes : Modes) (cs : List Char) : Option (Atom × List Char) :=
  let rule := wordRule modes
  match cs with
  | '{' :: rest =>
    match skip modes.spaced rest with
    | [] => none
    | c :: _ =>
      if !(c.isAlpha || c == '-') then some (.assertion (.wordBoundary rule), cs)
      else do
        let (name, rest) ← takeBraced modes.spaced false rest
        let a ← match String.ofList name with
          | "start" => some (Assertion.wordStart rule)
          | "end" => some (.wordEnd rule)
          | "start-half" => some (.wordStartHalf rule)
          | "end-half" => some (.wordEndHalf rule)
          | _ => none
        some (.assertion a, rest)
  | _ => some (.assertion (.wordBoundary rule), cs)

/-- An escape, from behind its backslash. -/
def readEscape (modes : Modes) : List Char → Option (Atom × List Char)
  | [] => none
  | c :: rest =>
    match c with
    | 'x' => readCodePoint modes 2 rest
    | 'u' => readCodePoint modes 4 rest
    | 'U' => readCodePoint modes 8 rest
    | 'p' => readProperty modes false rest
    | 'P' => readProperty modes true rest
    | 'a' => some (.char '\x07' false, rest)
    | 'f' => some (.char '\x0c' false, rest)
    | 't' => some (.char '\t' false, rest)
    | 'n' => some (.char '\n' false, rest)
    | 'r' => some (.char '\r' false, rest)
    | 'v' => some (.char '\x0b' false, rest)
    | 'A' => some (.assertion .textStart, rest)
    | 'z' => some (.assertion .textEnd, rest)
    | 'b' => readBoundary modes rest
    | 'B' => some (.assertion (.notWordBoundary (wordRule modes)), rest)
    | '<' => some (.assertion (.wordStart (wordRule modes)), rest)
    | '>' => some (.assertion (.wordEnd (wordRule modes)), rest)
    | c =>
      if isEscapable c then some (.char c false, rest)
      else (classLetter? modes c).map fun s => (.set s, rest)

end SecretScan.Regex.Notation
