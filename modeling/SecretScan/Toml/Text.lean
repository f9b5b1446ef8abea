import SecretScan.Unicode.Ranges

/-!
# Blanks, comments, texts and keys in TOML

A text stands between quotation marks or apostrophes, on one line between single ones and on several
lines between triple ones. Between quotation marks a backslash starts an escape. No control character
but the tabulation stands in a text or a comment as it is, and a carriage return only before a line
feed.
-/

namespace SecretScan.Toml

/-- Whether a character may stand in a text or a comment as it is. -/
def isPlain (c : Char) : Bool := c == '\t' || (32 ≤ c.toNat && c.toNat != 127)

/-- Drops leading spaces and tabulations. -/
def dropSpace (cs : List Char) : List Char := cs.dropWhile fun c => c == ' ' || c == '\t'

/-- What follows a line end. -/
def dropNewline? : List Char → Option (List Char)
  | '\n' :: rest | '\r' :: '\n' :: rest => some rest
  | _ => none

/-- Drops a comment. -/
def dropComment : List Char → List Char
  | '#' :: rest => rest.dropWhile isPlain
  | cs => cs

/-- What follows the line on which something ends, if nothing but blanks and a comment follows it
there. -/
def dropLine? (cs : List Char) : Option (List Char) :=
  match dropComment (dropSpace cs) with
  | [] => some []
  | rest => dropNewline? rest

/-- Drops blanks, line ends and comments; `inComment` says that a comment has started. -/
def dropTrivia : (inComment : Bool) → List Char → List Char
  | _, [] => []
  | inComment, c :: cs =>
    if c = '\n' then dropTrivia false cs
    else if c = '\r' ∧ cs.head? = some '\n' then dropTrivia inComment cs
    else if inComment then if isPlain c then dropTrivia true cs else c :: cs
    else if c = ' ' ∨ c = '\t' then dropTrivia false cs
    else if c = '#' then dropTrivia true cs
    else c :: cs

/-! ### Texts -/

/-- Whether a character is a hexadecimal digit. -/
def isHexDigit (c : Char) : Bool :=
  c.isDigit || ('a' ≤ c && c ≤ 'f') || ('A' ≤ c && c ≤ 'F')

/-- The character of a code point of exactly `width` hexadecimal digits, and what follows them. -/
def readCodePoint (width : Nat) (cs : List Char) : Option (Char × List Char) :=
  let digits := cs.take width
  let n := digits.foldl (fun n c => 16 * n + Unicode.hexValue c) 0
  if digits.length = width ∧ digits.all isHexDigit then
    if h : n.isValidChar then some (Char.ofNatAux n h, cs.drop width) else none
  else none

/-- The character of an escape, from behind its backslash. -/
def readEscape : List Char → Option (Char × List Char)
  | [] => none
  | c :: rest =>
    match c with
    | '"' | '\\' => some (c, rest)
    | 'b' => some ('\x08', rest)
    | 't' => some ('\t', rest)
    | 'n' => some ('\n', rest)
    | 'f' => some ('\x0c', rest)
    | 'r' => some ('\r', rest)
    | 'e' => some ('\x1b', rest)
    | 'x' => readCodePoint 2 rest
    | 'u' => readCodePoint 4 rest
    | 'U' => readCodePoint 8 rest
    | _ => none

/-- Drops leading spaces, tabulations and line ends. -/
def dropSpaceLines : List Char → List Char
  | [] => []
  | c :: cs =>
    if c = ' ' ∨ c = '\t' ∨ c = '\n' ∨ (c = '\r' ∧ cs.head? = some '\n') then dropSpaceLines cs
    else c :: cs

/-- A line that is continued, from behind its backslash: blanks up to the line end, then all blanks
and line ends. -/
def dropContinued? (cs : List Char) : Option (List Char) :=
  (dropNewline? (dropSpace cs)).map dropSpaceLines

/-- The characters of a text up to the marks that end it, behind those in `done`, which come last
first. With `escapes` a backslash starts an escape; with `lines` the text ends at three marks, of
which up to two more may stand before. Every round reads at least one character, so the number of
characters is fuel enough. -/
def readQuoted (mark : Char) (escapes lines : Bool) :
    (fuel : Nat) → (done : List Char) → List Char → Option (String × List Char)
  | 0, _, _ => none
  | _ + 1, _, [] => none
  | fuel + 1, done, c :: rest =>
    if c = mark then
      if !lines then some (String.ofList done.reverse, rest)
      else if rest.take 2 != [mark, mark] then readQuoted mark escapes lines fuel (c :: done) rest
      else
        let extra := min 2 ((rest.drop 2).takeWhile (· == mark)).length
        some (String.ofList (done.reverse ++ List.replicate extra mark), rest.drop (2 + extra))
    else if c = '\\' ∧ escapes then
      match if lines then dropContinued? rest else none with
      | some rest => readQuoted mark escapes lines fuel done rest
      | none => do
        let (c, rest) ← readEscape rest
        readQuoted mark escapes lines fuel (c :: done) rest
    else if isPlain c then readQuoted mark escapes lines fuel (c :: done) rest
    else if lines ∧ (c = '\n' ∨ (c = '\r' ∧ rest.head? = some '\n')) then
      readQuoted mark escapes lines fuel (c :: done) rest
    else none

/-- A text on one line, from its opening mark. -/
def readLineText : List Char → Option (String × List Char)
  | '"' :: rest => readQuoted '"' true false (rest.length + 1) [] rest
  | '\'' :: rest => readQuoted '\'' false false (rest.length + 1) [] rest
  | _ => none

/-- A text, from its opening mark. A line end right behind three marks does not count. -/
def readText (cs : List Char) : Option (String × List Char) :=
  let start (rest : List Char) := (dropNewline? rest).getD rest
  match cs with
  | '"' :: '"' :: '"' :: rest => readQuoted '"' true true (rest.length + 1) [] (start rest)
  | '\'' :: '\'' :: '\'' :: rest => readQuoted '\'' false true (rest.length + 1) [] (start rest)
  | cs => readLineText cs

/-! ### Keys -/

/-- Whether a character may stand in a key without marks. -/
def isBare (c : Char) : Bool := c.isAlphanum || c == '_' || c == '-'

/-- One part of a key: a text on one line, or letters, digits, underscores and hyphens. -/
def readKeyPart (cs : List Char) : Option (String × List Char) :=
  match cs with
  | '"' :: _ | '\'' :: _ => readLineText cs
  | cs =>
    let part := cs.takeWhile isBare
    if part.isEmpty then none else some (String.ofList part, cs.drop part.length)

/-- A key: parts with points between them, blanks around each, as the parts but the last one and the
last one. Every round reads at least one character, so the number of characters is fuel enough. -/
def readKey : (fuel : Nat) → List Char → Option (List String × String × List Char)
  | 0, _ => none
  | fuel + 1, cs => do
    let (part, rest) ← readKeyPart (dropSpace cs)
    match dropSpace rest with
    | '.' :: rest =>
      let (path, last, rest) ← readKey fuel rest
      some (part :: path, last, rest)
    | rest => some ([], part, rest)

end SecretScan.Toml
