import SecretScan.Toml.Scalar
import SecretScan.Toml.Table
import SecretScan.Toml.Text

/-!
# Reading TOML

A document is a sequence of lines: a key and a value, a header in brackets that says to which table the
following keys belong, or nothing. Arrays and tables that are written as values may run over several
lines and end with a comma.
-/

namespace SecretScan.Toml

/-- The greatest number of arrays and tables that may stand inside each other as values. -/
def depthLimit : Nat := 80

mutual

/-- Reads a value, in which `room` arrays and tables may stand inside each other, and what follows it.
Of every three rounds one reads a character, so three times the number of characters is fuel
enough. -/
def readValue : (fuel room : Nat) → List Char → Option (Toml × List Char)
  | 0, _, _ => none
  | fuel + 1, room, cs =>
    match cs with
    | '"' :: _ | '\'' :: _ => (readText cs).map fun (s, rest) => (.string s, rest)
    | '[' :: rest =>
      if room = 0 then none
      else (readItems fuel (room - 1) rest).map fun (items, rest) => (.array items, rest)
    | '{' :: rest =>
      if room = 0 then none
      else (readMembers fuel (room - 1) [] rest).map fun (es, rest) => (.table (finishEntries es), rest)
    | cs => readScalar cs

/-- Reads the items of an array up to its end. -/
def readItems : (fuel room : Nat) → List Char → Option (List Toml × List Char)
  | 0, _, _ => none
  | fuel + 1, room, cs =>
    match dropTrivia false cs with
    | ']' :: rest => some ([], rest)
    | cs => do
      let (v, rest) ← readValue fuel room cs
      match dropTrivia false rest with
      | ']' :: rest => some ([v], rest)
      | ',' :: rest =>
        let (items, rest) ← readItems fuel room rest
        some (v :: items, rest)
      | _ => none

/-- Reads the members of a table up to its end, behind those already read. -/
def readMembers : (fuel room : Nat) → Entries → List Char → Option (Entries × List Char)
  | 0, _, _, _ => none
  | fuel + 1, room, es, cs =>
    match dropTrivia false cs with
    | '}' :: rest => some (es, rest)
    | cs => do
      let (path, last, rest) ← readKey cs.length cs
      match rest with
      | '=' :: rest =>
        let (v, rest) ← readValue fuel room (dropSpace rest)
        let es ← Entries.put v path last es
        match dropTrivia false rest with
        | '}' :: rest => some (es, rest)
        | ',' :: rest => readMembers fuel room es rest
        | _ => none
      | _ => none

end

/-- A key and its value, and what follows their line; the value goes into the table at `path`. -/
def readPair (path : List String) (root : Entries) (cs : List Char) :
    Option (Entries × List Char) := do
  let (way, last, rest) ← readKey cs.length cs
  match rest with
  | '=' :: rest =>
    let rest := dropSpace rest
    let (v, rest) ← readValue (3 * rest.length + 3) depthLimit rest
    let root ← Entries.alongHeader (Entries.put v way last) path root
    return (root, ← dropLine? rest)
  | _ => none

/-- A header, from behind its opening bracket, and what follows its line: the path of the table that it
opens. Double brackets open the next table of an array. -/
def readHeader (root : Entries) (cs : List Char) : Option (List String × Entries × List Char) := do
  let (double, cs) := match cs with
    | '[' :: rest => (true, rest)
    | cs => (false, cs)
  let (way, last, rest) ← readKey cs.length cs
  let rest ← match double, rest with
    | true, ']' :: ']' :: rest | false, ']' :: rest => some rest
    | _, _ => none
  let act := if double then Entries.openElement last else Entries.openTable last
  let root ← Entries.alongHeader act way root
  return (way ++ [last], root, ← dropLine? rest)

/-- Reads the lines of a document into its tables, with the keys going into the table at `path`. Every
round reads at least one character, so the number of characters is fuel enough. -/
def readLines : (fuel : Nat) → (path : List String) → (root : Entries) → List Char → Option Entries
  | 0, _, root, cs => if cs.isEmpty then some root else none
  | fuel + 1, path, root, cs =>
    match dropTrivia false cs with
    | [] => some root
    | '[' :: rest => do
      let (path, root, rest) ← readHeader root rest
      readLines fuel path root rest
    | cs => do
      let (root, rest) ← readPair path root cs
      readLines fuel path root rest

/-- Reads a document. A byte order mark at its start does not count. -/
def read (text : String) : Option (List (String × Toml)) :=
  let cs := match text.toList with
    | '\ufeff' :: rest => rest
    | cs => cs
  (readLines (cs.length + 1) [] [] cs).map finishEntries

end SecretScan.Toml
