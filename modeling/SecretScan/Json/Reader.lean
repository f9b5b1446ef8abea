import SecretScan.Json.Number

/-!
# Reading JSON

A document is read into a tree as far as it goes. Where it is not well formed, the tree says so at
that place and reading stops; nothing after the place is in the tree. Whoever takes the tree apart from
left to right then meets the first fault of any kind, be it of form or of meaning, in the order of the
text.
-/

namespace SecretScan

/-- A JSON value, as far as it could be read. -/
inductive Json where
  /-- `null` -/
  | null
  /-- `true` or `false`. -/
  | bool (b : Bool)
  /-- A number. -/
  | number (n : Json.Number)
  /-- A text. -/
  | string (s : String)
  /-- An array. Where no comma and no end follows its last item it is cut off. -/
  | array (items : List Json) (cut : Option JsonFault)
  /-- An object. Where no further name and no end follows its last member it is cut off. -/
  | object (members : List (String × Json)) (cut : Option JsonFault)
  /-- No value could be read here. -/
  | broken (fault : JsonFault)

namespace Json

/-- Drops leading blanks. -/
def dropBlank (cs : List Char) : List Char :=
  cs.dropWhile fun c => c == ' ' || c == '\n' || c == '\t' || c == '\r'

/-! ### Texts -/

/-- Whether a character is a hexadecimal digit. -/
def isHexDigit (c : Char) : Bool :=
  c.isDigit || ('a' ≤ c && c ≤ 'f') || ('A' ≤ c && c ≤ 'F')

/-- The four hexadecimal digits of an escape. The text ends too early if fewer than four bytes are
left of it. -/
def readHex (cs : List Char) : Except JsonFault (Nat × List Char) :=
  let digits := cs.take 4
  if digits.length = 4 ∧ digits.all isHexDigit then
    .ok (digits.foldl (fun n c => 16 * n + Unicode.hexValue c) 0, cs.drop 4)
  else if (String.ofList digits).utf8ByteSize < 4 then .error .unfinished
  else .error .malformed

/-- The character of an escape by hexadecimal digits, from behind its `u`. The two halves of a
surrogate pair come as two escapes, and neither may stand alone. -/
def readUnicode (cs : List Char) : Except JsonFault (Char × List Char) := do
  let (n, rest) ← readHex cs
  if n < 0xd800 ∨ 0xdfff < n then return (Char.ofNat n, rest)
  else if 0xdbff < n then .error .malformed
  else
    match rest with
    | [] | ['\\'] => .error .unfinished
    | '\\' :: 'u' :: rest =>
      let (low, rest) ← readHex rest
      if 0xdc00 ≤ low ∧ low ≤ 0xdfff then
        return (Char.ofNat (0x10000 + (n - 0xd800) * 0x400 + (low - 0xdc00)), rest)
      else .error .malformed
    | _ => .error .malformed

/-- The character of an escape, from behind its backslash. -/
def readEscape : List Char → Except JsonFault (Char × List Char)
  | [] => .error .unfinished
  | c :: rest =>
    match c with
    | '"' | '\\' | '/' => .ok (c, rest)
    | 'b' => .ok ('\x08', rest)
    | 'f' => .ok ('\x0c', rest)
    | 'n' => .ok ('\n', rest)
    | 'r' => .ok ('\r', rest)
    | 't' => .ok ('\t', rest)
    | 'u' => readUnicode rest
    | _ => .error .malformed

/-- The characters up to the closing quote, behind those in `done`, which come last first. Every round
reads at least one character, so the number of characters is fuel enough. -/
def readQuoted : (fuel : Nat) → (done : List Char) → List Char →
    Except JsonFault (String × List Char)
  | 0, _, _ => .error .unfinished
  | _ + 1, _, [] => .error .unfinished
  | fuel + 1, done, c :: rest =>
    if c = '"' then .ok (String.ofList done.reverse, rest)
    else if c = '\\' then do
      let (c, rest) ← readEscape rest
      readQuoted fuel (c :: done) rest
    else if c.toNat < 32 then .error .malformed
    else readQuoted fuel (c :: done) rest

/-- A text, from behind its opening quote. -/
def readString (cs : List Char) : Except JsonFault (String × List Char) :=
  readQuoted (cs.length + 1) [] cs

/-- The rest of a word, which stands for a value. -/
def readWord (value : Json) : (word : List Char) → List Char → Json × Option (List Char)
  | [], rest => (value, some rest)
  | _ :: _, [] => (.broken .unfinished, none)
  | w :: ws, c :: cs => if w = c then readWord value ws cs else (.broken .malformed, none)

/-- A value that has been read, or the fault met instead. -/
def settle {α : Type} (make : α → Json) :
    Except JsonFault (α × List Char) → Json × Option (List Char)
  | .ok (a, rest) => (make a, some rest)
  | .error fault => (.broken fault, none)

/-! ### Values -/

/-- The greatest number of arrays and objects that may stand inside each other. -/
def depthLimit : Nat := 127

mutual

/-- Reads a value, in which `room` arrays and objects may stand inside each other, and what follows
it, unless a fault was met. Of every three rounds one reads a character, so three times the number of
characters is fuel enough. -/
def readValue : (fuel room : Nat) → List Char → Json × Option (List Char)
  | 0, _, _ => (.broken .unfinished, none)
  | fuel + 1, room, cs =>
    match dropBlank cs with
    | [] => (.broken .unfinished, none)
    | 'n' :: rest => readWord .null ['u', 'l', 'l'] rest
    | 't' :: rest => readWord (.bool true) ['r', 'u', 'e'] rest
    | 'f' :: rest => readWord (.bool false) ['a', 'l', 's', 'e'] rest
    | '"' :: rest => settle .string (readString rest)
    | '-' :: rest => settle .number (Number.read true rest)
    | '[' :: rest =>
      if room = 0 then (.broken .malformed, none)
      else
        let (items, cut, rest) := readItems fuel (room - 1) true rest
        (.array items cut, rest)
    | '{' :: rest =>
      if room = 0 then (.broken .malformed, none)
      else
        let (members, cut, rest) := readMembers fuel (room - 1) true rest
        (.object members cut, rest)
    | c :: rest =>
      if c.isDigit then settle .number (Number.read false (c :: rest))
      else (.broken .malformed, none)

/-- Reads the items of an array up to its end, `first` telling whether none has been read so far. -/
def readItems : (fuel room : Nat) → (first : Bool) → List Char →
    List Json × Option JsonFault × Option (List Char)
  | 0, _, _, _ => ([], some .unfinished, none)
  | fuel + 1, room, first, cs =>
    match dropBlank cs with
    | [] => ([], some .unfinished, none)
    | ']' :: rest => ([], none, some rest)
    | c :: rest =>
      if !first && c != ',' then ([], some .malformed, none)
      else
        match readValue fuel room (if first then c :: rest else rest) with
        | (v, none) => ([v], none, none)
        | (v, some rest) =>
          let (items, cut, rest) := readItems fuel room false rest
          (v :: items, cut, rest)

/-- Reads the members of an object up to its end, `first` telling whether none has been read so
far. -/
def readMembers : (fuel room : Nat) → (first : Bool) → List Char →
    List (String × Json) × Option JsonFault × Option (List Char)
  | 0, _, _, _ => ([], some .unfinished, none)
  | fuel + 1, room, first, cs =>
    match dropBlank cs with
    | [] => ([], some .unfinished, none)
    | '}' :: rest => ([], none, some rest)
    | c :: rest =>
      if !first && c != ',' then ([], some .malformed, none)
      else
        match if first then c :: rest else dropBlank rest with
        | [] => ([], some .unfinished, none)
        | '"' :: rest =>
          match readString rest with
          | .error fault => ([], some fault, none)
          | .ok (name, rest) =>
            match dropBlank rest with
            | ':' :: rest =>
              match readValue fuel room rest with
              | (v, none) => ([(name, v)], none, none)
              | (v, some rest) =>
                let (members, cut, rest) := readMembers fuel room false rest
                ((name, v) :: members, cut, rest)
            | [] => ([(name, .broken .unfinished)], none, none)
            | _ => ([(name, .broken .malformed)], none, none)
        | _ => ([], some .malformed, none)

end

/-- Reads a value at the start of a text. -/
def read (cs : List Char) : Json × Option (List Char) := readValue (3 * cs.length + 3) depthLimit cs

/-! ### Faults -/

mutual

/-- The first fault in a value. -/
def fault? : Json → Option JsonFault
  | .array items cut => (faultIn? items).or cut
  | .object members cut => (faultAmong? members).or cut
  | .broken fault => some fault
  | _ => none

/-- The first fault in the items of an array. -/
def faultIn? : List Json → Option JsonFault
  | [] => none
  | v :: rest => (fault? v).or (faultIn? rest)

/-- The first fault in the values of an object. -/
def faultAmong? : List (String × Json) → Option JsonFault
  | [] => none
  | (_, v) :: rest => (fault? v).or (faultAmong? rest)

end

/-- Takes a whole document apart. What follows its value must be blank, which is looked at last. -/
def decode {α : Type} (take : Json → Except JsonFault α) (text : String) : Except JsonFault α := do
  let (v, rest) := read text.toList
  let a ← take v
  if (rest.map dropBlank).getD [] = [] then return a else .error .malformed

end Json

end SecretScan
