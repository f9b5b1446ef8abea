import SecretScan.Regex.Notation.Bracket

/-!
# Groups, alternatives and repetitions

Reading a whole expression. `readGroup` reads one group to its end: the alternatives between bars,
each a sequence of atoms, brackets, further groups and repetitions of these. A list of modes such as
`(?i)` stands in the sequence, applies from there to the end of its group and cannot be repeated.
-/

namespace SecretScan.Regex.Notation

/-- A part of an expression that has been read, and how deeply it is nested: brackets, groups,
repetitions, alternations and sequences of two or more parts count one level each. -/
structure Piece where
  /-- The expression. -/
  expr : Expr CharSet Assertion
  /-- The number of levels. -/
  height : Nat

/-- One element of a sequence; a list of modes is `none`. -/
abbrev Item := Option Piece

/-- The elements of a sequence, last first, as one expression. -/
def sequence (items : List Item) : Piece :=
  match items with
  | [] => ⟨.empty, 0⟩
  | [some p] => p
  | [none] => ⟨.empty, 0⟩
  | items =>
    let heights := items.map fun item => (item.map Piece.height).getD 0
    match items.filterMap (Option.map Piece.expr) with
    | [] => ⟨.empty, heights.foldl max 0 + 1⟩
    | last :: earlier => ⟨earlier.foldl (fun e f => .cat f e) last, heights.foldl max 0 + 1⟩

/-- The alternatives, last first, as one expression. -/
def alternation (last : Piece) (earlier : List Piece) : Piece :=
  match earlier with
  | [] => last
  | ps =>
    ⟨ps.foldl (fun e p => .alt p.expr e) last.expr,
      (ps.map Piece.height).foldl max last.height + 1⟩

/-- An expression repeated. More than one round of what steps over no character adds nothing, one
round is the expression itself and no round the empty one. -/
def repeated {κ α : Type} (e : Expr κ α) (least : Nat) (most : Option Nat) : Expr κ α :=
  let (least, most) :=
    if e.isStill then (min least 1, some (min (most.getD 1) 1)) else (least, most)
  if least = 0 ∧ most = some 0 then .empty
  else if least = 1 ∧ most = some 1 then e
  else .times e least most

/-- The set of a dot: everything but line ends. -/
def dot (modes : Modes) : Option CharSet :=
  if !modes.unicode then none
  else if modes.dotAll then some .any
  else if modes.crlf then some (.compl (.union (.single '\n') (.single '\r')))
  else some (.compl (.single '\n'))

/-- The line ends in a mode. -/
def lineEnd (modes : Modes) : LineEnd := if modes.crlf then .crlf else .lf

/-- The expression of an atom. A byte that is no ASCII character has no meaning where only ASCII
counts. -/
def Atom.expr? (modes : Modes) : Atom → Option (Expr CharSet Assertion)
  | .set s => some (.step s)
  | .assertion a => some (.guard a)
  | .char c isByte =>
    if modes.unicode then some (.step (modes.foldCase (.single c)))
    else if isByte && 128 ≤ c.toNat then none
    else some (.step (modes.foldCase (.single c)))

/-- Whether a character may stand in the name of a group. -/
def isNameChar (first : Bool) (c : Char) : Bool :=
  c == '_' || Unicode.alphabetic.contains c.toNat ||
    (!first && (Unicode.numeric.contains c.toNat || ".[]".toList.contains c))

/-- The name of a group, from behind the opening angle bracket to behind the closing one. -/
def readName (cs : List Char) : Option (List Char × List Char) :=
  let name := cs.takeWhile (· != '>')
  match name, cs.dropWhile (· != '>') with
  | first :: others, '>' :: rest =>
    if isNameChar true first && others.all (isNameChar false) then some (name, rest) else none
  | _, _ => none

/-- How a group starts. -/
inductive GroupStart where
  /-- A list of modes that stands alone and applies from here on. -/
  | modes (modes : Modes)
  /-- A group, with the modes that apply inside and its name if it has one. -/
  | group (modes : Modes) (name : Option (List Char))

/-- The start of a group, from behind its parenthesis. Conditions on what stands before or after are
refused, and so is an empty list of modes. -/
def readGroupStart (modes : Modes) (cs : List Char) : Option (GroupStart × List Char) :=
  match skip modes.spaced cs with
  | '?' :: '=' :: _ | '?' :: '!' :: _ | '?' :: '<' :: '=' :: _ | '?' :: '<' :: '!' :: _ => none
  | '?' :: 'P' :: '<' :: rest | '?' :: '<' :: rest => do
    let (name, rest) ← readName rest
    some (.group modes (some name), rest)
  | '?' :: rest => do
    let (inner, isEmpty, last, rest) ← modes.read rest
    if last = ':' then some (.group inner none, rest)
    else if isEmpty then none
    else some (.modes inner, rest)
  | rest => some (.group modes none, rest)

/-- A group that is still open. -/
structure OpenGroup where
  /-- The modes that apply now. -/
  modes : Modes
  /-- The finished alternatives, last first. -/
  branches : List Piece := []
  /-- The present sequence, last first. -/
  items : List Item := []

namespace OpenGroup

/-- Adds an expression to the present sequence. -/
def push (o : OpenGroup) (p : Piece) : OpenGroup := { o with items := some p :: o.items }

/-- Starts the next alternative. -/
def bar (o : OpenGroup) : OpenGroup :=
  { o with branches := sequence o.items :: o.branches, items := [] }

/-- Repeats the last element of the present sequence. -/
def repeatLast (o : OpenGroup) (least : Nat) (most : Option Nat) : Option OpenGroup :=
  match o.items with
  | some p :: items =>
    some { o with items := some ⟨repeated p.expr least most, p.height + 1⟩ :: items }
  | _ => none

/-- Everything read in the group. -/
def value (o : OpenGroup) : Piece := alternation (sequence o.items) o.branches

end OpenGroup

/-- Drops the question mark that makes a repetition lazy, which does not show. -/
def dropLazy : List Char → List Char
  | '?' :: rest => rest
  | cs => cs

/-- Reads an open group up to its closing parenthesis or the end of the text, neither of which is
consumed; `names` are the group names in use. Every round reads at least one character, so the
number of characters is fuel enough. -/
def readGroup : (fuel : Nat) → (names : List (List Char)) → OpenGroup → List Char →
    Option (Piece × List (List Char) × List Char)
  | 0, _, _, _ => none
  | fuel + 1, names, o, cs =>
    match skip o.modes.spaced cs with
    | [] => some (o.value, names, [])
    | ')' :: rest => some (o.value, names, ')' :: rest)
    | '(' :: rest => do
      match ← readGroupStart o.modes rest with
      | (.modes modes, rest) =>
        readGroup fuel names { o with modes, items := none :: o.items } rest
      | (.group modes name, rest) =>
        let names ← match name with
          | some name => if name ∈ names then none else some (name :: names)
          | none => some names
        match ← readGroup fuel names { modes } rest with
        | (p, names, ')' :: rest) => readGroup fuel names (o.push ⟨p.expr, p.height + 1⟩) rest
        | _ => none
    | '|' :: rest => readGroup fuel names o.bar rest
    | '[' :: rest => do
      let (p, rest) ← readBracket o.modes rest
      readGroup fuel names (o.push ⟨.step p.set, p.height⟩) rest
    | '?' :: rest => do readGroup fuel names (← o.repeatLast 0 (some 1)) (dropLazy rest)
    | '*' :: rest => do readGroup fuel names (← o.repeatLast 0 none) (dropLazy rest)
    | '+' :: rest => do readGroup fuel names (← o.repeatLast 1 none) (dropLazy rest)
    | '{' :: rest => do
      let ((least, most), rest) ← readBounds o.modes.spaced rest
      readGroup fuel names (← o.repeatLast least most) (dropLazy (skip o.modes.spaced rest))
    | '.' :: rest => do readGroup fuel names (o.push ⟨.step (← dot o.modes), 0⟩) rest
    | '^' :: rest =>
      let a := if o.modes.multiLine then .lineStart (lineEnd o.modes) else .textStart
      readGroup fuel names (o.push ⟨.guard a, 0⟩) rest
    | '$' :: rest =>
      let a := if o.modes.multiLine then .lineEnd (lineEnd o.modes) else .textEnd
      readGroup fuel names (o.push ⟨.guard a, 0⟩) rest
    | '\\' :: rest => do
      let (a, rest) ← readEscape o.modes rest
      readGroup fuel names (o.push ⟨← a.expr? o.modes, 0⟩) rest
    | c :: rest => do
      readGroup fuel names (o.push ⟨← (Atom.char c false).expr? o.modes, 0⟩) rest

/-- The greatest number of levels an expression may have. -/
def heightLimit : Nat := 250

/-- Reads an expression. -/
def read (cs : List Char) : Option (Expr CharSet Assertion) :=
  match readGroup (cs.length + 1) [] { modes := {} } cs with
  | some (p, _, []) => if p.height ≤ heightLimit then some p.expr else none
  | _ => none

end SecretScan.Regex.Notation
