import SecretScan.Regex.Notation.Escape

/-!
# Bracketed sets

A set of characters in brackets: characters, ranges, escapes, named ASCII classes and further
brackets stand side by side for their union, and the operators `&&`, `--` and `~~`, all of one rank
and read from the left, join such unions. With each set goes its height, the number of brackets,
unions and operators on the longest way down.
-/

namespace SecretScan.Regex.Notation

/-- A part of a bracketed set that has been read. -/
structure SetPiece where
  /-- The characters. -/
  set : CharSet
  /-- How deeply it is nested. -/
  height : Nat

/-- The operators between unions. -/
inductive SetOp where
  /-- `&&` -/
  | inter
  /-- `--` -/
  | diff
  /-- `~~` -/
  | symmDiff

/-- The set that an operator makes of two. -/
def SetOp.apply : SetOp → CharSet → CharSet → CharSet
  | .inter => .inter
  | .diff => .diff
  | .symmDiff => .symmDiff

/-- The pieces, last first, as one union. -/
def unionOf (pieces : List SetPiece) : SetPiece :=
  match pieces with
  | [] => ⟨.empty, 0⟩
  | [p] => p
  | ps => ⟨.unions (ps.reverse.map SetPiece.set), (ps.map SetPiece.height).foldl max 0 + 1⟩

/-- A bracket that is still open: the operator met last with what stands to its left, and the pieces
of the present union, last first. -/
structure OpenSet where
  /-- What stands left of the operator met last. -/
  left : Option (SetPiece × SetOp) := none
  /-- The pieces since then. -/
  pieces : List SetPiece := []

namespace OpenSet

/-- The same bracket with one more piece. -/
def push (o : OpenSet) (p : SetPiece) : OpenSet := { o with pieces := p :: o.pieces }

/-- Everything read in the bracket so far. Both sides of an operator are closed under case first. -/
def value (modes : Modes) (o : OpenSet) : SetPiece :=
  let right := unionOf o.pieces
  match o.left with
  | none => right
  | some (left, op) =>
    ⟨op.apply (modes.foldCase left.set) (modes.foldCase right.set),
      max left.height right.height + 1⟩

/-- The same bracket after an operator. -/
def operator (modes : Modes) (o : OpenSet) (op : SetOp) : OpenSet :=
  { left := some (o.value modes, op), pieces := [] }

/-- The set of a bracket that has been closed. -/
def close (modes : Modes) (negated : Bool) (o : OpenSet) : Option SetPiece :=
  let inner := o.value modes
  (modes.negateIf negated (modes.foldCase inner.set)).map fun s => ⟨s, inner.height + 1⟩

end OpenSet

/-! ### What stands in a bracket -/

/-- The ASCII classes that have names. -/
def asciiClass? (name : List Char) : Option CharSet :=
  match String.ofList name with
  | "alnum" => some (.union .asciiLetter .asciiDigit)
  | "alpha" => some .asciiLetter
  | "ascii" => some (.range 0 0x7f)
  | "blank" => some (.union (.range 9 9) (.range 32 32))
  | "cntrl" => some (.union (.range 0 0x1f) (.range 0x7f 0x7f))
  | "digit" => some .asciiDigit
  | "graph" => some (.range 0x21 0x7e)
  | "lower" => some (.range 97 122)
  | "print" => some (.range 0x20 0x7e)
  | "punct" =>
    some (.unions [.range 0x21 0x2f, .range 0x3a 0x40, .range 0x5b 0x60, .range 0x7b 0x7e])
  | "space" => some .asciiSpace
  | "upper" => some (.range 65 90)
  | "word" => some .asciiWord
  | "xdigit" => some (.unions [.asciiDigit, .range 65 70, .range 97 102])
  | _ => none

/-- A named class, from behind its bracket: `:name:]` or `:^name:]`. Anything else is no named class
but the start of a further bracket. The result is nested: whether it is a named class, and then its
set if it can be complemented. -/
def readNamed (modes : Modes) : List Char → Option (Option SetPiece × List Char)
  | ':' :: rest =>
    let (negated, rest) := match rest with
      | '^' :: rest => (true, rest)
      | rest => (false, rest)
    match rest.dropWhile (· != ':') with
    | ':' :: ']' :: after =>
      (asciiClass? (rest.takeWhile (· != ':'))).map fun s =>
        ((modes.negateIf negated (modes.foldCase s)).map (⟨·, 0⟩), after)
    | _ => none
  | _ => none

/-- One atom of a bracket: an escape, or a character that stands for itself. -/
def readMember (modes : Modes) : List Char → Option (Atom × List Char)
  | [] => none
  | '\\' :: rest => readEscape modes rest
  | c :: rest => some (.char c false, rest)

/-- The character of an atom that stands for itself. Where only ASCII counts it has to be ASCII. -/
def Atom.member? (modes : Modes) : Atom → Option Char
  | .char c _ => if modes.unicode || c.toNat < 128 then some c else none
  | _ => none

/-- The set of an atom that stands alone. -/
def Atom.members? (modes : Modes) (a : Atom) : Option CharSet :=
  match a with
  | .set s => some s
  | a => (a.member? modes).map .single

/-- The character that decides whether a hyphen stands for itself. Where blanks do not count they
are passed over, and so is one comment sign, though not the comment. -/
def afterHyphen (spaced : Bool) (cs : List Char) : Option Char :=
  if !spaced then cs.head?
  else
    match cs.filter (!isBlank ·) with
    | '#' :: c :: _ => some c
    | '#' :: [] => cs.head?
    | c :: _ => some c
    | [] => cs.head?

/-- A range or a single atom. A hyphen before a closing bracket or another hyphen makes no range. -/
def readRange (modes : Modes) (cs : List Char) : Option (SetPiece × List Char) := do
  let (first, rest) ← readMember modes cs
  match skip modes.spaced rest with
  | [] => none
  | '-' :: after =>
    let mark := afterHyphen modes.spaced after
    if mark == some ']' || mark == some '-' then
      let s ← first.members? modes
      some (⟨s, 0⟩, '-' :: after)
    else
      let (last, rest) ← readMember modes (skip modes.spaced after)
      let lo ← first.member? modes
      let hi ← last.member? modes
      if lo ≤ hi then some (⟨.range lo.toNat hi.toNat, 0⟩, rest) else none
  | rest =>
    let s ← first.members? modes
    some (⟨s, 0⟩, rest)

/-- Leading hyphens, each of which stands for itself. -/
def openHyphens (modes : Modes) : (fuel : Nat) → OpenSet → List Char → OpenSet × List Char
  | fuel + 1, o, '-' :: rest =>
    openHyphens modes fuel (o.push ⟨.single '-', 0⟩) (skip modes.spaced rest)
  | _, o, cs => (o, cs)

/-- The start of a bracket, from behind the bracket itself: a caret complements it, leading hyphens
and a closing bracket in the first place stand for themselves. -/
def openSet (modes : Modes) (cs : List Char) : Bool × OpenSet × List Char :=
  let cs := skip modes.spaced cs
  let (negated, cs) := match cs with
    | '^' :: rest => (true, skip modes.spaced rest)
    | cs => (false, cs)
  let (o, rest) := openHyphens modes cs.length {} cs
  match o.pieces, rest with
  | [], ']' :: rest => (negated, o.push ⟨.single ']', 0⟩, skip modes.spaced rest)
  | _, rest => (negated, o, rest)

/-- Reads an open bracket to its end, `negated` telling whether it is complemented. Every round
reads at least one character, so the number of characters is fuel enough. -/
def readSet (modes : Modes) :
    (fuel : Nat) → (negated : Bool) → OpenSet → List Char → Option (SetPiece × List Char)
  | 0, _, _, _ => none
  | fuel + 1, negated, o, cs =>
    match skip modes.spaced cs with
    | [] => none
    | '[' :: rest =>
      match readNamed modes rest with
      | some (named, rest) => do readSet modes fuel negated (o.push (← named)) rest
      | none => do
        let (innerNegated, inner, rest) := openSet modes rest
        let (piece, rest) ← readSet modes fuel innerNegated inner rest
        readSet modes fuel negated (o.push piece) rest
    | ']' :: rest => (o.close modes negated).map (·, rest)
    | '&' :: '&' :: rest => readSet modes fuel negated (o.operator modes .inter) rest
    | '-' :: '-' :: rest => readSet modes fuel negated (o.operator modes .diff) rest
    | '~' :: '~' :: rest => readSet modes fuel negated (o.operator modes .symmDiff) rest
    | cs => do
      let (piece, rest) ← readRange modes cs
      readSet modes fuel negated (o.push piece) rest

/-- A bracketed set, from behind its opening bracket. -/
def readBracket (modes : Modes) (cs : List Char) : Option (SetPiece × List Char) :=
  let (negated, o, rest) := openSet modes cs
  readSet modes (rest.length + 1) negated o rest

end SecretScan.Regex.Notation
