import SecretScan.CharSet

/-!
# Modes of reading

How an expression is read depends on modes that the expression itself switches, by a list of letters
such as `i-u`: those before the hyphen are switched on, those after it off.
-/

namespace SecretScan.Regex

/-- The switches. -/
inductive Mode where
  /-- `i`: letters stand for both cases. -/
  | ignoreCase
  /-- `m`: `^` and `$` also match at line ends. -/
  | multiLine
  /-- `s`: the dot also matches line ends. -/
  | dotAll
  /-- `U`: repetitions prefer few rounds; which match is preferred does not show. -/
  | swapGreed
  /-- `u`: characters of all scripts count. -/
  | unicode
  /-- `R`: lines end with a pair of carriage return and line feed. -/
  | crlf
  /-- `x`: blanks and comments in the expression do not count. -/
  | spaced
deriving DecidableEq

/-- The switch that a letter names. -/
def Mode.ofChar? : Char → Option Mode
  | 'i' => some .ignoreCase
  | 'm' => some .multiLine
  | 's' => some .dotAll
  | 'U' => some .swapGreed
  | 'u' => some .unicode
  | 'R' => some .crlf
  | 'x' => some .spaced
  | _ => none

/-- The state of all switches that have an effect. -/
structure Modes where
  /-- Letters stand for both cases. -/
  ignoreCase : Bool := false
  /-- `^` and `$` also match at line ends. -/
  multiLine : Bool := false
  /-- The dot also matches line ends. -/
  dotAll : Bool := false
  /-- Characters of all scripts count. -/
  unicode : Bool := true
  /-- Lines end with a pair of carriage return and line feed. -/
  crlf : Bool := false
  /-- Blanks and comments in the expression do not count. -/
  spaced : Bool := false
deriving DecidableEq

namespace Modes

/-- Turns one switch. -/
def set (modes : Modes) (on : Bool) : Mode → Modes
  | .ignoreCase => { modes with ignoreCase := on }
  | .multiLine => { modes with multiLine := on }
  | .dotAll => { modes with dotAll := on }
  | .swapGreed => modes
  | .unicode => { modes with unicode := on }
  | .crlf => { modes with crlf := on }
  | .spaced => { modes with spaced := on }

/-- Which characters equal each other up to case. -/
def caseRule (modes : Modes) : CaseRule := if modes.unicode then .unicode else .ascii

/-- A set, closed under case if case is ignored. -/
def foldCase (modes : Modes) (s : CharSet) : CharSet :=
  if modes.ignoreCase then .fold modes.caseRule s else s

/-- A set or its complement. Where only ASCII counts a complement would have to match half a
character, so there is none. -/
def negateIf (modes : Modes) (negated : Bool) (s : CharSet) : Option CharSet :=
  if !negated then some s else if modes.unicode then some (.compl s) else none

/-- The switches turned by a list of letters, up to the parenthesis or colon that ends it, which is
returned with what follows it, and whether the list is empty. Every letter and the hyphen may stand
once, the hyphen not last. -/
def read (modes : Modes) (cs : List Char) : Option (Modes × Bool × Char × List Char) :=
  go modes true [] false true cs
where
  /-- `on` says whether letters switch on, `seen` lists the letters met, `dangling` says that a
  hyphen was met last, and `isEmpty` that nothing was met. -/
  go (modes : Modes) (on : Bool) (seen : List Mode) (dangling isEmpty : Bool) :
      List Char → Option (Modes × Bool × Char × List Char)
    | [] => none
    | c :: rest =>
      if c = ')' ∨ c = ':' then
        if dangling then none else some (modes, isEmpty, c, rest)
      else if c = '-' then
        if on then go modes false seen true false rest else none
      else
        match Mode.ofChar? c with
        | none => none
        | some mode =>
          if mode ∈ seen then none else go (modes.set on mode) on (mode :: seen) false false rest

end Modes

end SecretScan.Regex
