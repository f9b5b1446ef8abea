import SecretScan.Fault

/-!
# Matchers

A host gives a matcher as the text of a regular expression or as one that it has compiled itself, and
a list of matchers as a single one or as several. Resolving forgets both differences.
-/

namespace SecretScan

/-- A matcher as it is given. -/
inductive MatcherInput where
  /-- The text of a regular expression. -/
  | source (text : String)
  /-- A regular expression that the host has compiled. -/
  | compiled (regex : Regex)

namespace MatcherInput

/-- The text of the regular expression. -/
def text : MatcherInput → String
  | .source text => text
  | .compiled regex => regex.source

/-- The regular expression. -/
def compile : MatcherInput → Except RegexFault Regex
  | .source text => Regex.compile text
  | .compiled regex => .ok regex

end MatcherInput

/-- One value, or several in order. -/
inductive OneOrMany (α : Type) where
  /-- A single value that stands alone. -/
  | one (value : α)
  /-- Any number of values. -/
  | many (values : List α)

namespace OneOrMany

variable {α : Type}

/-- The values in order. -/
def toList : OneOrMany α → List α
  | .one value => [value]
  | .many values => values

instance : Inhabited (OneOrMany α) := ⟨.many []⟩

end OneOrMany

/-- The matchers of an option, in order. -/
structure MatcherSet where
  /-- The regular expressions. -/
  matchers : List Regex

namespace MatcherSet

/-- Compiles the matchers of an option in order; the first that is not usable is the fault. -/
def compile (field : MatcherField) (inputs : OneOrMany MatcherInput) : Except Fault MatcherSet :=
  MatcherSet.mk <$> inputs.toList.mapM fun input =>
    input.compile.mapError (Fault.invalidMatcher field)

/-- The first matcher that matches a text. -/
def find? (s : MatcherSet) (text : String) : Option Regex :=
  s.matchers.find? fun r => r.isMatch text

/-- Whether any matcher matches a text. -/
def isMatch (s : MatcherSet) (text : String) : Bool := (s.find? text).isSome

/-- The texts of the matchers, in order. -/
def sources (s : MatcherSet) : List String := s.matchers.map Regex.source

end MatcherSet

end SecretScan
