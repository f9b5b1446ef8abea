import SecretScan.Regex.Chart
import SecretScan.Regex.Notation.Group
import SecretScan.Regex.Size

/-!
# Compiled regular expressions

A regular expression together with the text it was read from. `Regex.compile` reads it or says why
it cannot be used; `Regex.isMatch` asks whether it matches anywhere in a text.
-/

namespace SecretScan

/-- Why a text is no usable regular expression. -/
inductive RegexFault where
  /-- The text is not well formed. -/
  | malformed
  /-- The expression would take too much room. -/
  | tooBig
deriving DecidableEq

/-- A regular expression that can be used. -/
structure Regex where
  /-- The text it was read from. -/
  source : String
  /-- What it matches. -/
  expr : Regex.Expr CharSet Regex.Assertion
deriving DecidableEq

namespace Regex

/-- Reads a regular expression. -/
def compile (source : String) : Except RegexFault Regex :=
  match Notation.read source.toList with
  | none => .error .malformed
  | some expr => if sizeLimit < expr.size then .error .tooBig else .ok ⟨source, expr⟩

/-- Whether the expression matches anywhere in a text. -/
def isMatch (r : Regex) (text : String) : Bool := r.expr.isMatch text.toList.toArray

end Regex

end SecretScan
