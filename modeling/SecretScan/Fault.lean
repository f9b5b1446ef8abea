import SecretScan.Alphabet
import SecretScan.Number.Decimal
import SecretScan.Regex

/-!
# Faults of options

Everything that can be wrong with options, from their text to the last pattern. Judging a literal
never fails; a fault shows before the first one is judged.
-/

namespace SecretScan

/-- Why a JSON document cannot be read as a value of a kind. -/
inductive JsonFault where
  /-- The text is not well formed. -/
  | malformed
  /-- A value is not of the kind asked for. -/
  | mismatch
  /-- The text ends too early. -/
  | unfinished
deriving DecidableEq

/-- The options that hold matchers. -/
inductive MatcherField where
  /-- Matchers on the text of a literal. -/
  | ignoreContent
  /-- Matchers on the name a literal is assigned to. -/
  | ignoreIdentifiers
deriving DecidableEq

/-- The name of the option. -/
def MatcherField.name : MatcherField → String
  | .ignoreContent => "ignoreContent"
  | .ignoreIdentifiers => "ignoreIdentifiers"

/-- What is wrong with options. -/
inductive Fault where
  /-- A matcher is no usable regular expression. -/
  | invalidMatcher (field : MatcherField) (cause : RegexFault)
  /-- A pattern's regular expression is not usable. -/
  | invalidPattern (label : String) (cause : RegexFault)
  /-- A label is in use already. -/
  | duplicateLabel (label : String)
  /-- A threshold is negative, infinite or no number. -/
  | invalidThreshold (alphabet : Alphabet) (value : Binary64)
  /-- The JSON text of the options is not usable. -/
  | json (cause : JsonFault)
  /-- The TOML text of the options is not usable. -/
  | toml
deriving DecidableEq

namespace Fault

/-- The message of a fault. Some faults come from reading a text in a notation; `detail` is what the
reader of that notation has to say. -/
def message (detail : String) : Fault → String
  | .invalidMatcher field _ => s!"invalid matcher in '{field.name}': {detail}"
  | .invalidPattern label _ => s!"invalid regex in pattern '{label}': {detail}"
  | .duplicateLabel label => s!"pattern label '{label}' is already registered"
  | .invalidThreshold alphabet value =>
    s!"invalid {alphabet.name} entropy threshold {value.text}: " ++
      "expected a finite, non-negative number"
  | .json _ => s!"failed to parse JSON options: {detail}"
  | .toml => s!"failed to parse TOML options: {detail}"

/-- The label of the pattern at fault, if the fault is one of a pattern. -/
def label? : Fault → Option String
  | .invalidPattern label _ | .duplicateLabel label => some label
  | _ => none

/-- Whether the fault comes from reading a text in a notation. -/
def hasDetail : Fault → Bool
  | .duplicateLabel _ | .invalidThreshold _ _ => false
  | _ => true

end Fault

end SecretScan
