import SecretScan.Json.Writer

/-!
# Findings

What is reported of a literal, as text and as JSON.
-/

namespace SecretScan

/-- Something that is reported of a literal. -/
inductive Finding where
  /-- The literal looks random. -/
  | highEntropy
  /-- The literal holds a secret of a known kind. -/
  | patternMatch (label : String)
deriving DecidableEq

namespace Finding

/-- The label of the pattern, if the finding is one of a pattern. -/
def label? : Finding → Option String
  | .highEntropy => none
  | .patternMatch label => some label

/-- Whether the finding is one of entropy. -/
def isHighEntropy : Finding → Bool
  | .highEntropy => true
  | .patternMatch _ => false

/-- The finding in words. -/
def message : Finding → String
  | .highEntropy => "high-entropy string"
  | .patternMatch label => s!"matches '{label}'"

/-- The members of the JSON object of a finding. -/
def members : Finding → List (String × String)
  | .highEntropy => [("kind", "high_entropy")]
  | .patternMatch label => [("kind", "pattern_match"), ("label", label)]

/-- The JSON text of a finding. -/
def json (f : Finding) : String := Json.objectText (f.members.map fun m => (m.1, Json.quote m.2))

/-- The JSON text of a list of findings. -/
def jsonList (fs : List Finding) : String := Json.arrayText (fs.map json)

end Finding

end SecretScan
