import SecretScan.Finding
import SecretScan.Suppression

/-!
# Verdicts

What is found in a literal. A skipped literal has no findings; of any other, high entropy and the
first matching pattern are found independently of each other and reported in this order.
-/

namespace SecretScan.Configuration

/-- Whether the entropy of a text is high. -/
def isHighEntropy (config : Configuration) (text : String) : Bool :=
  (Score.ofText text config.minimumLength).any fun score => score.exceeds config.thresholds

/-- Adds the findings of a literal to those already collected. -/
def evaluateInto (config : Configuration) (c : Candidate) (findings : List Finding) : List Finding :=
  match Suppression.check config c with
  | some _ => findings
  | none =>
    let findings := if config.isHighEntropy c.text then findings ++ [.highEntropy] else findings
    match (config.registry.cursor c.text).next.1 with
    | some p => findings ++ [.patternMatch p.label]
    | none => findings

/-- The findings of a literal. -/
def evaluate (config : Configuration) (c : Candidate) : List Finding := config.evaluateInto c []

end SecretScan.Configuration
