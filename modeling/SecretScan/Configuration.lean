import SecretScan.Options
import SecretScan.Pattern.Registry
import SecretScan.Score

/-!
# Configurations

Options that have been checked and compiled, ready for any number of literals.
-/

namespace SecretScan

/-- The checked and compiled options of a session. -/
structure Configuration where
  /-- The least entropies that count as high. -/
  thresholds : Thresholds
  /-- Texts with fewer characters have no score. -/
  minimumLength : Nat
  /-- A literal whose text matches is skipped. -/
  ignoreContent : MatcherSet
  /-- A literal that is assigned to a matching name is skipped. -/
  ignoreIdentifiers : MatcherSet
  /-- A literal that says where a module is imported from is skipped. -/
  ignoreModules : Bool
  /-- The built-in patterns followed by the added ones. -/
  registry : Registry

/-- The threshold of an alphabet: the one that replaces the default, if it is finite and not
negative. -/
def resolveThreshold (alphabet : Alphabet) (given : Option Binary64) : Except Fault Binary64 :=
  match given with
  | none => .ok (Thresholds.default.of alphabet)
  | some value =>
    if value.isFinite && (Binary64.finite false 0).le value then .ok value
    else .error (.invalidThreshold alphabet value)

/-- All thresholds, checked in the order of the alphabets. -/
def ThresholdOverrides.resolve (t : ThresholdOverrides) : Except Fault Thresholds := do
  let hex ← resolveThreshold .hex t.hex
  let base64 ← resolveThreshold .base64 t.base64
  let generic ← resolveThreshold .generic t.generic
  return { hex, base64, generic }

/-- Checks and compiles options. Of several faults the first counts, in the order thresholds, matchers
on texts, matchers on names, patterns. -/
def Options.resolve (o : Options) : Except Fault Configuration := do
  let thresholds ← o.thresholds.resolve
  let ignoreContent ← MatcherSet.compile .ignoreContent o.ignoreContent
  let ignoreIdentifiers ← MatcherSet.compile .ignoreIdentifiers o.ignoreIdentifiers
  let registry ← Registry.withAdditional o.additional.entries
  return { thresholds
           minimumLength := o.minimumLength.getD Score.defaultMinimumLength
           ignoreContent, ignoreIdentifiers
           ignoreModules := o.ignoreModules
           registry }

/-- The configuration of a session without options. -/
def Configuration.builtin : Except Fault Configuration := Options.resolve {}

end SecretScan
