import SecretScan.LabelMap
import SecretScan.Matcher

/-!
# Options

What a host sets before a session, as it is given: nothing is compiled or checked yet.
-/

namespace SecretScan

/-- Thresholds that replace the default ones. -/
structure ThresholdOverrides where
  /-- For texts of hexadecimal digits. -/
  hex : Option Binary64 := none
  /-- For texts in base64. -/
  base64 : Option Binary64 := none
  /-- For all other texts. -/
  generic : Option Binary64 := none
deriving DecidableEq

/-- The options of a session. -/
structure Options where
  /-- Thresholds that replace the default ones. -/
  thresholds : ThresholdOverrides := {}
  /-- Texts with fewer characters have no score. -/
  minimumLength : Option Nat := none
  /-- A literal whose text matches is skipped. -/
  ignoreContent : OneOrMany MatcherInput := .many []
  /-- A literal that is assigned to a matching name is skipped. -/
  ignoreIdentifiers : OneOrMany MatcherInput := .many []
  /-- A literal that says where a module is imported from is skipped. -/
  ignoreModules : Bool := false
  /-- Further patterns. -/
  additional : LabelMap MatcherInput := {}

end SecretScan
