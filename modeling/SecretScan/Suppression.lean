import SecretScan.Candidate
import SecretScan.Configuration

/-!
# Suppression

Why a literal is not looked at.
-/

namespace SecretScan

/-- Why a literal is skipped. -/
inductive Suppression where
  /-- It is assigned to a name that a matcher matches. -/
  | ignoredIdentifier
  /-- Its text is one that a matcher matches. -/
  | ignoredContent
  /-- It says where a module is imported from. -/
  | moduleSpecifier
deriving DecidableEq

namespace Suppression

/-- The reason in words. -/
def message : Suppression → String
  | .ignoredIdentifier => "ignored identifier"
  | .ignoredContent => "ignored content"
  | .moduleSpecifier => "module specifier"

/-- The first reason to skip a literal: its name, its text, its being a module. -/
def check (config : Configuration) (c : Candidate) : Option Suppression :=
  if c.identifier.any config.ignoreIdentifiers.isMatch then some .ignoredIdentifier
  else if config.ignoreContent.isMatch c.text then some .ignoredContent
  else if c.isModule && config.ignoreModules then some .moduleSpecifier
  else none

end Suppression

end SecretScan
