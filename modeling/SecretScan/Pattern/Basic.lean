import SecretScan.Matcher
import SecretScan.Pattern.Group

/-!
# Patterns

A pattern describes one kind of secret: a label to report, a regular expression and keywords. A
`Definition` is a pattern as it stands in a table, before its expression is compiled.
-/

namespace SecretScan

/-- A pattern whose regular expression is still a text. -/
structure Definition where
  /-- The label to report. -/
  label : String
  /-- The kind of service. -/
  group : Group
  /-- What the pattern finds, in a few words. -/
  description : String
  /-- The text of the regular expression. -/
  regex : String
  /-- Texts of which every match holds one, up to the case of ASCII letters. -/
  keywords : List String

/-- A pattern that can be run. -/
structure Pattern where
  /-- The label to report. -/
  label : String
  /-- The kind of service. -/
  group : Group
  /-- What the pattern finds, in a few words. -/
  description : String
  /-- The regular expression. -/
  regex : Regex
  /-- The pattern is run only on texts that hold one of these, up to the case of ASCII letters;
  without keywords it is always run. -/
  keywords : List String

namespace Pattern

/-- Compiles a pattern of a table. -/
def ofDefinition (d : Definition) : Except Fault Pattern := do
  let regex ← (Regex.compile d.regex).mapError (Fault.invalidPattern d.label)
  return { label := d.label, group := d.group, description := d.description, regex,
           keywords := d.keywords }

/-- A pattern that a host adds. It is described by its label and has no keywords. -/
def custom (label : String) (input : MatcherInput) : Except Fault Pattern := do
  let regex ← input.compile.mapError (Fault.invalidPattern label)
  return { label, group := .custom, description := label, regex, keywords := [] }

end Pattern

end SecretScan
