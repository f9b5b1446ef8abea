/-!
# Candidates

A string literal that is to be judged, with what the host found around it.
-/

namespace SecretScan

/-- A string literal and its surroundings. -/
structure Candidate where
  /-- The text of the literal. -/
  text : String
  /-- The name of the variable, property or key that the literal is assigned to. An empty name is a
  name. -/
  identifier : Option String := none
  /-- Whether the literal says where a module is imported from. -/
  isModule : Bool := false
deriving DecidableEq

namespace Candidate

/-- A literal without surroundings. -/
def ofText (text : String) : Candidate := { text }

/-- The same literal, assigned to a name. -/
def withIdentifier (c : Candidate) (name : String) : Candidate := { c with identifier := some name }

/-- The same literal, marked as the source of an import or as none. -/
def withModule (c : Candidate) (isModule : Bool) : Candidate := { c with isModule }

/-- The number of characters of the literal. -/
def length (c : Candidate) : Nat := c.text.length

end Candidate

end SecretScan
