/-!
# Groups of patterns
-/

namespace SecretScan

/-- What kind of service a pattern's secrets belong to. -/
inductive Group where
  /-- Sign-on and service accounts of third parties. -/
  | auth
  /-- Keys of cloud platforms. -/
  | cloud
  /-- Patterns that the host adds. -/
  | custom
  /-- Values that stand behind a telling word. -/
  | generic
  /-- Headers of private keys. -/
  | keys
  /-- Tokens and addresses of chat platforms. -/
  | messaging
  /-- Tokens of version control platforms. -/
  | vcs
deriving DecidableEq, Inhabited

namespace Group

/-- The short name. -/
def name : Group → String
  | .auth => "auth"
  | .cloud => "cloud"
  | .custom => "custom"
  | .generic => "generic"
  | .keys => "keys"
  | .messaging => "messaging"
  | .vcs => "vcs"

/-- The name in full. -/
def title : Group → String
  | .auth => "Authentication Providers"
  | .cloud => "Cloud Providers"
  | .custom => "Custom Patterns"
  | .generic => "Generic Secrets"
  | .keys => "Private Keys"
  | .messaging => "Messaging Platforms"
  | .vcs => "Version Control Systems"

/-- All groups. -/
def all : List Group := [.auth, .cloud, .custom, .generic, .keys, .messaging, .vcs]

/-- The group of a short name. -/
def ofName? (s : String) : Option Group := all.find? fun g => g.name == s

end Group

end SecretScan
