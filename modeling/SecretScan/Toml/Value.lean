import SecretScan.Number.Binary64

/-!
# TOML values
-/

namespace SecretScan

/-- A TOML value. -/
inductive Toml where
  /-- A text. -/
  | string (s : String)
  /-- A whole number. -/
  | integer (n : Int)
  /-- Any other number; infinities and what is not a number can be written. -/
  | float (x : Binary64)
  /-- A truth value. -/
  | bool (b : Bool)
  /-- A date, a time of day or both, in its usual form. -/
  | datetime (text : String)
  /-- Values in order. -/
  | array (items : List Toml)
  /-- Values under keys, in the order in which the keys are met. -/
  | table (entries : List (String × Toml))
deriving Inhabited

end SecretScan
