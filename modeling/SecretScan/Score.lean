import SecretScan.Alphabet
import SecretScan.Entropy

/-!
# Scores and thresholds

A text that is long enough has a score: its entropy and its alphabet. It exceeds a set of thresholds
when its entropy is positive and at least the threshold of its alphabet.
-/

namespace SecretScan

/-- The least entropy that counts as high, for each alphabet. -/
structure Thresholds where
  /-- For texts of hexadecimal digits. -/
  hex : Binary64
  /-- For texts in base64. -/
  base64 : Binary64
  /-- For all other texts. -/
  generic : Binary64
deriving DecidableEq, Inhabited

namespace Thresholds

/-- The threshold of an alphabet. -/
def of (t : Thresholds) : Alphabet → Binary64
  | .hex => t.hex
  | .base64 => t.base64
  | .generic => t.generic

/-- Prose, names and lists of classes stay below these; random texts of forty characters do not. -/
def default : Thresholds where
  hex := .ofDecimal false 3 0
  base64 := .ofDecimal false 43 (-1)
  generic := .ofDecimal false 45 (-1)

end Thresholds

/-- A number of bits a character: that of a text, or one that a host states. -/
inductive Bits where
  /-- The entropy of a text. -/
  | measured (e : Entropy)
  /-- A number given from outside. -/
  | stated (x : Binary64)

namespace Bits

/-- Whether the number is greater than zero. -/
def isPositive : Bits → Bool
  | .measured e => e.isPositive
  | .stated x => x.isPositive

/-- Whether the number is at least a threshold. -/
def reaches : Bits → Binary64 → Bool
  | .measured e, t => e.reaches t
  | .stated x, t => t.le x

end Bits

/-- An entropy with the alphabet that decides what it counts for. -/
structure Score where
  /-- The bits a character. -/
  bits : Bits
  /-- The alphabet of the text. -/
  alphabet : Alphabet

namespace Score

/-- The number of characters below which a text has no score, unless another is configured. -/
def defaultMinimumLength : Nat := 20

/-- The score of a text, if it has at least `minimumLength` characters. -/
def ofText (text : String) (minimumLength : Nat) : Option Score :=
  let cs := text.toList
  if cs.length < minimumLength then none
  else some ⟨.measured (.ofText cs), .classify cs⟩

/-- Whether a score exceeds thresholds. No entropy at all never does, whatever the threshold. -/
def exceeds (s : Score) (t : Thresholds) : Bool :=
  s.bits.isPositive && s.bits.reaches (t.of s.alphabet)

end Score

end SecretScan
