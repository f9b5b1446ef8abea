/-!
# Alphabets

The alphabet that the characters of a text are drawn from decides how much entropy counts as high:
sixteen digits can carry four bits a character, sixty-four signs six.
-/

namespace SecretScan

/-- The alphabets that are told apart. -/
inductive Alphabet where
  /-- Hexadecimal digits of either case. -/
  | hex
  /-- The signs of base64, in its plain or its form for addresses. -/
  | base64
  /-- Everything else. -/
  | generic
deriving DecidableEq, Inhabited

namespace Alphabet

/-- Hexadecimal digits. -/
def isHexSign (c : Char) : Bool :=
  c.isDigit || ('a' ≤ c && c ≤ 'f') || ('A' ≤ c && c ≤ 'F')

/-- The signs of plain base64, the filling sign included. -/
def isPlainSign (c : Char) : Bool := c.isAlphanum || c == '+' || c == '/' || c == '='

/-- The signs of base64 for addresses, the filling sign included. -/
def isAddressSign (c : Char) : Bool := c.isAlphanum || c == '-' || c == '_' || c == '='

/-- Whether all bytes are signs, each taken by itself as the character of its number. -/
def areSigns (sign : Char → Bool) (bytes : List UInt8) : Bool :=
  bytes.all fun b => sign (Char.ofUInt8 b)

/-- The alphabet of an encoded text: the first whose signs make up all of it. Where there is nothing
there is no alphabet. -/
def ofBytes (bytes : List UInt8) : Alphabet :=
  if bytes.isEmpty then .generic
  else if areSigns isHexSign bytes then .hex
  else if areSigns isPlainSign bytes || areSigns isAddressSign bytes then .base64
  else .generic

/-- The alphabet of a text, which is looked at byte by byte as it is encoded in UTF-8. -/
def classify (text : List Char) : Alphabet := ofBytes (text.flatMap String.utf8EncodeChar)

/-- The name of an alphabet. -/
def name : Alphabet → String
  | .hex => "hex"
  | .base64 => "base64"
  | .generic => "generic"

/-- All alphabets. -/
def all : List Alphabet := [.hex, .base64, .generic]

/-- The alphabet of a name. -/
def ofName? (s : String) : Option Alphabet := all.find? fun a => a.name == s

end Alphabet

end SecretScan
