/-!
# Counting characters

A text is counted one character at a time. The characters of ASCII have a table of 128 counters;
every other character has an entry, made when it comes for the first time.

Counters are words of 32 bits. The number of all characters stops at the greatest word, but the
counter of a character goes round and starts again at zero. Both matter only to texts of four
thousand million characters.
-/

namespace SecretScan

/-- The first number that a counter does not hold. -/
def counterLimit : Nat := 0x100000000

/-- What has been counted of a text. -/
structure Tally where
  /-- The number of characters. -/
  total : UInt32 := 0
  /-- How often each character of ASCII has come. -/
  ascii : Vector UInt32 128 := .replicate 128 0
  /-- How often each other character has come, in the order in which they came first. -/
  other : List (Char × UInt32) := []

namespace Tally

/-- One more, unless this is the greatest word. -/
def saturatingSucc (n : UInt32) : UInt32 := if n = 0xffffffff then n else n + 1

/-- Adds one to the counter of a character, which is made if it is missing. -/
def bump (c : Char) : List (Char × UInt32) → List (Char × UInt32)
  | [] => [(c, 1)]
  | (d, n) :: rest => if d = c then (d, n + 1) :: rest else (d, n) :: bump c rest

/-- Counts a character. -/
def enter (t : Tally) (c : Char) : Tally :=
  let total := saturatingSucc t.total
  if h : c.toNat < 128 then
    { t with total, ascii := t.ascii.set c.toNat (t.ascii[c.toNat] + 1) }
  else { t with total, other := bump c t.other }

/-- Counts the characters of a text. -/
def ofText (text : List Char) : Tally := text.foldl enter {}

/-- The counter of a character; one that has no counter has not come. -/
def counter (t : Tally) (c : Char) : UInt32 :=
  if h : c.toNat < 128 then t.ascii[c.toNat] else (t.other.lookup c).getD 0

/-- All counters, those of ASCII in the order of the characters. -/
def counters (t : Tally) : List UInt32 := t.ascii.toList ++ t.other.map Prod.snd

end Tally

end SecretScan
