import SecretScan.Pattern.Basic
import Std.Data.HashMap

/-!
# The keyword index

Which patterns are worth running on a text is decided by their keywords. The index turns the list of
patterns round: it lists each keyword once, in small letters and in the order in which keywords are
met first, beside it the positions of the patterns that have it, and apart from these the positions
of the patterns without keywords.
-/

namespace SecretScan

/-- A text as a list of characters, capital ASCII letters made small. -/
def lowered (s : String) : List Char := s.toList.map Char.toLower

/-- Whether one text stands anywhere in another. -/
def occursIn (part : List Char) : List Char → Bool
  | [] => part.isEmpty
  | c :: cs => part.isPrefixOf (c :: cs) || occursIn part cs

/-- The keywords of a list of patterns, turned round. -/
structure KeywordIndex where
  /-- The keywords, each once. -/
  keywords : List (List Char) := []
  /-- For each keyword, in the same order, the positions of the patterns that have it. -/
  holders : List (List Nat) := []
  /-- The positions of the patterns without keywords. -/
  unkeyed : List Nat := []

namespace KeywordIndex

/-- An index that is being built. -/
structure Draft where
  /-- The index so far. -/
  index : KeywordIndex := {}
  /-- The place of each keyword among the keywords so far. -/
  places : @Std.HashMap (List Char) Nat _ (@instHashableList _ instHashableChar) := {}

/-- Enters the position of a pattern under a keyword. -/
def Draft.enter (position : Nat) (d : Draft) (keyword : List Char) : Draft :=
  match d.places[keyword]? with
  | some place =>
    { d with index.holders := d.index.holders.modify place fun held => held ++ [position] }
  | none =>
    { index := { d.index with
        keywords := d.index.keywords ++ [keyword]
        holders := d.index.holders ++ [[position]] }
      places := d.places.insert keyword d.index.keywords.length }

/-- Enters the pattern at a position. -/
def Draft.add (d : Draft) (position : Nat) (p : Pattern) : Draft :=
  if p.keywords.isEmpty then { d with index.unkeyed := d.index.unkeyed ++ [position] }
  else (p.keywords.map lowered).foldl (Draft.enter position) d

/-- The index of a list of patterns. -/
def ofPatterns (patterns : List Pattern) : KeywordIndex :=
  (patterns.zipIdx.foldl (fun d e => d.add e.2 e.1) ({} : Draft)).index

/-- The places of the keywords that stand anywhere in a text. -/
def hits (index : KeywordIndex) (text : List Char) : List Nat :=
  (index.keywords.zipIdx.filter fun e => occursIn e.1 text).map Prod.snd

/-- Sets the truth values at some positions. -/
def mark (positions : List Nat) (flags : List Bool) : List Bool :=
  positions.foldl (fun flags i => flags.set i true) flags

/-- The positions below `n` of the patterns to run on a text, one truth value for each. Where no
pattern has a keyword, all are run. -/
def selection (index : KeywordIndex) (n : Nat) (text : String) : List Bool :=
  if index.keywords.isEmpty then List.replicate n true
  else
    let keyed := (index.hits (lowered text)).flatMap fun place => index.holders[place]?.getD []
    mark (index.unkeyed ++ keyed) (List.replicate n false)

end KeywordIndex

end SecretScan
