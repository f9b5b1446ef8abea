import SecretScan.Unicode.Word
import SecretScan.CharSet

/-!
# Regular expressions

The expressions are kept apart from what they are made of: an expression steps over one character at
a time by a letter of a type `κ`, and asks for a condition between two characters by a letter of a
type `α`. In a regular expression as it is read the letters are sets of characters and assertions;
laid over a text they are sets of positions (`SecretScan.Regex.Chart`).

There are no captures and no preferences: only whether a text is matched is ever asked.
-/

namespace SecretScan.Regex

/-- A regular expression over steps `κ` and conditions `α`. -/
inductive Expr (κ α : Type) where
  /-- Matches the empty text. -/
  | empty
  /-- Matches one character. -/
  | step (k : κ)
  /-- Matches the empty text where a condition holds. -/
  | guard (a : α)
  /-- Matches one expression, then the other. -/
  | cat (e f : Expr κ α)
  /-- Matches either expression. -/
  | alt (e f : Expr κ α)
  /-- Matches an expression at least `least` and, where a bound is given, at most `most` times. -/
  | times (e : Expr κ α) (least : Nat) (most : Option Nat)
deriving DecidableEq

/-- The same expression over other letters. -/
def Expr.map {κ κ' α α' : Type} (onStep : κ → κ') (onGuard : α → α') : Expr κ α → Expr κ' α'
  | .empty => .empty
  | .step k => .step (onStep k)
  | .guard a => .guard (onGuard a)
  | .cat e f => .cat (e.map onStep onGuard) (f.map onStep onGuard)
  | .alt e f => .alt (e.map onStep onGuard) (f.map onStep onGuard)
  | .times e least most => .times (e.map onStep onGuard) least most

/-- Whether an expression steps over no character, whatever the text. -/
def Expr.isStill {κ α : Type} : Expr κ α → Bool
  | .empty | .guard _ => true
  | .step _ => false
  | .cat e f | .alt e f => e.isStill && f.isStill
  | .times e _ most => e.isStill || most == some 0

/-- Which characters end a line. -/
inductive LineEnd where
  /-- The line feed alone. -/
  | lf
  /-- The line feed, the carriage return and the pair of both. -/
  | crlf
deriving DecidableEq

/-- Which characters make up words. -/
inductive WordRule where
  /-- ASCII letters, digits and the underscore. -/
  | ascii
  /-- The word characters of all scripts. -/
  | unicode
deriving DecidableEq

/-- Whether a character, if there is one, belongs to a word. -/
def WordRule.isWord : WordRule → Option Char → Bool
  | .ascii, c => c.any fun c => CharSet.asciiWord.contains c.toNat
  | .unicode, c => c.any fun c => Unicode.word.contains c.toNat

/-- A condition on a place in a text. -/
inductive Assertion where
  /-- The text starts here. -/
  | textStart
  /-- The text ends here. -/
  | textEnd
  /-- A line starts here. -/
  | lineStart (eol : LineEnd)
  /-- A line ends here. -/
  | lineEnd (eol : LineEnd)
  /-- A word starts or ends here. -/
  | wordBoundary (rule : WordRule)
  /-- No word starts or ends here. -/
  | notWordBoundary (rule : WordRule)
  /-- A word starts here. -/
  | wordStart (rule : WordRule)
  /-- A word ends here. -/
  | wordEnd (rule : WordRule)
  /-- No word character stands before this place. -/
  | wordStartHalf (rule : WordRule)
  /-- No word character stands after this place. -/
  | wordEndHalf (rule : WordRule)
deriving DecidableEq

/-- Whether an assertion holds between two characters; at the ends of the text one is missing. No
line starts or ends inside a pair of carriage return and line feed when the pair ends lines. -/
def Assertion.holds (before after : Option Char) : Assertion → Bool
  | .textStart => before.isNone
  | .textEnd => after.isNone
  | .lineStart .lf => before.isNone || before == some '\n'
  | .lineEnd .lf => after.isNone || after == some '\n'
  | .lineStart .crlf =>
    before.isNone || before == some '\n' || (before == some '\r' && after != some '\n')
  | .lineEnd .crlf =>
    after.isNone || after == some '\r' || (after == some '\n' && before != some '\r')
  | .wordBoundary rule => rule.isWord before != rule.isWord after
  | .notWordBoundary rule => rule.isWord before == rule.isWord after
  | .wordStart rule => !rule.isWord before && rule.isWord after
  | .wordEnd rule => rule.isWord before && !rule.isWord after
  | .wordStartHalf rule => !rule.isWord before
  | .wordEndHalf rule => !rule.isWord after

end SecretScan.Regex
