import Mathlib.Tactic.IntervalCases
import SecretScan.Proofs.Lists

/-!
# What JSON and TOML share

Both notations write a text character by character and each character in one of several ways, have
the same words for the truth values, and write numbers alike: a numeral is a sign, digits, and
perhaps a fraction and an exponent. These are described here once; what either notation makes of
them is described beside its reader.
-/

namespace SecretScan

/-! ### Texts and words -/

/-- A text is written character by character. -/
inductive SpellsEach (spells : Char → List Char → Prop) : List Char → List Char → Prop where
  /-- Nothing is written as nothing. -/
  | nil : SpellsEach spells [] []
  /-- A character comes before the rest. -/
  | cons {c : Char} {cs s ts : List Char} (hc : spells c cs) (hs : SpellsEach spells s ts) :
      SpellsEach spells (c :: s) (cs ++ ts)

/-- The word of a truth value. -/
def word (b : Bool) : List Char := if b then ['t', 'r', 'u', 'e'] else ['f', 'a', 'l', 's', 'e']

/-! ### Numerals -/

/-- Decimal digits, at least one. -/
structure Digits where
  /-- The digits, the most significant one first. -/
  chars : List Char
  /-- There is one. -/
  ne_nil : chars ≠ []
  /-- There is nothing else. -/
  isDigit : ∀ c ∈ chars, c.isDigit = true

/-- The number of a list of digits behind those that make `n`. -/
def decimalValue (n : ℕ) (cs : List Char) : ℕ := cs.foldl (fun n c ↦ 10 * n + (c.toNat - 48)) n

/-- The number that digits make. -/
def Digits.value (d : Digits) : ℕ := decimalValue 0 d.chars

/-- The exponent of a numeral. -/
structure Exponent where
  /-- The letter in front, small or capital. -/
  letter : Char
  /-- It is one of two. -/
  letter_eq : letter = 'e' ∨ letter = 'E'
  /-- The sign, if there is one. -/
  sign : List Char
  /-- It is one of three. -/
  sign_eq : sign = [] ∨ sign = ['+'] ∨ sign = ['-']
  /-- The digits. -/
  digits : Digits

namespace Exponent

/-- How an exponent is written. -/
def text (x : Exponent) : List Char := x.letter :: (x.sign ++ x.digits.chars)

/-- The power of ten. -/
def value (x : Exponent) : ℤ := if x.sign = ['-'] then -(x.digits.value : ℤ) else x.digits.value

end Exponent

/-- A number as it is written. -/
structure Numeral where
  /-- Whether a minus sign is in front. -/
  isNegative : Bool
  /-- The digits before the point. -/
  whole : Digits
  /-- A zero stands in front of no other digit. -/
  lead : whole.chars.head? = some '0' → whole.chars.length = 1
  /-- The digits behind the point, if there is one. -/
  fraction : Option Digits
  /-- The exponent, if there is one. -/
  exponent : Option Exponent

namespace Numeral

/-- How a fraction is written, if there is one. -/
def fractionText (n : Numeral) : List Char := n.fraction.elim [] fun d ↦ '.' :: d.chars

/-- How an exponent is written, if there is one. -/
def exponentText (n : Numeral) : List Char := n.exponent.elim [] Exponent.text

/-- A numeral without its sign. -/
def body (n : Numeral) : List Char := n.whole.chars ++ (n.fractionText ++ n.exponentText)

/-- A numeral. -/
def text (n : Numeral) : List Char := if n.isNegative then '-' :: n.body else n.body

/-- Whether there is neither a fraction nor an exponent. -/
def isWhole (n : Numeral) : Bool := n.fraction.isNone && n.exponent.isNone

/-- The digits behind the point. -/
def places (n : Numeral) : List Char := n.fraction.elim [] Digits.chars

/-- The number that all digits make, as if there were no point. -/
def significand (n : Numeral) : ℕ := decimalValue 0 (n.whole.chars ++ n.places)

/-- The power of ten that the significand is to be multiplied with. -/
def power (n : Numeral) : ℤ := n.exponent.elim 0 Exponent.value - n.places.length

end Numeral

/-! ### Digits and what follows them -/

theorem ne_of_isDigit {c d : Char} (hc : c.isDigit = true) (hd : d.isDigit = false) : c ≠ d := by
  rintro rfl
  rw [hc] at hd
  cases hd

/-- The text does not start with a digit. -/
def StartsNoDigit (cs : List Char) : Prop := ∀ c ∈ cs.head?, c.isDigit = false

/-- A numeral ends before the text: it starts neither with a digit nor with what leads to one. -/
def EndsNumeral (cs : List Char) : Prop :=
  ∀ c ∈ cs.head?, c.isDigit = false ∧ c ≠ '.' ∧ c ≠ 'e' ∧ c ≠ 'E'

theorem EndsNumeral.startsNoDigit {cs : List Char} (h : EndsNumeral cs) : StartsNoDigit cs :=
  fun c hc ↦ (h c hc).1

theorem startsNoDigit_cons {c : Char} {cs : List Char} (h : c.isDigit = false) :
    StartsNoDigit (c :: cs) := fun c' hc ↦ by
  obtain rfl := Option.some.inj hc
  exact h

namespace Digits

variable {d : Digits} {cs : List Char}

theorem takeWhile_append (h : StartsNoDigit cs) :
    (d.chars ++ cs).takeWhile Char.isDigit = d.chars :=
  takeWhile_append_of_stops d.isDigit h

theorem dropWhile_append (h : StartsNoDigit cs) :
    (d.chars ++ cs).dropWhile Char.isDigit = cs :=
  dropWhile_append_of_stops d.isDigit h

/-- The first digit, and that it is one. -/
theorem exists_cons (d : Digits) : ∃ c cs, d.chars = c :: cs ∧ c.isDigit = true := by
  obtain ⟨c, cs, h⟩ := List.exists_cons_of_ne_nil d.ne_nil
  exact ⟨c, cs, h, d.isDigit c (h ▸ List.mem_cons_self)⟩

theorem isEmpty_chars (d : Digits) : d.chars.isEmpty = false :=
  List.isEmpty_eq_false_iff.mpr d.ne_nil

end Digits

theorem le_decimalValue (n : ℕ) (cs : List Char) : n ≤ decimalValue n cs := by
  induction cs generalizing n with
  | nil => exact Nat.le_refl n
  | cons c cs ih =>
    have hstep : n ≤ 10 * n + (c.toNat - 48) := by omega
    exact hstep.trans (ih _)

/-! ### Natural numbers -/

theorem decimalValue_toDigits (n : ℕ) : decimalValue 0 (Nat.toDigits 10 n) = n :=
  Nat.ofDigitChars_ten_toDigits

/-- No zero stands in front of other digits. -/
theorem length_toDigits_of_head?_eq_zero (n : ℕ) (h : (Nat.toDigits 10 n).head? = some '0') :
    (Nat.toDigits 10 n).length = 1 := by
  suffices hpos : ∀ n, 0 < n → (Nat.toDigits 10 n).head? ≠ some '0' by
    rcases Nat.eq_zero_or_pos n with rfl | hn
    · rfl
    · exact absurd h (hpos n hn)
  intro n
  induction n using Nat.strongRecOn with
  | ind n ih =>
    intro hn
    rw [Nat.toDigits_eq_if (by decide)]
    split
    · next hlt => interval_cases n <;> decide
    · next hle =>
      have hquot := ih (n / 10) (by omega) (by omega)
      have hne : Nat.toDigits 10 (n / 10) ≠ [] := Nat.toDigits_ne_nil
      obtain ⟨c, cs, hcs⟩ := List.exists_cons_of_ne_nil hne
      rw [hcs] at hquot ⊢
      exact hquot

/-- The numeral of a natural number. -/
def Numeral.ofNat (n : ℕ) : Numeral where
  isNegative := false
  whole := {
    chars := Nat.toDigits 10 n
    ne_nil := Nat.toDigits_ne_nil
    isDigit := fun _ hc ↦ Nat.isDigit_of_mem_toDigits (by decide) (by decide) hc }
  lead := length_toDigits_of_head?_eq_zero n
  fraction := none
  exponent := none

theorem Numeral.value_whole_ofNat (n : ℕ) : (Numeral.ofNat n).whole.value = n :=
  decimalValue_toDigits n

end SecretScan
