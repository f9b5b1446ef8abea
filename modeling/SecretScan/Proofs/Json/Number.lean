import SecretScan.Json.Number
import SecretScan.Proofs.Notation

/-!
# Numbers in JSON

A numeral without fraction and exponent is kept as it is if its digits fit 64 bits
(`Numeral.json_eq_natural_iff`), and every other one is rounded: the leading digits that fit 64 bits
make a significand, which is scaled by one power of ten. `Numeral.json` says so part by part, and
`Numeral.read_body` says that a reader does it, whatever comes behind the numeral, unless that could
go on with the numeral itself.
-/

namespace SecretScan

/-! ### Numbers of 64 bits -/

namespace Json.Number

/-- Digits that fit 64 bits are all taken. -/
theorem accumulate_of_lt {n : ℕ} {cs : List Char} (h : decimalValue n cs < 0x10000000000000000) :
    accumulate n cs = (decimalValue n cs, []) := by
  induction cs generalizing n with
  | nil => rfl
  | cons c cs ih =>
    have hfits : 10 * n + (c.toNat - 48) < 0x10000000000000000 :=
      Nat.lt_of_le_of_lt (le_decimalValue _ cs) h
    rw [accumulate, if_pos hfits]
    exact ih h

/-- Of digits that do not fit some are left. -/
theorem accumulate_of_le {n : ℕ} {cs : List Char} (hn : n < 0x10000000000000000)
    (h : 0x10000000000000000 ≤ decimalValue n cs) : (accumulate n cs).2 ≠ [] := by
  induction cs generalizing n with
  | nil => exact absurd h (Nat.not_le.mpr hn)
  | cons c cs ih =>
    rw [accumulate]
    split
    · next hfits => exact ih hfits h
    · exact List.cons_ne_nil c cs

/-- What scaling gives is never a whole number. -/
theorem ofParts_ne_natural {isNegative : Bool} {significand k : ℕ} {e : ℤ} :
    ofParts isNegative significand e ≠ .ok (.natural k) := by
  rw [ofParts]
  cases scale 5 (Binary64.roundUnits (significand * Binary64.one) 1) e with
  | error fault => rintro ⟨⟩
  | ok units => rintro ⟨⟩

end Json.Number

/-- The letter of an exponent is no digit. -/
theorem Exponent.isDigit_letter (x : Exponent) : x.letter.isDigit = false := by
  rcases x.letter_eq with h | h
  · rw [h]
    rfl
  · rw [h]
    rfl

namespace Numeral

open Json.Number

variable {n : Numeral} {rest : List Char}

/-! ### What JSON makes of a numeral -/

/-- A significand with a power of ten, scaled further by an exponent. An exponent beyond 31 bits is
not computed with. -/
def scaled (isNegative : Bool) (significand : ℕ) (e : ℤ) :
    Option Exponent → Except JsonFault Json.Number
  | none => ofParts isNegative significand e
  | some x =>
    if x.digits.value < 0x80000000 then ofParts isNegative significand (e + x.value)
    else if significand != 0 && x.sign != ['-'] then .error .malformed
    else .ok (.real (.finite isNegative 0))

/-- The number of a numeral in JSON, or the fault that it is too large. -/
def json (n : Numeral) : Except JsonFault Json.Number :=
  let (significand, left) := accumulate 0 n.whole.chars
  if n.isWhole && left.isEmpty then .ok (Json.Number.whole n.isNegative significand)
  else
    let (significand, left') := accumulate significand n.places
    scaled n.isNegative significand (left.length - (n.places.length - left'.length : ℕ)) n.exponent

/-- A sign is taken off, and digits are none. -/
theorem readSign_append {x : Exponent} :
    readSign (x.sign ++ (x.digits.chars ++ rest)) =
      (x.sign == ['-'], x.digits.chars ++ rest) := by
  rcases x.sign_eq with h | h | h
  · obtain ⟨c, cs, hchars, hc⟩ := x.digits.exists_cons
    have hplus : c ≠ '+' := ne_of_isDigit hc (by decide)
    have hminus : c ≠ '-' := ne_of_isDigit hc (by decide)
    rw [h, hchars]
    simp [readSign, hplus, hminus]
  · rw [h]
    rfl
  · rw [h]
    rfl

theorem readExponent_append {isNegative : Bool} {significand : ℕ} {e : ℤ} {x : Exponent}
    (hrest : EndsNumeral rest) :
    readExponent isNegative significand e (x.sign ++ (x.digits.chars ++ rest)) =
      (scaled isNegative significand e (some x)).map (·, rest) := by
  obtain ⟨c, cs, hchars, hc⟩ := x.digits.exists_cons
  have htake := Digits.takeWhile_append (d := x.digits) hrest.startsNoDigit
  have hdrop := Digits.dropWhile_append (d := x.digits) hrest.startsNoDigit
  have hvalue : (x.digits.chars.foldl (fun n c ↦ 10 * n + (c.toNat - 48)) 0) = x.digits.value :=
    rfl
  have hsum : (if (x.sign == ['-']) = true then e - (x.digits.value : ℤ) else e + x.digits.value) =
      e + x.value := by
    rw [Exponent.value]
    by_cases h : x.sign = ['-']
    · rw [if_pos h, if_pos (by simp [h])]
      rfl
    · rw [if_neg h, if_neg (by simp [h])]
  rw [readExponent, readSign_append]
  simp only [hchars, List.cons_append] at htake hdrop hvalue ⊢
  simp only [htake, hdrop, hvalue, hsum, hc, Bool.not_true, Bool.false_eq_true, if_false, scaled]
  by_cases hfits : x.digits.value < 0x80000000
  · rw [if_pos hfits, if_pos hfits]
    cases ofParts isNegative significand (e + x.value) <;> rfl
  · rw [if_neg hfits, if_neg hfits]
    rw [apply_ite (Except.map _)]
    rfl

theorem readTail_of_endsNumeral {isNegative : Bool} {significand : ℕ} {e : ℤ}
    (hrest : EndsNumeral rest) :
    readTail isNegative significand e rest =
      (ofParts isNegative significand e).map (·, rest) := by
  have hother : readTail isNegative significand e rest =
      ofParts isNegative significand e >>= fun n ↦ pure (n, rest) := by
    rw [readTail.eq_def]
    split
    · next cs => exact absurd rfl (hrest 'e' rfl).2.2.1
    · next cs => exact absurd rfl (hrest 'E' rfl).2.2.2
    · rfl
  rw [hother]
  cases ofParts isNegative significand e <;> rfl

/-- What may follow the digits of a numeral: an exponent, if there is one. -/
theorem readTail_append {isNegative : Bool} {significand : ℕ} {e : ℤ}
    (hrest : EndsNumeral rest) :
    readTail isNegative significand e (n.exponentText ++ rest) =
      (scaled isNegative significand e n.exponent).map (·, rest) := by
  rw [exponentText]
  rcases n.exponent with - | x
  · exact readTail_of_endsNumeral hrest
  · show readTail isNegative significand e (x.letter :: (x.sign ++ x.digits.chars) ++ rest) = _
    rw [List.cons_append, List.append_assoc, ← readExponent_append hrest]
    rcases x.letter_eq with h | h
    · rw [h]
      rfl
    · rw [h]
      rfl

/-- A numeral is not continued by its exponent. -/
theorem startsNoDigit_exponentText (hrest : EndsNumeral rest) :
    StartsNoDigit (n.exponentText ++ rest) := by
  rw [exponentText]
  rcases n.exponent with - | x
  · exact hrest.startsNoDigit
  · exact startsNoDigit_cons x.isDigit_letter

theorem readFraction_append {isNegative : Bool} {significand : ℕ} {e : ℤ} {d : Digits}
    (hrest : EndsNumeral rest) :
    readFraction isNegative significand e (d.chars ++ (n.exponentText ++ rest)) =
      (scaled isNegative (accumulate significand d.chars).1
        (e - (d.chars.length - (accumulate significand d.chars).2.length : ℕ))
        n.exponent).map (·, rest) := by
  have hnext := startsNoDigit_exponentText (n := n) hrest
  rw [readFraction, Digits.takeWhile_append hnext, Digits.dropWhile_append hnext]
  simp only [d.isEmpty_chars, Bool.false_eq_true, if_false]
  exact readTail_append hrest

/-- No digit follows a zero in front. -/
theorem leading_zero_alone (n : Numeral) :
    (decide (n.whole.chars.head? = some '0') && decide (1 < n.whole.chars.length)) = false := by
  rw [Bool.and_eq_false_iff, decide_eq_false_iff_not, decide_eq_false_iff_not]
  by_cases hzero : n.whole.chars.head? = some '0'
  · exact .inr (by rw [n.lead hzero]; exact Nat.lt_irrefl 1)
  · exact .inl hzero

/-- A numeral with a fraction. -/
theorem read_of_fraction (hrest : EndsNumeral rest) {d : Digits} (hfraction : n.fraction = some d) :
    Json.Number.read n.isNegative (n.body ++ rest) = n.json.map (·, rest) := by
  have hbody : n.body ++ rest =
      n.whole.chars ++ '.' :: (d.chars ++ (n.exponentText ++ rest)) := by
    rw [body, fractionText, hfraction]
    simp
  have hplaces : n.places = d.chars := by rw [places, hfraction]; rfl
  have hwhole : n.isWhole = false := by rw [isWhole, hfraction]; rfl
  have hnext : StartsNoDigit ('.' :: (d.chars ++ (n.exponentText ++ rest))) :=
    startsNoDigit_cons rfl
  rw [hbody, Json.Number.read, Digits.takeWhile_append hnext, Digits.dropWhile_append hnext, json]
  simp only [n.whole.isEmpty_chars, n.leading_zero_alone, hwhole, hplaces, Bool.false_and,
    Bool.false_eq_true, if_false]
  exact readFraction_append hrest

/-- A numeral with an exponent behind its digits. -/
theorem read_of_exponent (hrest : EndsNumeral rest) (hfraction : n.fraction = none) {x : Exponent}
    (hexponent : n.exponent = some x) :
    Json.Number.read n.isNegative (n.body ++ rest) = n.json.map (·, rest) := by
  have hbody : n.body ++ rest =
      n.whole.chars ++ x.letter :: (x.sign ++ (x.digits.chars ++ rest)) := by
    rw [body, fractionText, exponentText, hfraction, hexponent]
    simp [Exponent.text]
  have hplaces : n.places = [] := by rw [places, hfraction]; rfl
  have hwhole : n.isWhole = false := by rw [isWhole, hfraction, hexponent]; rfl
  have hnext : StartsNoDigit (x.letter :: (x.sign ++ (x.digits.chars ++ rest))) :=
    startsNoDigit_cons x.isDigit_letter
  have hread : readExponent n.isNegative (accumulate 0 n.whole.chars).1
      (accumulate 0 n.whole.chars).2.length (x.sign ++ (x.digits.chars ++ rest)) =
        n.json.map (·, rest) := by
    rw [readExponent_append hrest, json]
    simp [hwhole, hplaces, hexponent, accumulate]
  rw [hbody, Json.Number.read, Digits.takeWhile_append hnext, Digits.dropWhile_append hnext,
    ← hread]
  simp only [n.whole.isEmpty_chars, n.leading_zero_alone, Bool.false_eq_true, if_false]
  rcases x.letter_eq with h | h
  · rw [h]
    rfl
  · rw [h]
    rfl

/-- A numeral of digits only. -/
theorem read_of_isWhole (hrest : EndsNumeral rest) (hfraction : n.fraction = none)
    (hexponent : n.exponent = none) :
    Json.Number.read n.isNegative (n.body ++ rest) = n.json.map (·, rest) := by
  have hbody : n.body ++ rest = n.whole.chars ++ rest := by
    rw [body, fractionText, exponentText, hfraction, hexponent]
    simp
  have hplaces : n.places = [] := by rw [places, hfraction]; rfl
  have hwhole : n.isWhole = true := by rw [isWhole, hfraction, hexponent]; rfl
  rw [hbody, Json.Number.read, Digits.takeWhile_append hrest.startsNoDigit,
    Digits.dropWhile_append hrest.startsNoDigit, json]
  simp only [n.whole.isEmpty_chars, n.leading_zero_alone, hwhole, hplaces, hexponent,
    Bool.true_and, Bool.false_eq_true, if_false]
  split
  · next cs => exact absurd rfl (hrest '.' rfl).2.1
  · next cs => exact absurd rfl (hrest 'e' rfl).2.2.1
  · next cs => exact absurd rfl (hrest 'E' rfl).2.2.2
  · split
    · rfl
    · rw [readTail_of_endsNumeral hrest]
      simp [accumulate, scaled]

/-- **Reading a numeral** stops at its end and gives its number. -/
theorem read_body (hrest : EndsNumeral rest) :
    Json.Number.read n.isNegative (n.body ++ rest) = n.json.map (·, rest) := by
  rcases hfraction : n.fraction with - | d
  · rcases hexponent : n.exponent with - | x
    · exact read_of_isWhole hrest hfraction hexponent
    · exact read_of_exponent hrest hfraction hexponent
  · exact read_of_fraction hrest hfraction

/-! ### Whole numbers -/

theorem whole_eq_natural_iff {isNegative : Bool} {m k : ℕ} :
    Json.Number.whole isNegative m = .natural k ↔ isNegative = false ∧ m = k := by
  rw [Json.Number.whole]
  cases isNegative with
  | false => simp
  | true =>
    simp only [Bool.not_true, Bool.false_eq_true, if_false]
    split <;> simp

theorem scaled_ne_natural {isNegative : Bool} {significand k : ℕ} {e : ℤ} {x : Option Exponent} :
    scaled isNegative significand e x ≠ .ok (.natural k) := by
  rcases x with - | x
  · exact ofParts_ne_natural
  · rw [scaled]
    split
    · exact ofParts_ne_natural
    · split
      · rintro ⟨⟩
      · rintro ⟨⟩

/-- A numeral without fraction and exponent that fits is kept as it is. -/
theorem json_of_fits (hwhole : n.isWhole = true) (h : n.whole.value < 0x10000000000000000) :
    n.json = .ok (Json.Number.whole n.isNegative n.whole.value) := by
  have hall : accumulate 0 n.whole.chars = (n.whole.value, []) := accumulate_of_lt h
  rw [json, hall]
  simp [hwhole]

/-- Every other numeral is rounded. -/
theorem json_of_not_fits (h : n.isWhole = true → 0x10000000000000000 ≤ n.whole.value) :
    ∃ significand e, n.json = scaled n.isNegative significand e n.exponent := by
  have hleft : (n.isWhole && (accumulate 0 n.whole.chars).2.isEmpty) = false := by
    rcases hwhole : n.isWhole with - | -
    · rfl
    · have hne : (accumulate 0 n.whole.chars).2 ≠ [] := accumulate_of_le (by decide) (h hwhole)
      rw [Bool.true_and, List.isEmpty_eq_false_iff]
      exact hne
  rw [json]
  simp only [hleft, Bool.false_eq_true, if_false]
  exact ⟨_, _, rfl⟩

/-- **Whole numbers of 64 bits.** A numeral is read as one exactly if it has no sign, no fraction
and no exponent and its digits make a number that fits. -/
theorem json_eq_natural_iff {k : ℕ} :
    n.json = .ok (.natural k) ↔ n.isNegative = false ∧ n.isWhole = true ∧ n.whole.value = k ∧
      k < 0x10000000000000000 := by
  by_cases hfits : n.isWhole = true ∧ n.whole.value < 0x10000000000000000
  · rw [json_of_fits hfits.1 hfits.2, Except.ok.injEq, whole_eq_natural_iff]
    constructor
    · rintro ⟨hsign, rfl⟩
      exact ⟨hsign, hfits.1, rfl, hfits.2⟩
    · rintro ⟨hsign, -, hvalue, -⟩
      exact ⟨hsign, hvalue⟩
  · obtain ⟨significand, e, hjson⟩ := json_of_not_fits (n := n) fun hwhole ↦
      Nat.not_lt.mp fun hlt ↦ hfits ⟨hwhole, hlt⟩
    rw [hjson]
    refine iff_of_false scaled_ne_natural ?_
    rintro ⟨-, hwhole, rfl, hlt⟩
    exact hfits ⟨hwhole, hlt⟩

end Numeral

end SecretScan
