import SecretScan.Proofs.Notation
import SecretScan.Toml.Scalar

/-!
# Numbers in TOML

A numeral without fraction and exponent is a whole number here, however large, and every other one
is the nearest binary64 number (`Numeral.toml?`). A number in TOML ends where a character comes that
could not stand in a value without marks, and what is in front of it is looked at as a whole
(`Numeral.readScalar_text`).
-/

namespace SecretScan

/-- What TOML makes of a numeral, if it is not too large. -/
def Numeral.toml? (n : Numeral) : Option Toml :=
  if n.isWhole then
    some (.integer (if n.isNegative then -(n.whole.value : ℤ) else (n.whole.value : ℤ)))
  else
    let x := Binary64.ofDecimal n.isNegative n.significand n.power
    if x.isFinite then some (.float x) else none

namespace Toml

/-! ### Digits -/

theorem hexValue_of_isDigit {c : Char} (h : c.isDigit = true) :
    Unicode.hexValue c = c.toNat - 48 := by
  rw [Char.isDigit, Bool.and_eq_true, decide_eq_true_iff, decide_eq_true_iff] at h
  rw [Unicode.hexValue, if_pos ⟨h.1, h.2⟩]

/-- Digits make the same number in every notation. -/
theorem digitsValue_eq {cs : List Char} (h : ∀ c ∈ cs, c.isDigit = true) :
    digitsValue 10 cs = decimalValue 0 cs := by
  suffices hfold : ∀ n, cs.foldl (fun n c ↦ 10 * n + Unicode.hexValue c) n = decimalValue n cs from
    hfold 0
  induction cs with
  | nil => exact fun n ↦ rfl
  | cons c cs ih =>
    intro n
    rw [List.foldl_cons, hexValue_of_isDigit (h c List.mem_cons_self)]
    exact ih (fun c hc ↦ h c (List.mem_cons_of_mem _ hc)) _

theorem ne_underscore {c : Char} (h : c.isDigit = true) : c ≠ '_' := ne_of_isDigit h (by decide)

/-- One digit, where no underscore follows. -/
theorem digits?_cons_cons {p : Char → Bool} {c d : Char} (hd : d ≠ '_') (cs : List Char) :
    digits? p (c :: d :: cs) = if p c then (digits? p (d :: cs)).map (c :: ·) else none := by
  rw [digits?]
  · simp
  · intro rest hrest
    exact hd (List.cons.inj hrest).1

/-- Digits without underscores are taken as they are. -/
theorem digits?_of_isDigit {ds : List Char} (hne : ds ≠ []) (h : ∀ d ∈ ds, d.isDigit = true) :
    digits? Char.isDigit ds = some ds := by
  induction ds with
  | nil => exact absurd rfl hne
  | cons c cs ih =>
    have hc := h c List.mem_cons_self
    rcases cs with - | ⟨d, cs⟩
    · rw [digits?, if_pos hc]
    · have hrest : ∀ x ∈ d :: cs, x.isDigit = true := fun x hx ↦ h x (List.mem_cons_of_mem _ hx)
      rw [digits?_cons_cons (ne_underscore (hrest d List.mem_cons_self)), if_pos hc,
        ih (List.cons_ne_nil d cs) hrest]
      rfl

/-- Digits that lead to another character are not taken. -/
theorem digits?_append_cons {ds : List Char} (hds : ∀ d ∈ ds, d.isDigit = true) {c : Char}
    (hc : c.isDigit = false) (hunderscore : c ≠ '_') (rest : List Char) :
    digits? Char.isDigit (ds ++ c :: rest) = none := by
  induction ds with
  | nil =>
    rw [List.nil_append, digits?.eq_def]
    split
    · rfl
    · next h => simp [(List.cons.inj h).1 ▸ hc]
    · next h => simp [(List.cons.inj h).1 ▸ hc]
    · next h => simp [(List.cons.inj h).1 ▸ hc]
  | cons d ds ih =>
    have hrest := ih fun x hx ↦ hds x (List.mem_cons_of_mem _ hx)
    rcases ds with - | ⟨e, ds⟩
    · rw [List.nil_append] at hrest
      rw [List.singleton_append, digits?_cons_cons hunderscore, hrest]
      simp
    · have he : e.isDigit = true := hds e (List.mem_cons_of_mem _ List.mem_cons_self)
      rw [List.cons_append] at hrest
      rw [List.cons_append, List.cons_append, digits?_cons_cons (ne_underscore he), hrest]
      simp

end Toml

namespace Numeral

open Toml

variable {n : Numeral}

/-! ### The parts of a numeral -/

/-- An exponent starts with its letter. -/
theorem startsExponent {c : Char} {rest : List Char} (h : n.exponentText = c :: rest) :
    c = 'e' ∨ c = 'E' := by
  rw [exponentText] at h
  rcases hexponent : n.exponent with - | x
  · rw [hexponent] at h
    cases h
  · rw [hexponent] at h
    obtain rfl : x.letter = c := (List.cons.inj h).1
    exact x.letter_eq

/-- What follows the digits before the point starts with a point or a letter. -/
theorem startsTail {c : Char} {rest : List Char}
    (h : n.fractionText ++ n.exponentText = c :: rest) : c = '.' ∨ c = 'e' ∨ c = 'E' := by
  rw [fractionText] at h
  rcases hfraction : n.fraction with - | d
  · rw [hfraction] at h
    exact .inr (startsExponent h)
  · rw [hfraction] at h
    obtain rfl : '.' = c := (List.cons.inj h).1
    exact .inl rfl

theorem isDigit_of_mem_places {c : Char} (h : c ∈ n.places) : c.isDigit = true := by
  rw [places] at h
  rcases hfraction : n.fraction with - | d
  · rw [hfraction] at h
    cases h
  · rw [hfraction] at h
    exact d.isDigit c h

/-- Digits run up to what is none. -/
theorem takeWhile_digits_append {p : Char → Bool} {ds rest : List Char}
    (hp : ∀ d, d.isDigit = true → p d = true) (hds : ∀ d ∈ ds, d.isDigit = true)
    (hrest : ∀ c cs, rest = c :: cs → p c = false) : (ds ++ rest).takeWhile p = ds := by
  refine takeWhile_append_of_stops (fun d hd ↦ hp d (hds d hd)) fun c hc ↦ ?_
  obtain ⟨cs, hcs⟩ := List.head?_eq_some_iff.mp hc
  exact hrest c cs hcs

theorem startsNoDigit_tail : StartsNoDigit (n.fractionText ++ n.exponentText) := by
  intro c hc
  obtain ⟨rest, hrest⟩ := List.head?_eq_some_iff.mp hc
  rcases startsTail hrest with rfl | rfl | rfl <;> rfl

/-- Behind a leading zero comes no digit and no other letter. -/
theorem startsTail_of_zero {c : Char} {rest : List Char} (h : n.body = '0' :: c :: rest) :
    c = '.' ∨ c = 'e' ∨ c = 'E' := by
  obtain ⟨d, ds, hchars, -⟩ := n.whole.exists_cons
  rw [body, hchars, List.cons_append] at h
  obtain ⟨rfl, htail⟩ := List.cons.inj h
  have hlength := n.lead (by rw [hchars]; rfl)
  rw [hchars, List.length_cons] at hlength
  obtain rfl := List.eq_nil_of_length_eq_zero (Nat.succ.inj hlength)
  exact startsTail htail

/-- A body starts with a digit. -/
theorem exists_body_cons (n : Numeral) : ∃ c cs, n.body = c :: cs ∧ c.isDigit = true := by
  obtain ⟨c, cs, hchars, hc⟩ := n.whole.exists_cons
  exact ⟨c, _, by rw [body, hchars, List.cons_append], hc⟩

theorem tomlReadSign_text (n : Numeral) : Toml.readSign n.text = (n.isNegative, n.body) := by
  obtain ⟨c, cs, hbody, hc⟩ := n.exists_body_cons
  rw [text]
  cases n.isNegative with
  | true => rfl
  | false =>
    have hminus : c ≠ '-' := ne_of_isDigit hc (by decide)
    have hplus : c ≠ '+' := ne_of_isDigit hc (by decide)
    rw [if_neg Bool.false_ne_true, hbody]
    simp [Toml.readSign, hminus, hplus]

theorem wholeDigits?_chars (n : Numeral) : wholeDigits? n.whole.chars = some n.whole.chars := by
  rw [wholeDigits?, digits?_of_isDigit n.whole.ne_nil n.whole.isDigit]
  split
  · next h =>
    have hchars := Option.some.inj h
    have hlength := n.lead (by rw [hchars]; rfl)
    rw [hchars] at hlength
    cases hlength
  · rfl

/-! ### Whole numbers -/

theorem integer?_text (n : Numeral) :
    integer? n.text = (wholeDigits? n.body).map fun ds ↦
      if n.isNegative then -(digitsValue 10 ds : ℤ) else (digitsValue 10 ds : ℤ) := by
  have hsign := tomlReadSign_text n
  -- No numeral looks like one to another base.
  have hradix {c : Char} {rest : List Char} (h : n.text = '0' :: c :: rest) :
      c = '.' ∨ c = 'e' ∨ c = 'E' := by
    rw [text] at h
    split at h
    · cases h
    · exact startsTail_of_zero h
  rw [integer?.eq_def]
  split
  · next h => rcases hradix h with h | h | h <;> cases h
  · next h => rcases hradix h with h | h | h <;> cases h
  · next h => rcases hradix h with h | h | h <;> cases h
  · rw [hsign]

theorem integer?_text_of_isWhole (h : n.isWhole = true) :
    integer? n.text =
      some (if n.isNegative then -(n.whole.value : ℤ) else (n.whole.value : ℤ)) := by
  rw [isWhole, Bool.and_eq_true, Option.isNone_iff_eq_none, Option.isNone_iff_eq_none] at h
  have hbody : n.body = n.whole.chars := by
    rw [body, fractionText, exponentText, h.1, h.2]
    exact List.append_nil _
  rw [integer?_text, hbody, wholeDigits?_chars, Option.map_some, digitsValue_eq n.whole.isDigit]
  rfl

/-- What follows the digits before the point is not nothing if there is a fraction or an
exponent. -/
theorem exists_tail_cons (h : n.isWhole = false) :
    ∃ c rest, n.fractionText ++ n.exponentText = c :: rest := by
  rw [isWhole, Bool.and_eq_false_iff] at h
  rw [fractionText, exponentText]
  rcases hfraction : n.fraction with - | d
  · rcases hexponent : n.exponent with - | x
    · simp [hfraction, hexponent] at h
    · exact ⟨_, _, rfl⟩
  · exact ⟨_, _, rfl⟩

theorem integer?_text_of_not_isWhole (h : n.isWhole = false) : integer? n.text = none := by
  obtain ⟨c, rest, htail⟩ := exists_tail_cons h
  have hc : c.isDigit = false ∧ c ≠ '_' := by
    rcases startsTail htail with rfl | rfl | rfl <;> decide
  rw [integer?_text, body, htail, wholeDigits?, digits?_append_cons n.whole.isDigit hc.1 hc.2]
  rfl

/-! ### Other numbers -/

/-- The sign and the digits of an exponent. -/
theorem tomlReadSign_exponent (x : Exponent) :
    Toml.readSign (x.sign ++ x.digits.chars) = (x.sign == ['-'], x.digits.chars) := by
  rcases x.sign_eq with h | h | h
  · obtain ⟨c, cs, hchars, hc⟩ := x.digits.exists_cons
    have hplus : c ≠ '+' := ne_of_isDigit hc (by decide)
    have hminus : c ≠ '-' := ne_of_isDigit hc (by decide)
    rw [h, hchars]
    simp [Toml.readSign, hplus, hminus]
  · rw [h]
    rfl
  · rw [h]
    rfl

theorem exponent?_text {hasPlaces : Bool} (h : hasPlaces = false → n.exponent ≠ none) :
    exponent? hasPlaces n.exponentText = some (n.exponent.elim 0 Exponent.value) := by
  rw [exponentText]
  rcases hexponent : n.exponent with - | x
  · cases hasPlaces with
    | false => exact absurd hexponent (h rfl)
    | true => rfl
  · show exponent? hasPlaces (x.letter :: (x.sign ++ x.digits.chars)) = some x.value
    rw [exponent?, tomlReadSign_exponent]
    show (digits? Char.isDigit x.digits.chars).map _ = _
    rw [digits?_of_isDigit x.digits.ne_nil x.digits.isDigit, Option.map_some,
      digitsValue_eq x.digits.isDigit, Exponent.value]
    simp [Digits.value]

theorem places?_text (n : Numeral) :
    places? (n.fractionText ++ n.exponentText) = some (n.places, n.exponentText) := by
  rw [fractionText, Numeral.places]
  rcases n.fraction with - | d
  · show places? n.exponentText = some ([], n.exponentText)
    rw [places?.eq_def]
    split
    · next h => rcases startsExponent h with h | h <;> cases h
    · rfl
  · have htake : ((d.chars ++ n.exponentText).takeWhile fun c ↦ c != 'e' && c != 'E') =
        d.chars := by
      refine takeWhile_digits_append (fun c hc ↦ ?_) d.isDigit fun c rest h ↦ ?_
      · simp [ne_of_isDigit hc (by decide : 'e'.isDigit = false),
          ne_of_isDigit hc (by decide : 'E'.isDigit = false)]
      · rcases startsExponent h with rfl | rfl <;> rfl
    show places? ('.' :: (d.chars ++ n.exponentText)) = some (d.chars, n.exponentText)
    rw [places?]
    simp only [htake, digits?_of_isDigit d.ne_nil d.isDigit, List.drop_left, Option.map_some]

/-- The digits before the point are those up to the point or the letter. -/
theorem takeWhile_body (n : Numeral) :
    (n.body.takeWhile fun c ↦ c != '.' && c != 'e' && c != 'E') = n.whole.chars := by
  refine takeWhile_digits_append (fun c hc ↦ ?_) n.whole.isDigit fun c rest h ↦ ?_
  · simp [ne_of_isDigit hc (by decide : '.'.isDigit = false),
      ne_of_isDigit hc (by decide : 'e'.isDigit = false),
      ne_of_isDigit hc (by decide : 'E'.isDigit = false)]
  · rcases startsTail h with rfl | rfl | rfl <;> rfl

/-- A numeral without places has an exponent, unless it is whole. -/
theorem exponent_ne_none (h : n.isWhole = false) (hplaces : n.places = []) :
    n.exponent ≠ none := by
  intro hexponent
  rw [isWhole, hexponent] at h
  rw [places] at hplaces
  rcases hfraction : n.fraction with - | d
  · rw [hfraction] at h
    cases h
  · rw [hfraction] at hplaces
    exact d.ne_nil hplaces

/-- The digits on both sides of the point make the significand. -/
theorem digitsValue_append_places (n : Numeral) :
    digitsValue 10 (n.whole.chars ++ n.places) = n.significand :=
  digitsValue_eq fun d hd ↦ (List.mem_append.mp hd).elim (n.whole.isDigit d) isDigit_of_mem_places

/-- A body is no word. -/
theorem body_ne_cons {c : Char} (hc : c.isDigit = false) (cs : List Char) : n.body ≠ c :: cs := by
  obtain ⟨d, ds, hbody, hd⟩ := n.exists_body_cons
  rw [hbody]
  exact fun h ↦ ne_of_isDigit hd hc (List.cons.inj h).1

theorem float?_text (h : n.isWhole = false) :
    float? n.text =
      if (Binary64.ofDecimal n.isNegative n.significand n.power).isFinite then
        some (Binary64.ofDecimal n.isNegative n.significand n.power)
      else none := by
  have hinf : n.body ≠ ['i', 'n', 'f'] := body_ne_cons rfl _
  have hnan : n.body ≠ ['n', 'a', 'n'] := body_ne_cons rfl _
  have hdrop : n.body.drop n.whole.chars.length = n.fractionText ++ n.exponentText := by
    rw [body, List.drop_left]
  have hexponent : exponent? (!n.places.isEmpty) n.exponentText =
      some (n.exponent.elim 0 Exponent.value) :=
    exponent?_text fun hplaces ↦ exponent_ne_none h (by simpa using hplaces)
  rw [float?, tomlReadSign_text]
  simp only [if_neg hinf, if_neg hnan, takeWhile_body, hdrop, wholeDigits?_chars,
    Option.bind_eq_bind, Option.bind_some, places?_text, hexponent, digitsValue_append_places]
  rfl

/-- A numeral starts with a hyphen or a digit, and so is no word. -/
theorem text_ne_cons {c : Char} (hc : c.isDigit = false) (hhyphen : c ≠ '-') (cs : List Char) :
    n.text ≠ c :: cs := by
  rw [text]
  split
  · exact fun h ↦ hhyphen (List.cons.inj h).1.symm
  · exact body_ne_cons hc cs

/-- **The value of a numeral.** -/
theorem scalar?_text {t : Toml} (h : n.toml? = some t) : scalar? n.text = some t := by
  have htrue : String.ofList n.text ≠ String.ofList ['t', 'r', 'u', 'e'] :=
    fun heq ↦ text_ne_cons rfl (by decide) _ (String.ofList_injective heq)
  have hfalse : String.ofList n.text ≠ String.ofList ['f', 'a', 'l', 's', 'e'] :=
    fun heq ↦ text_ne_cons rfl (by decide) _ (String.ofList_injective heq)
  rw [scalar?.eq_def]
  split
  · next h => exact absurd h htrue
  · next h => exact absurd h hfalse
  · rw [toml?] at h
    rcases hwhole : n.isWhole with - | -
    · rw [hwhole] at h
      rw [integer?_text_of_not_isWhole hwhole, float?_text hwhole]
      simp only [Bool.false_eq_true, if_false, Option.ite_none_right_eq_some] at h
      obtain ⟨hfinite, hx⟩ := h
      rw [if_pos hfinite, ← hx]
      rfl
    · rw [hwhole] at h
      obtain rfl := Option.some.inj h
      rw [integer?_text_of_isWhole hwhole]
      rfl

/-- A hyphen stands in front or behind a letter, never behind a digit. -/
theorem text_ne_append_hyphen {ds rest : List Char} (hne : ds ≠ [])
    (hds : ∀ d ∈ ds, d.isDigit = true) : n.text ≠ ds ++ '-' :: rest := by
  intro h
  rw [text] at h
  split at h
  · obtain ⟨d, ds, rfl⟩ := List.exists_cons_of_ne_nil hne
    obtain rfl : '-' = d := (List.cons.inj h).1
    have hminus := hds '-' List.mem_cons_self
    cases hminus
  · have htail : n.fractionText ++ n.exponentText = '-' :: rest := by
      have hdrop := n.whole.dropWhile_append (startsNoDigit_tail (n := n))
      rw [← hdrop]
      show n.body.dropWhile Char.isDigit = _
      rw [h, List.dropWhile_append_of_pos hds, List.dropWhile_cons_of_neg (by decide)]
    rcases startsTail htail with h | h | h <;> cases h

/-- No numeral is a date. -/
theorem readDate_text (n : Numeral) : readDate n.text = none := by
  rw [readDate]
  rcases hyear : readDigits 4 n.text with - | ⟨year, rest⟩
  · rfl
  · rw [readDigits] at hyear
    split at hyear
    · next hdigits =>
      obtain ⟨-, hrest⟩ := Prod.mk.inj (Option.some.inj hyear)
      have hsplit : n.text = n.text.take 4 ++ rest := by rw [← hrest, List.take_append_drop]
      have hne : n.text.take 4 ≠ [] := by
        intro hnil
        rw [hnil] at hdigits
        cases hdigits.1
      rcases rest with - | ⟨c, rest⟩
      · rfl
      · have hc : c ≠ '-' := by
          rintro rfl
          exact text_ne_append_hyphen hne (List.all_eq_true.mp hdigits.2) hsplit
        simp [hc]
    · cases hyear

/-! ### The end of a numeral -/

theorem isScalarChar_of_isDigit {c : Char} (h : c.isDigit = true) : isScalarChar c = true := by
  rw [isScalarChar, Char.isAlphanum, h, Bool.or_true, Bool.true_or]

theorem isScalarChar_of_mem_exponent {x : Exponent} {c : Char} (hc : c ∈ x.text) :
    isScalarChar c = true := by
  rw [Exponent.text, List.mem_cons, List.mem_append] at hc
  rcases hc with rfl | hc | hc
  · rcases x.letter_eq with h | h
    · rw [h]
      decide
    · rw [h]
      decide
  · rcases x.sign_eq with h | h | h
    · rw [h] at hc
      cases hc
    · rw [h] at hc
      obtain rfl := List.mem_singleton.mp hc
      decide
    · rw [h] at hc
      obtain rfl := List.mem_singleton.mp hc
      decide
  · exact isScalarChar_of_isDigit (x.digits.isDigit c hc)

theorem isScalarChar_of_mem_body {c : Char} (hc : c ∈ n.body) : isScalarChar c = true := by
  rw [body, fractionText, exponentText, List.mem_append, List.mem_append] at hc
  rcases hc with hc | hc | hc
  · exact isScalarChar_of_isDigit (n.whole.isDigit c hc)
  · rcases hfraction : n.fraction with - | d
    · rw [hfraction] at hc
      cases hc
    · rw [hfraction] at hc
      rcases List.mem_cons.mp hc with rfl | hc
      · decide
      · exact isScalarChar_of_isDigit (d.isDigit c hc)
  · rcases hexponent : n.exponent with - | x
    · rw [hexponent] at hc
      cases hc
    · rw [hexponent] at hc
      exact isScalarChar_of_mem_exponent hc

/-- Nothing in a numeral ends a value. -/
theorem isScalarChar_of_mem_text {c : Char} (hc : c ∈ n.text) : isScalarChar c = true := by
  rw [text] at hc
  split at hc
  · rcases List.mem_cons.mp hc with rfl | hc
    · decide
    · exact isScalarChar_of_mem_body hc
  · exact isScalarChar_of_mem_body hc

end Numeral

namespace Toml

/-- A value without marks ends before the text. -/
def EndsScalar (cs : List Char) : Prop := ∀ c ∈ cs.head?, isScalarChar c = false

/-- What is no date is looked at as a whole. -/
theorem readScalar_append {w rest : List Char} (hw : ∀ c ∈ w, isScalarChar c = true)
    (hdate : readDate w = none) (hrest : EndsScalar rest) :
    readScalar (w ++ rest) = (scalar? w).map (·, rest) := by
  have htake : (w ++ rest).takeWhile isScalarChar = w := takeWhile_append_of_stops hw hrest
  rw [readScalar, htake, List.drop_left]
  simp only [hdate]

/-- **Reading a number** stops at its end. -/
theorem readScalar_text {n : Numeral} {t : Toml} (h : n.toml? = some t) {rest : List Char}
    (hrest : EndsScalar rest) : readScalar (n.text ++ rest) = some (t, rest) := by
  rw [readScalar_append (fun _ hc ↦ Numeral.isScalarChar_of_mem_text hc) n.readDate_text hrest,
    Numeral.scalar?_text h]
  rfl

/-- Reading a truth value, too. -/
theorem readScalar_word (b : Bool) {rest : List Char} (hrest : EndsScalar rest) :
    readScalar (word b ++ rest) = some (.bool b, rest) := by
  cases b with
  | false =>
    rw [readScalar_append (List.all_eq_true.mp rfl) (by decide) hrest]
    rfl
  | true =>
    rw [readScalar_append (List.all_eq_true.mp rfl) (by decide) hrest]
    rfl

end Toml

end SecretScan
