import SecretScan.Options.Toml
import SecretScan.Proofs.Json.Number
import SecretScan.Proofs.Number.Nearest
import SecretScan.Proofs.Toml.Number
import SecretScan.Proofs.Traversal

/-!
# Numbers in two notations

A numeral stands for a rational number (`Numeral.value`), and what is wanted is the binary64 number
nearest to it. TOML gives this number (`Numeral.same_of_toml`). JSON rounds a significand and then
what scaling makes of it, and so gives the nearest number only as long as the first rounding and the
power of ten are exact, which they are for short numerals (`Numeral.same_of_json`). A `Literal` is a
number that is written in both notations, not always by the same numeral.
-/

namespace SecretScan

namespace Binary64

/-- A whole number, and the sign that it is read with. -/
theorem neg_ofNat (n : ℕ) : (ofNat n).neg = ofUnits true (n * one) 1 := by
  rw [ofNat, ofUnits, ofUnits]
  split <;> rfl

theorem roundUnits_zero (den : ℕ) (hden : 0 < den) : roundUnits (0 * one) den = 0 :=
  roundUnits_eq_zero (by rwa [Nat.zero_mul, Nat.mul_zero])

/-- A product is written over the number one, which cancels once it is brought to the end. -/
theorem roundUnits_mul_one (m k : ℕ) :
    roundUnits (m * one * (k * one)) one = roundUnits (m * k * one) 1 := by
  have hcommon : roundUnits (m * k * one * one) (1 * one) = roundUnits (m * k * one) 1 :=
    roundUnits_mul_right one_pos
  have horder : m * one * (k * one) = m * k * one * one := by ring
  rw [horder, ← hcommon, Nat.one_mul]

/-- Numbers of 64 bits stay far below the limit. -/
theorem mul_one_le {n : ℕ} (hn : n < 0x10000000000000000) (m : ℕ) (hm : m ≤ 2 ^ 100) :
    n * m * one ≤ 2 ^ 2000 := by
  rw [one_eq]
  calc n * m * 2 ^ 1074 ≤ 2 ^ 64 * 2 ^ 100 * 2 ^ 1074 :=
        Nat.mul_le_mul_right _ (Nat.mul_le_mul (Nat.le_of_lt hn) hm)
    _ = 2 ^ 1238 := by rw [← Nat.pow_add, ← Nat.pow_add]
    _ ≤ 2 ^ 2000 := Nat.pow_le_pow_right Nat.two_pos (by decide)

theorem natural_mul_one_le {n : ℕ} (hn : n < 0x10000000000000000) : n * one ≤ 2 ^ 2000 := by
  have hone := mul_one_le hn 1 Nat.one_le_two_pow
  rwa [Nat.mul_one] at hone

/-- The number nearest to a quotient that is not large, or its zero with the other sign. -/
theorem same_nearest_div {negative : Bool} {a b : ℕ} (hb : 0 < b) (h : a * one ≤ 2 ^ 2000) :
    Same (finite negative (roundUnits (a * one) b)) (nearest (signed negative (a / b))) := by
  rcases Nat.eq_zero_or_pos a with rfl | ha
  · rw [Nat.cast_zero, zero_div, signed_zero, nearest_zero, roundUnits_zero b hb]
    exact same_zero _ _
  · rw [nearest_div negative ha hb, ofUnits_of_le ((Nat.div_le_self _ _).trans h)]
    exact same_of_isFinite rfl

end Binary64

namespace Numeral

open Binary64

variable {n : Numeral}

/-- The rational number that a numeral stands for. -/
def value (n : Numeral) : ℚ := decimal n.isNegative n.significand n.power

/-- A numeral of which JSON loses nothing: a whole number of 64 bits, or digits that make a number
of 53 bits and a power of ten by which scaling is exact up to its one rounding. -/
def IsShort (n : Numeral) : Prop :=
  n.isWhole = true ∧ n.whole.value < 0x10000000000000000 ∨
    n.significand ≤ 0x20000000000000 ∧ -22 ≤ n.power ∧ n.power ≤ 22

theorem places_of_isWhole (h : n.isWhole = true) : n.places = [] := by
  rw [isWhole, Bool.and_eq_true, Option.isNone_iff_eq_none] at h
  rw [places, h.1]
  rfl

/-- A whole number is its digits. -/
theorem value_of_isWhole (h : n.isWhole = true) :
    n.value = signed n.isNegative (n.whole.value / (1 : ℕ)) := by
  have hexponent : n.exponent = none := by
    rw [isWhole, Bool.and_eq_true, Option.isNone_iff_eq_none, Option.isNone_iff_eq_none] at h
    exact h.2
  have hsignificand : n.significand = n.whole.value := by
    rw [significand, places_of_isWhole h, List.append_nil]
    rfl
  have hpower : n.power = ((0 : ℕ) : ℤ) := by
    rw [power, hexponent, places_of_isWhole h]
    rfl
  rw [value, hsignificand, hpower, decimal_of_nonneg, Nat.pow_zero, Nat.mul_one]

/-- **Whole numbers of 64 bits** are read as the nearest number. -/
theorem same_of_isWhole (h : n.isWhole = true) (hlt : n.whole.value < 0x10000000000000000) :
    Same (ofUnits n.isNegative (n.whole.value * one) 1) (nearest n.value) := by
  have hle : n.whole.value * one ≤ 2 ^ 2000 := natural_mul_one_le hlt
  rw [value_of_isWhole h, ofUnits_of_le (by rwa [Nat.div_one])]
  exact same_nearest_div Nat.one_pos hle

/-! ### TOML -/

theorem same_of_integer {m : ℕ} {negative : Bool} {x : Binary64}
    (h : (Toml.integer (if negative then -(m : ℤ) else m)).asNumber? = some x) :
    m < 0x10000000000000000 ∧ Same x (ofUnits negative (m * one) 1) := by
  simp only [Toml.asNumber?, Option.ite_none_right_eq_some, Option.some.injEq] at h
  obtain ⟨⟨hlow, hhigh⟩, rfl⟩ := h
  have hlt : m < 0x10000000000000000 := by
    cases negative <;> simp at hlow hhigh <;> omega
  have hle : m * one ≤ 2 ^ 2000 := natural_mul_one_le hlt
  have hfinite (negative : Bool) :
      ofUnits negative (m * one) 1 = finite negative (roundUnits (m * one) 1) :=
    ofUnits_of_le (by rwa [Nat.div_one])
  refine ⟨hlt, ?_⟩
  cases negative with
  | false =>
    have hnonneg : ¬ (m : ℤ) < 0 := Int.not_lt.mpr (Int.natCast_nonneg m)
    rw [if_neg Bool.false_ne_true, if_neg hnonneg, Int.natAbs_natCast, Binary64.ofNat, hfinite]
    exact same_of_isFinite rfl
  | true =>
    rw [if_pos rfl, Int.natAbs_neg, Int.natAbs_natCast]
    rcases Nat.eq_zero_or_pos m with rfl | hm
    · rw [if_neg (by decide), Binary64.ofNat, hfinite, hfinite, roundUnits_zero 1 Nat.one_pos]
      exact same_zero _ _
    · rw [if_pos (by omega), neg_ofNat, hfinite]
      exact same_of_isFinite rfl

/-- **TOML reads the nearest number.** -/
theorem same_of_toml {t : Toml} {x : Binary64} (ht : n.toml? = some t)
    (hx : t.asNumber? = some x) : Same x (nearest n.value) := by
  rw [toml?] at ht
  split at ht
  · next hwhole =>
    obtain rfl := Option.some.inj ht
    obtain ⟨hlt, hsame⟩ := same_of_integer hx
    exact hsame.trans (same_of_isWhole hwhole hlt)
  · simp only [Option.ite_none_right_eq_some, Option.some.injEq] at ht
    obtain ⟨hfinite, rfl⟩ := ht
    obtain rfl := Option.some.inj hx
    exact same_nearest_of_isFinite hfinite

/-! ### JSON -/

theorem toBinary64_whole (negative : Bool) (m : ℕ) :
    (Json.Number.whole negative m).toBinary64 = ofUnits negative (m * one) 1 := by
  rw [Json.Number.whole]
  cases negative with
  | false => rfl
  | true =>
    simp only [Bool.not_true, Bool.false_eq_true, if_false]
    split
    · exact neg_ofNat m
    · exact neg_ofNat m

/-- A small power of ten is not rounded. -/
theorem powerUnits_of_le {j : ℕ} (hj : j ≤ 22) : Json.Number.powerUnits j = 10 ^ j * one :=
  roundUnits_of_fits (fitsSignificand_ten_pow hj)

/-- Scaling up rounds the product, once. -/
theorem eq_of_scale_up {fuel m j units : ℕ} (hj : j ≤ 22)
    (h : Json.Number.scale (fuel + 1) (m * one) j = .ok units) :
    units = roundUnits (m * 10 ^ j * one) 1 := by
  rw [Json.Number.scale, if_pos (Int.natCast_nonneg j)] at h
  split at h
  · next hzero =>
    obtain rfl : m = 0 := (Nat.mul_eq_zero.mp hzero).resolve_right Binary64.one_pos.ne'
    rw [Nat.zero_mul, roundUnits_zero 1 Nat.one_pos]
    exact (Except.ok.inj h).symm
  · rw [if_neg (by omega), Int.toNat_natCast, powerUnits_of_le hj, roundUnits_mul_one] at h
    change (if roundUnits (m * 10 ^ j * one) 1 < unitLimit then _ else _) = _ at h
    split at h
    · exact (Except.ok.inj h).symm
    · cases h

/-- Scaling down rounds the quotient, once. -/
theorem eq_of_scale_down {fuel m j units : ℕ} (hpos : 0 < j) (hj : j ≤ 22)
    (h : Json.Number.scale (fuel + 1) (m * one) (-(j : ℤ)) = .ok units) :
    units = roundUnits (m * one) (10 ^ j) := by
  rw [Json.Number.scale, if_neg (by omega), if_pos (by omega), neg_neg, Int.toNat_natCast,
    powerUnits_of_le hj, roundUnits_mul_right Binary64.one_pos] at h
  exact (Except.ok.inj h).symm

/-- Scaling an exact significand by an exact power of ten rounds once. -/
theorem same_of_ofParts {negative : Bool} {m : ℕ} {e : ℤ} {k : Json.Number}
    (hm : m ≤ 0x20000000000000) (hlow : -22 ≤ e) (hhigh : e ≤ 22)
    (h : Json.Number.ofParts negative m e = .ok k) :
    Same k.toBinary64 (nearest (decimal negative m e)) := by
  have hlt : m < 0x10000000000000000 := by omega
  obtain ⟨units, hunits, hk⟩ := bind_eq_ok_iff.mp h
  obtain rfl := Except.ok.inj hk
  show Same (finite negative units) _
  rw [roundUnits_of_fits (fitsSignificand_of_le hm)] at hunits
  by_cases hnonneg : 0 ≤ e
  · obtain ⟨j, rfl⟩ := Int.eq_ofNat_of_zero_le hnonneg
    have hj : j ≤ 22 := by omega
    have hten : 10 ^ j ≤ 2 ^ 100 :=
      (Nat.pow_le_pow_right (by decide) hj).trans (by norm_num)
    rw [decimal_of_nonneg, eq_of_scale_up hj hunits]
    exact same_nearest_div Nat.one_pos (mul_one_le hlt _ hten)
  · obtain ⟨j, rfl⟩ := Int.exists_eq_neg_ofNat (Int.not_le.mp hnonneg).le
    rw [decimal_of_neg, eq_of_scale_down (by omega) (by omega) hunits]
    exact same_nearest_div (Nat.pow_pos (by decide)) (natural_mul_one_le hlt)

/-- A numeral whose digits fit 64 bits is scaled as it is. -/
theorem json_of_significand_lt (hwhole : n.isWhole = false)
    (h : n.significand < 0x10000000000000000) :
    n.json = scaled n.isNegative n.significand (-(n.places.length : ℤ)) n.exponent := by
  have hsplit : decimalValue (decimalValue 0 n.whole.chars) n.places = n.significand :=
    (List.foldl_append ..).symm
  have hplaces : Json.Number.accumulate (decimalValue 0 n.whole.chars) n.places = _ :=
    Json.Number.accumulate_of_lt (by rwa [hsplit])
  have hchars : Json.Number.accumulate 0 n.whole.chars = (decimalValue 0 n.whole.chars, []) :=
    Json.Number.accumulate_of_lt (Nat.lt_of_le_of_lt (le_decimalValue _ n.places) (by rwa [hsplit]))
  rw [json, hchars]
  simp [hwhole, hplaces, hsplit]

/-- **JSON reads the nearest number** of a short numeral. -/
theorem same_of_json {k : Json.Number} (hn : n.IsShort) (hk : n.json = .ok k) :
    Same k.toBinary64 (nearest n.value) := by
  by_cases hfits : n.isWhole = true ∧ n.whole.value < 0x10000000000000000
  · rw [json_of_fits hfits.1 hfits.2] at hk
    obtain rfl := Except.ok.inj hk
    rw [toBinary64_whole]
    exact same_of_isWhole hfits.1 hfits.2
  · obtain ⟨hm, hlow, hhigh⟩ := hn.resolve_left hfits
    have hlt : n.significand < 0x10000000000000000 := by omega
    have hwhole : n.isWhole = false := by
      by_contra hwhole
      rw [Bool.not_eq_false] at hwhole
      refine hfits ⟨hwhole, ?_⟩
      rw [significand, places_of_isWhole hwhole, List.append_nil] at hlt
      exact hlt
    rw [json_of_significand_lt hwhole hlt] at hk
    rw [value]
    rw [power] at hlow hhigh ⊢
    rcases hexponent : n.exponent with - | x <;> rw [hexponent] at hk hlow hhigh
    · simp only [scaled, Option.elim_none, zero_sub] at hk hlow hhigh ⊢
      exact same_of_ofParts hm hlow hhigh hk
    · simp only [scaled, Option.elim_some] at hk hlow hhigh ⊢
      rw [neg_add_eq_sub] at hk
      split at hk
      · exact same_of_ofParts hm hlow hhigh hk
      · next hlarge =>
        -- An exponent beyond 31 bits cannot belong to a power of ten that is this near to one.
        split at hk
        · cases hk
        · next hzero =>
          obtain rfl := Except.ok.inj hk
          have hsignificand : n.significand = 0 := by
            by_contra hne
            have hsign : x.sign = ['-'] := by simpa [hne] using hzero
            rw [Exponent.value, if_pos hsign] at hlow
            omega
          rw [hsignificand, decimal_zero, nearest_zero]
          exact same_zero _ _

end Numeral

/-! ### Literals -/

/-- A number that both notations can express, as it is written in each. -/
structure Literal where
  /-- What stands in a JSON document. -/
  json : Numeral
  /-- What JSON makes of it. -/
  jsonNumber : Json.Number
  /-- It is not too large. -/
  json_eq : json.json = .ok jsonNumber
  /-- What stands in a TOML document. -/
  toml : Numeral
  /-- What TOML makes of it. -/
  tomlValue : Toml
  /-- It is not too large. -/
  toml_eq : toml.toml? = some tomlValue
  /-- The number that it is taken for. -/
  tomlNumber : Binary64
  /-- A whole number fits 64 bits. -/
  asNumber?_eq : tomlValue.asNumber? = some tomlNumber
  /-- It is the same number in both. -/
  value_eq : json.value = toml.value

namespace Literal

variable {l : Literal}

/-- The number. -/
def value (l : Literal) : ℚ := l.toml.value

/-- **In TOML** a literal is the number nearest to its value. -/
theorem same_tomlNumber (l : Literal) :
    Binary64.Same l.tomlNumber (Binary64.nearest l.value) :=
  Numeral.same_of_toml l.toml_eq l.asNumber?_eq

/-- **In JSON** it is, too, if it is short. -/
theorem same_jsonNumber (h : l.json.IsShort) :
    Binary64.Same l.jsonNumber.toBinary64 (Binary64.nearest l.value) := by
  rw [value, ← l.value_eq]
  exact Numeral.same_of_json h l.json_eq

/-- A short literal is the same number in both notations. -/
theorem same (h : l.json.IsShort) : Binary64.Same l.jsonNumber.toBinary64 l.tomlNumber :=
  (same_jsonNumber h).trans l.same_tomlNumber.symm

end Literal

end SecretScan
