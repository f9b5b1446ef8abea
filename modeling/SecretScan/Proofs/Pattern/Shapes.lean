import SecretScan.Proofs.Locality

/-!
# What the shapes of the table match

The expressions of the table are chains of a few shapes, and here is what each shape matches. The
words of a chain are the words of its links, one behind the other (`words_chain`). A run of signs
matches as many signs as its bounds allow, a word in any mixture of cases whatever has that word
for its small letters, and the rest of a line anything without a line feed.

No expression of the table asks for a condition, so a pattern fires on a text if one of the words of
its expression stands there (`fires_iff_exists_word`).
-/

namespace SecretScan

namespace Builtin

/-! ### Letters in either case -/

theorem isUpper_iff {c : Char} : c.isUpper = true ↔ 65 ≤ c.toNat ∧ c.toNat ≤ 90 :=
  decide_eq_true_iff

theorem isLower_iff {c : Char} : c.isLower = true ↔ 97 ≤ c.toNat ∧ c.toNat ≤ 122 := by
  unfold Char.isLower
  rw [Bool.and_eq_true, decide_eq_true_iff, decide_eq_true_iff]
  rfl

theorem toNat_toLower (c : Char) :
    c.toLower.toNat = if 65 ≤ c.toNat ∧ c.toNat ≤ 90 then c.toNat + 32 else c.toNat := by
  unfold Char.toLower
  split
  · next h =>
    have hcapital : 65 ≤ c.toNat ∧ c.toNat ≤ 90 := h
    rw [if_pos hcapital]
    show (c.val + ('a'.val - 'A'.val)).toNat = c.toNat + 32
    rw [UInt32.toNat_add]
    show (c.toNat + 32) % 4294967296 = c.toNat + 32
    omega
  · next h =>
    have hother : ¬ (65 ≤ c.toNat ∧ c.toNat ≤ 90) := h
    rw [if_neg hother]

theorem toNat_toUpper (c : Char) :
    c.toUpper.toNat = if 97 ≤ c.toNat ∧ c.toNat ≤ 122 then c.toNat - 32 else c.toNat := by
  unfold Char.toUpper
  split
  · next h =>
    have hsmall : 97 ≤ c.toNat ∧ c.toNat ≤ 122 := h
    rw [if_pos hsmall]
    show (c.val + ('A'.val - 'a'.val)).toNat = c.toNat - 32
    rw [UInt32.toNat_add]
    show (c.toNat + 4294967264) % 4294967296 = c.toNat - 32
    omega
  · next h =>
    have hother : ¬ (97 ≤ c.toNat ∧ c.toNat ≤ 122) := h
    rw [if_neg hother]

/-- A small letter is the small letter of itself and of its capital letter. -/
theorem toLower_eq_iff {c d : Char} (hc : c.isLower = true) :
    d.toLower = c ↔ d = c ∨ d = c.toUpper := by
  rw [isLower_iff] at hc
  rw [← Char.toNat_inj, ← Char.toNat_inj, ← Char.toNat_inj, toNat_toLower, toNat_toUpper,
    if_pos hc]
  split <;> omega

theorem toLower_eq_iff_of_not_isAlpha {c d : Char} (hc : c.isAlpha = false) :
    d.toLower = c ↔ d = c := by
  obtain ⟨hcapital, hsmall⟩ := Bool.or_eq_false_iff.mp hc
  rw [← Bool.not_eq_true, isUpper_iff] at hcapital
  rw [← Bool.not_eq_true, isLower_iff] at hsmall
  rw [← Char.toNat_inj, ← Char.toNat_inj, toNat_toLower]
  split <;> omega

open Regex Expr

variable {e : Plain} {es fs : List Plain} {s : CharSet} {c : Char} {w : List Char}

/-! ### Letters and digits -/

theorem contains_capital : capital.contains c.toNat = c.isUpper :=
  (Bool.decide_and ('A'.val ≤ c.val) (c.val ≤ 'Z'.val)).symm

theorem contains_letter : (CharSet.union small capital).contains c.toNat = c.isAlpha := by
  rw [CharSet.contains, contains_capital, Bool.or_comm]
  rfl

theorem contains_alphanumeric : alphanumeric.contains c.toNat = c.isAlphanum := by
  show (CharSet.union .asciiDigit (.union small capital)).contains c.toNat = c.isAlphanum
  rw [CharSet.contains, contains_letter, Bool.or_comm]
  rfl

/-! ### Single characters -/

theorem contains_single {d : Char} :
    (CharSet.single c).contains d.toNat = true ↔ d = c := by
  rw [CharSet.single, CharSet.contains, Bool.and_eq_true, decide_eq_true_iff, decide_eq_true_iff,
    ← Nat.le_antisymm_iff, Char.toNat_inj, eq_comm]

/-- Every character but one. -/
theorem forall_contains_compl_single :
    (∀ d ∈ w, (CharSet.compl (.single c)).contains d.toNat = true) ↔ c ∉ w := by
  have hother (d : Char) : (CharSet.compl (.single c)).contains d.toNat = true ↔ d ≠ c := by
    rw [CharSet.contains, Bool.not_eq_true', ← Bool.not_eq_true, contains_single]
  simp only [hother]
  exact ⟨fun h hc ↦ h c hc rfl, fun h d hd hdc ↦ h (hdc ▸ hd)⟩

theorem mem_words_sign : w ∈ (sign c).words ↔ w = [c] := by
  constructor
  · rintro ⟨d, rfl, hd⟩
    rw [contains_single.mp hd]
  · rintro rfl
    exact ⟨c, rfl, contains_single.mpr rfl⟩

theorem mem_words_quoteMark :
    w ∈ quoteMark.words ↔ ∃ d, (d = '\'' ∨ d = '"') ∧ w = [d] := by
  have hmark (d : Char) :
      (CharSet.union (.single '\'') (.single '"')).contains d.toNat = true ↔
        d = '\'' ∨ d = '"' := by
    rw [CharSet.contains, Bool.or_eq_true, contains_single, contains_single]
  constructor
  · rintro ⟨d, rfl, hd⟩
    exact ⟨d, (hmark d).mp hd, rfl⟩
  · rintro ⟨d, hd, rfl⟩
    exact ⟨d, rfl, (hmark d).mpr hd⟩

/-! ### Runs -/

/-- A number of signs. -/
theorem mem_words_step_pow {n : ℕ} :
    w ∈ (words (α := Assertion) (.step s)) ^ n ↔
      w.length = n ∧ ∀ c ∈ w, s.contains c.toNat = true := by
  induction n generalizing w with
  | zero =>
    rw [pow_zero, Language.mem_one, List.length_eq_zero_iff, iff_self_and]
    rintro rfl
    exact List.forall_mem_nil _
  | succ n ih =>
    rw [pow_succ', Language.mem_mul]
    constructor
    · rintro ⟨-, ⟨c, rfl, hc⟩, v, hv, rfl⟩
      obtain ⟨rfl, hall⟩ := ih.mp hv
      exact ⟨rfl, List.forall_mem_cons.mpr ⟨hc, hall⟩⟩
    · rintro ⟨hlength, hall⟩
      obtain ⟨c, v, rfl⟩ := List.exists_cons_of_length_eq_add_one hlength
      rw [List.forall_mem_cons] at hall
      exact ⟨[c], ⟨c, rfl, hall.1⟩, v, ih.mpr ⟨Nat.succ.inj hlength, hall.2⟩, rfl⟩

/-- **A run of signs** within its bounds. -/
theorem mem_words_run {least most : ℕ} :
    w ∈ (run least most s).words ↔
      (least ≤ w.length ∧ w.length ≤ most) ∧ ∀ c ∈ w, s.contains c.toNat = true := by
  constructor
  · rintro ⟨n, hleast, hmost, hn⟩
    obtain ⟨rfl, hall⟩ := mem_words_step_pow.mp hn
    exact ⟨⟨hleast, hmost most rfl⟩, hall⟩
  · rintro ⟨⟨hleast, hmost⟩, hall⟩
    refine ⟨w.length, hleast, fun m hm ↦ ?_, mem_words_step_pow.mpr ⟨rfl, hall⟩⟩
    rwa [← Option.some.inj hm]

/-- A character that may be missing. -/
theorem mem_words_optional :
    w ∈ (words (α := Assertion) (.times (sign c) 0 (some 1))) ↔ w = [] ∨ w = [c] := by
  refine mem_words_run.trans ⟨?_, ?_⟩
  · rintro ⟨⟨-, hlength⟩, hall⟩
    rcases w with - | ⟨d, - | ⟨d', w⟩⟩
    · exact .inl rfl
    · exact .inr (congrArg ([·]) (contains_single.mp (hall d List.mem_cons_self)))
    · simp only [List.length_cons] at hlength
      omega
  · rintro (rfl | rfl)
    · exact ⟨⟨Nat.le_refl 0, Nat.zero_le 1⟩, List.forall_mem_nil _⟩
    · exact ⟨⟨Nat.zero_le 1, Nat.le_refl 1⟩,
        List.forall_mem_singleton.mpr (contains_single.mpr rfl)⟩

/-- **The rest of a line.** -/
theorem mem_words_restOfLine : w ∈ restOfLine.words ↔ '\n' ∉ w := by
  rw [← forall_contains_compl_single]
  constructor
  · rintro ⟨n, -, -, hn⟩
    exact (mem_words_step_pow.mp hn).2
  · intro h
    exact ⟨w.length, Nat.zero_le _, nofun, mem_words_step_pow.mpr ⟨rfl, h⟩⟩

/-! ### Chains -/

/-- **The words of a chain** are those of its links, one behind the other. -/
theorem words_chain (es : List Plain) : (chain es).words = (es.map words).prod := by
  induction es with
  | nil => rfl
  | cons e es ih =>
    cases es with
    | nil => exact (List.prod_singleton).symm
    | cons f es =>
      rw [List.map_cons, List.prod_cons, ← ih]
      rfl

theorem mem_words_chain_cons :
    w ∈ (chain (e :: es)).words ↔ ∃ u ∈ e.words, ∃ v ∈ (chain es).words, u ++ v = w := by
  rw [words_chain, List.map_cons, List.prod_cons, ← words_chain, Language.mem_mul]

theorem mem_words_chain_append :
    w ∈ (chain (es ++ fs)).words ↔
      ∃ u ∈ (chain es).words, ∃ v ∈ (chain fs).words, u ++ v = w := by
  rw [words_chain, List.map_append, List.prod_append, ← words_chain, ← words_chain,
    Language.mem_mul]

theorem mem_words_chain_literal {text : String} :
    w ∈ (chain (literal text)).words ↔ w = text.toList := by
  rw [literal]
  induction text.toList generalizing w with
  | nil => exact Language.mem_one w
  | cons c cs ih =>
    rw [List.map_cons, mem_words_chain_cons]
    constructor
    · rintro ⟨u, hu, v, hv, rfl⟩
      rw [mem_words_sign.mp hu, ih.mp hv]
      rfl
    · rintro rfl
      exact ⟨[c], mem_words_sign.mpr rfl, cs, ih.mpr rfl, rfl⟩

/-- **A word in any mixture of cases.** -/
theorem mem_words_chain_anyCase {word : String} (hword : word.toList.all Char.isLower = true) :
    w ∈ (chain (anyCase word)).words ↔ w.map Char.toLower = word.toList := by
  rw [List.all_eq_true] at hword
  rw [anyCase]
  generalize word.toList = letters at hword ⊢
  induction letters generalizing w with
  | nil => exact (Language.mem_one w).trans List.map_eq_nil_iff.symm
  | cons c cs ih =>
    rw [List.forall_mem_cons] at hword
    have hletter (d : Char) :
        (CharSet.union (.single c) (.single c.toUpper)).contains d.toNat = true ↔
          d.toLower = c := by
      rw [CharSet.contains, Bool.or_eq_true, contains_single, contains_single,
        toLower_eq_iff hword.1]
    rw [List.map_cons, mem_words_chain_cons, List.map_eq_cons_iff]
    constructor
    · rintro ⟨-, ⟨d, rfl, hd⟩, v, hv, rfl⟩
      exact ⟨d, v, rfl, (hletter d).mp hd, (ih hword.2).mp hv⟩
    · rintro ⟨d, v, rfl, hd, hv⟩
      exact ⟨[d], ⟨d, rfl, (hletter d).mpr hd⟩, v, (ih hword.2).mpr hv, rfl⟩

/-! ### Patterns -/

/-- **A pattern of the table fires** where a word of its expression stands. -/
theorem fires_iff_exists_word {p : Pattern} (hp : p ∈ patterns) {text : String} :
    p.Fires text ↔ ∃ v ∈ p.regex.expr.words, v <:+: text.toList := by
  rw [fires_iff hp, Regex.isMatch, Expr.isMatch_iff (isPlain_patterns p hp)]

end Builtin

end SecretScan
