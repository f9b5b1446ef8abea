import Mathlib.Tactic.SplitIfs
import Mathlib.Tactic.Tauto
import SecretScan.Alphabet
import SecretScan.Proofs.Tally

/-!
# Bytes and characters

The alphabet of a text is found byte by byte, and no byte is told from which character it comes. A
character of ASCII is encoded as the one byte of its own number; every other character begins with a
byte from 128 on (`le_head_utf8EncodeChar`). The signs of all alphabets are characters of ASCII, so
of signs it is the same to ask the bytes or the characters,

```
areSigns sign (text.flatMap utf8EncodeChar) = text.all sign
```

and an alphabet is a class of characters after all (`classify_eq`). Texts of one class can be
joined; the two forms of base64 are no such class together, and `classify_append_eq_generic_iff`
says when a joined text leaves both.
-/

namespace SecretScan.Alphabet

/-! ### Signs are characters of ASCII -/

theorem toNat_lt_of_isAlphanum {c : Char} (h : c.isAlphanum = true) : c.toNat < 128 := by
  unfold Char.isAlphanum Char.isAlpha Char.isUpper Char.isLower Char.isDigit at h
  simp only [Bool.or_eq_true, Bool.and_eq_true, decide_eq_true_eq, UInt32.le_iff_toNat_le] at h
  simp at h
  omega

/-- A hexadecimal digit is a letter or a digit. -/
theorem isAlphanum_of_isHexSign {c : Char} (h : isHexSign c = true) : c.isAlphanum = true := by
  unfold isHexSign Char.isDigit at h
  unfold Char.isAlphanum Char.isAlpha Char.isUpper Char.isLower Char.isDigit
  simp only [Bool.or_eq_true, Bool.and_eq_true, decide_eq_true_eq, Char.le_def,
    UInt32.le_iff_toNat_le] at h ⊢
  simp at h ⊢
  omega

theorem toNat_lt_of_isHexSign {c : Char} (h : isHexSign c = true) : c.toNat < 128 :=
  toNat_lt_of_isAlphanum (isAlphanum_of_isHexSign h)

theorem toNat_lt_of_isPlainSign {c : Char} (h : isPlainSign c = true) : c.toNat < 128 := by
  simp only [isPlainSign, Bool.or_eq_true, beq_iff_eq] at h
  rcases h with ((h | rfl) | rfl) | rfl
  · exact toNat_lt_of_isAlphanum h
  · decide
  · decide
  · decide

theorem toNat_lt_of_isAddressSign {c : Char} (h : isAddressSign c = true) : c.toNat < 128 := by
  simp only [isAddressSign, Bool.or_eq_true, beq_iff_eq] at h
  rcases h with ((h | rfl) | rfl) | rfl
  · exact toNat_lt_of_isAlphanum h
  · decide
  · decide
  · decide

/-! ### Encoded characters -/

theorem toNat_ofUInt8_ofNat {n : Nat} (hn : n < 256) :
    (Char.ofUInt8 (.ofNat n)).toNat = n := by
  show (UInt8.ofNat n).toUInt32.toNat = n
  rw [UInt8.toNat_toUInt32, UInt8.toNat_ofNat_of_lt' hn]

theorem utf8EncodeChar_of_lt {c : Char} (hc : c.toNat < 128) :
    (String.utf8EncodeChar c).map Char.ofUInt8 = [c] := by
  have hle : c.val.toNat ≤ 127 := Nat.le_of_lt_succ hc
  have hsame : Char.ofUInt8 (.ofNat c.val.toNat) = c :=
    Char.toNat_inj.mp (toNat_ofUInt8_ofNat (by omega))
  rw [String.utf8EncodeChar, if_pos hle, List.map_singleton, hsame]

/-- **Other characters** begin with a byte that is no character of ASCII. -/
theorem le_head_utf8EncodeChar {c : Char} (hc : 128 ≤ c.toNat) :
    ∃ b ∈ String.utf8EncodeChar c, 128 ≤ (Char.ofUInt8 b).toNat := by
  have hgt : ¬ c.val.toNat ≤ 127 := Nat.not_le.mpr hc
  -- Two, three or four bytes; the first is the same but for its leading bits.
  rw [String.utf8EncodeChar, if_neg hgt]
  split
  · refine ⟨_, List.mem_cons_self, ?_⟩
    rw [toNat_ofUInt8_ofNat (by omega)]
    omega
  · split
    · refine ⟨_, List.mem_cons_self, ?_⟩
      rw [toNat_ofUInt8_ofNat (by omega)]
      omega
    · refine ⟨_, List.mem_cons_self, ?_⟩
      rw [toNat_ofUInt8_ofNat (by omega)]
      omega

section Signs

variable {sign : Char → Bool} (hsign : ∀ c, sign c = true → c.toNat < 128)

include hsign

theorem areSigns_utf8EncodeChar (c : Char) :
    areSigns sign (String.utf8EncodeChar c) = sign c := by
  rcases Nat.lt_or_ge c.toNat 128 with hlt | hge
  · have hmap : areSigns sign (String.utf8EncodeChar c) =
        ((String.utf8EncodeChar c).map Char.ofUInt8).all sign := List.all_map.symm
    rw [hmap, utf8EncodeChar_of_lt hlt, List.all_cons, List.all_nil, Bool.and_true]
  · -- Neither the character nor its first byte is a sign.
    obtain ⟨b, hb, hlarge⟩ := le_head_utf8EncodeChar hge
    have hbyte : areSigns sign (String.utf8EncodeChar c) = false :=
      List.all_eq_false.mpr ⟨b, hb, fun h ↦ Nat.not_lt.mpr hlarge (hsign _ h)⟩
    rw [hbyte, eq_comm, ← Bool.not_eq_true]
    exact fun h ↦ Nat.not_lt.mpr hge (hsign c h)

/-- **Bytes and characters agree** about signs. -/
theorem areSigns_flatMap (text : List Char) :
    areSigns sign (text.flatMap String.utf8EncodeChar) = text.all sign := by
  have hchar (c : Char) : (String.utf8EncodeChar c).all (fun b ↦ sign (Char.ofUInt8 b)) = sign c :=
    areSigns_utf8EncodeChar hsign c
  rw [areSigns, List.all_flatMap]
  simp only [hchar]

end Signs

/-! ### Classes of characters -/

variable {text a b : List Char}

theorem isEmpty_flatMap_utf8EncodeChar (text : List Char) :
    (text.flatMap String.utf8EncodeChar).isEmpty = text.isEmpty := by
  rw [Bool.eq_iff_iff, List.isEmpty_iff, List.isEmpty_iff, List.flatMap_eq_nil_iff,
    List.eq_nil_iff_forall_not_mem]
  exact forall₂_congr fun c _ ↦ iff_false_intro String.utf8EncodeChar_ne_nil

/-- **The alphabet by characters.** -/
theorem classify_eq (text : List Char) :
    classify text =
      if text.isEmpty then .generic
      else if text.all isHexSign then .hex
      else if text.all isPlainSign || text.all isAddressSign then .base64
      else .generic := by
  rw [classify, ofBytes, isEmpty_flatMap_utf8EncodeChar,
    areSigns_flatMap fun _ ↦ toNat_lt_of_isHexSign,
    areSigns_flatMap fun _ ↦ toNat_lt_of_isPlainSign,
    areSigns_flatMap fun _ ↦ toNat_lt_of_isAddressSign]

/-! ### The signs written out -/

/-- The hexadecimal digits. -/
def hexDigits : List Char := "0123456789ABCDEFabcdef".toList

/-- The signs of plain base64. -/
def plainSigns : List Char :=
  "+/0123456789=ABCDEFGHIJKLMNOPQRSTUVWXYZabcdefghijklmnopqrstuvwxyz".toList

/-- The signs of base64 for addresses. -/
def addressSigns : List Char :=
  "-0123456789=ABCDEFGHIJKLMNOPQRSTUVWXYZ_abcdefghijklmnopqrstuvwxyz".toList

/-- A list of signs that is complete among the characters of ASCII is complete. -/
theorem mem_iff_of_filter {sign : Char → Bool} (hsign : ∀ c, sign c = true → c.toNat < 128)
    {signs : List Char} (hsigns : Tally.asciiChars.filter sign = signs) {c : Char} :
    c ∈ signs ↔ sign c = true := by
  rw [← hsigns, List.mem_filter, Tally.mem_asciiChars]
  exact and_iff_right_of_imp (hsign c)

theorem mem_hexDigits_iff {c : Char} : c ∈ hexDigits ↔ isHexSign c = true :=
  mem_iff_of_filter (fun _ ↦ toNat_lt_of_isHexSign) (by decide +kernel)

theorem mem_plainSigns_iff {c : Char} : c ∈ plainSigns ↔ isPlainSign c = true :=
  mem_iff_of_filter (fun _ ↦ toNat_lt_of_isPlainSign) (by decide +kernel)

theorem mem_addressSigns_iff {c : Char} : c ∈ addressSigns ↔ isAddressSign c = true :=
  mem_iff_of_filter (fun _ ↦ toNat_lt_of_isAddressSign) (by decide +kernel)

theorem all_iff_subset {sign : Char → Bool} {signs : List Char}
    (hmem : ∀ {c}, c ∈ signs ↔ sign c = true) : text.all sign = true ↔ text ⊆ signs := by
  rw [List.all_eq_true, List.subset_def]
  exact forall₂_congr fun _ _ ↦ hmem.symm

theorem classify_eq_hex_iff : classify text = .hex ↔ text ≠ [] ∧ text ⊆ hexDigits := by
  rw [classify_eq, ← all_iff_subset mem_hexDigits_iff, ne_eq, ← List.isEmpty_iff]
  split_ifs <;> simp_all

theorem classify_eq_base64_iff :
    classify text = .base64 ↔
      text ≠ [] ∧ ¬ text ⊆ hexDigits ∧ (text ⊆ plainSigns ∨ text ⊆ addressSigns) := by
  rw [classify_eq, ← all_iff_subset mem_hexDigits_iff, ← all_iff_subset mem_plainSigns_iff,
    ← all_iff_subset mem_addressSigns_iff, ne_eq, ← List.isEmpty_iff]
  split_ifs <;> simp_all

theorem hexDigits_subset : hexDigits ⊆ plainSigns := by
  intro c hc
  rw [mem_plainSigns_iff, isPlainSign, isAlphanum_of_isHexSign (mem_hexDigits_iff.mp hc)]
  rfl

/-- A text has an alphabet if there is something in it and one form of base64 has all its signs. -/
theorem classify_ne_generic_iff :
    classify text ≠ .generic ↔ text ≠ [] ∧ (text ⊆ plainSigns ∨ text ⊆ addressSigns) := by
  cases h : classify text with
  | hex =>
    obtain ⟨hne, hhex⟩ := classify_eq_hex_iff.mp h
    exact iff_of_true Alphabet.noConfusion ⟨hne, .inl (List.Subset.trans hhex hexDigits_subset)⟩
  | base64 =>
    obtain ⟨hne, -, hsigns⟩ := classify_eq_base64_iff.mp h
    exact iff_of_true Alphabet.noConfusion ⟨hne, hsigns⟩
  | generic =>
    refine iff_of_false (fun hne ↦ hne rfl) fun ⟨hne, hsigns⟩ ↦ ?_
    by_cases hhex : text ⊆ hexDigits
    · exact Alphabet.noConfusion (h.symm.trans (classify_eq_hex_iff.mpr ⟨hne, hhex⟩))
    · exact Alphabet.noConfusion (h.symm.trans (classify_eq_base64_iff.mpr ⟨hne, hhex, hsigns⟩))

theorem classify_eq_generic_iff :
    classify text = .generic ↔ text = [] ∨ (¬ text ⊆ plainSigns ∧ ¬ text ⊆ addressSigns) := by
  rw [← not_iff_not, ← ne_eq, classify_ne_generic_iff, not_or, not_and_or, not_not, not_not]

/-! ### Joined texts -/

theorem classify_append_eq_hex_iff (ha : a ≠ []) (hb : b ≠ []) :
    classify (a ++ b) = .hex ↔ classify a = .hex ∧ classify b = .hex := by
  rw [classify_eq_hex_iff, classify_eq_hex_iff, classify_eq_hex_iff, List.append_subset]
  simp [ha, hb]

theorem classify_append_ne_generic_iff (ha : a ≠ []) :
    classify (a ++ b) ≠ .generic ↔
      (a ⊆ plainSigns ∧ b ⊆ plainSigns) ∨ (a ⊆ addressSigns ∧ b ⊆ addressSigns) := by
  rw [classify_ne_generic_iff, List.append_subset, List.append_subset]
  exact and_iff_right (List.append_ne_nil_of_left_ne_nil ha b)

/-- What has no alphabet cannot be joined to something that has one. -/
theorem classify_append_eq_generic (ha : a ≠ []) (hb : b ≠ [])
    (h : classify a = .generic ∨ classify b = .generic) : classify (a ++ b) = .generic := by
  by_contra hne
  have hsigns := (classify_append_ne_generic_iff ha).mp hne
  rcases h with h | h
  · exact classify_ne_generic_iff.mpr ⟨ha, hsigns.imp And.left And.left⟩ h
  · exact classify_ne_generic_iff.mpr ⟨hb, hsigns.imp And.right And.right⟩ h

section Forms

variable (h : text ⊆ plainSigns ∨ text ⊆ addressSigns)

include h

/-- A text of signs belongs to one form of base64 unless it has one of the two signs that this form
lacks. -/
theorem subset_iff_of_lacks {sign : Char → Bool} {signs : List Char}
    (hmem : ∀ {c}, c ∈ signs ↔ sign c = true) {x y : Char} (hx : sign x = false)
    (hy : sign y = false)
    (hsign : ∀ c, isPlainSign c = true ∨ isAddressSign c = true → sign c = true ∨ c = x ∨ c = y) :
    text ⊆ signs ↔ ¬ (x ∈ text ∨ y ∈ text) := by
  constructor
  · rintro hsub (hc | hc)
    · exact Bool.false_ne_true (hx.symm.trans (hmem.mp (hsub hc)))
    · exact Bool.false_ne_true (hy.symm.trans (hmem.mp (hsub hc)))
  · intro hnone c hc
    have heither := h.imp (fun h ↦ mem_plainSigns_iff.mp (h hc)) fun h ↦
      mem_addressSigns_iff.mp (h hc)
    rcases hsign c heither with hmember | rfl | rfl
    · exact hmem.mpr hmember
    · exact absurd (.inl hc) hnone
    · exact absurd (.inr hc) hnone

theorem subset_plainSigns_iff : text ⊆ plainSigns ↔ ¬ ('-' ∈ text ∨ '_' ∈ text) := by
  refine subset_iff_of_lacks h mem_plainSigns_iff (by decide) (by decide) fun c hc ↦ ?_
  simp only [isPlainSign, isAddressSign, Bool.or_eq_true, beq_iff_eq] at hc ⊢
  tauto

theorem subset_addressSigns_iff : text ⊆ addressSigns ↔ ¬ ('+' ∈ text ∨ '/' ∈ text) := by
  refine subset_iff_of_lacks h mem_addressSigns_iff (by decide) (by decide) fun c hc ↦ ?_
  simp only [isPlainSign, isAddressSign, Bool.or_eq_true, beq_iff_eq] at hc ⊢
  tauto

end Forms

/-- **Joined texts lose their alphabet** if one has a sign of the plain form only, and the other one
of the form for addresses only. -/
theorem classify_append_eq_generic_iff (ha : classify a ≠ .generic) (hb : classify b ≠ .generic) :
    classify (a ++ b) = .generic ↔
      (('+' ∈ a ∨ '/' ∈ a) ∧ ('-' ∈ b ∨ '_' ∈ b)) ∨
        (('-' ∈ a ∨ '_' ∈ a) ∧ ('+' ∈ b ∨ '/' ∈ b)) := by
  obtain ⟨hne, hsigns⟩ := classify_ne_generic_iff.mp ha
  obtain ⟨-, hsigns'⟩ := classify_ne_generic_iff.mp hb
  have hplain := subset_plainSigns_iff hsigns
  have haddress := subset_addressSigns_iff hsigns
  have hplain' := subset_plainSigns_iff hsigns'
  have haddress' := subset_addressSigns_iff hsigns'
  rw [← not_iff_not, ← ne_eq, classify_append_ne_generic_iff hne, hplain, haddress, hplain',
    haddress']
  -- Each text has signs of one kind only, and the rest is a matter of propositions.
  rw [hplain, haddress] at hsigns
  rw [hplain', haddress'] at hsigns'
  clear ha hb hne hplain haddress hplain' haddress'
  generalize ('+' ∈ a ∨ '/' ∈ a) = p at *
  generalize ('-' ∈ a ∨ '_' ∈ a) = q at *
  generalize ('+' ∈ b ∨ '/' ∈ b) = p' at *
  generalize ('-' ∈ b ∨ '_' ∈ b) = q' at *
  tauto

/-- **Alphabets are classes of characters.** The bytes of a text decide the same as its characters:
it is hexadecimal if there are characters and all are hexadecimal digits, base64 if they are not but
all are signs of one of its two forms, and has no alphabet otherwise. Of two texts that are not
empty, joined: the whole is hexadecimal if both are; it has no alphabet if one of them has none; and
if both have one, it has none exactly if a sign of the plain form only stands in one text and a sign
of the form for addresses only in the other. -/
theorem classify_by_characters :
    (∀ text : List Char,
      classify text = ofBytes (String.ofList text).toUTF8.data.toList ∧
      (classify text = .hex ↔ text ≠ [] ∧ text ⊆ hexDigits) ∧
      (classify text = .base64 ↔
        text ≠ [] ∧ ¬ text ⊆ hexDigits ∧ (text ⊆ plainSigns ∨ text ⊆ addressSigns)) ∧
      (classify text = .generic ↔
        text = [] ∨ (¬ text ⊆ plainSigns ∧ ¬ text ⊆ addressSigns))) ∧
    ∀ a b : List Char, a ≠ [] → b ≠ [] →
      (classify (a ++ b) = .hex ↔ classify a = .hex ∧ classify b = .hex) ∧
      (classify a = .generic ∨ classify b = .generic → classify (a ++ b) = .generic) ∧
      (classify a ≠ .generic → classify b ≠ .generic →
        (classify (a ++ b) = .generic ↔
          (('+' ∈ a ∨ '/' ∈ a) ∧ ('-' ∈ b ∨ '_' ∈ b)) ∨
            (('-' ∈ a ∨ '_' ∈ a) ∧ ('+' ∈ b ∨ '/' ∈ b)))) := by
  refine ⟨fun text ↦ ⟨?_, classify_eq_hex_iff, classify_eq_base64_iff, classify_eq_generic_iff⟩,
    fun a b ha hb ↦ ⟨classify_append_eq_hex_iff ha hb, classify_append_eq_generic ha hb,
      classify_append_eq_generic_iff⟩⟩
  rw [classify, String.toUTF8_eq_toByteArray, String.toByteArray_ofList, List.utf8Encode,
    List.toList_data_toByteArray]

/-- One text in each form of base64, and both together. -/
theorem classify_by_characters_joined :
    classify ['x', '+'] = .base64 ∧ classify ['x', '-'] = .base64 ∧
      classify (['x', '+'] ++ ['x', '-']) = .generic := by
  obtain ⟨-, hjoined⟩ := classify_by_characters
  have hplain : classify ['x', '+'] = .base64 := by decide
  have haddress : classify ['x', '-'] = .base64 := by decide
  obtain ⟨-, -, hgeneric⟩ := hjoined ['x', '+'] ['x', '-'] (by decide) (by decide)
  exact ⟨hplain, haddress, (hgeneric (by rw [hplain]; decide) (by rw [haddress]; decide)).mpr
    (by decide)⟩

end SecretScan.Alphabet
