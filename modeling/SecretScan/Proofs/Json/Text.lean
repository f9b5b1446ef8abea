import Mathlib.Tactic.IntervalCases
import SecretScan.Json.Reader
import SecretScan.Json.Writer
import SecretScan.Proofs.Notation
import SecretScan.Proofs.Traversal

/-!
# Texts in JSON

A character may be written in several ways between quotation marks: as it is, by a letter behind a
backslash, by its code in hexadecimal digits, and beyond sixteen bits by the codes of two halves.
`SpellsChar` lists them, and `SpellsText` puts the spellings of the characters of a text one behind
the other. Whichever are chosen, reading gives back the text (`readString_of_spellsText`), and the
writer chooses among them (`spellsText_flatMap_escape`).
-/

namespace SecretScan.Json

/-- The letters behind a backslash, and the characters they stand for. -/
def shortEscapes : List (Char × Char) :=
  [('"', '"'), ('\\', '\\'), ('/', '/'), ('b', '\x08'), ('f', '\x0c'), ('n', '\n'), ('r', '\r'),
    ('t', '\t')]

/-- Four hexadecimal digits make a number. -/
structure IsHex (n : ℕ) (ds : List Char) : Prop where
  /-- There are four. -/
  length : ds.length = 4
  /-- They are hexadecimal, small or capital. -/
  digits : ds.all isHexDigit = true
  /-- They make the number. -/
  value : ds.foldl (fun n c ↦ 16 * n + Unicode.hexValue c) 0 = n

/-- The ways to write a character between quotation marks. -/
inductive SpellsChar : Char → List Char → Prop where
  /-- As it is, unless it is a control character, the quotation mark or the backslash. -/
  | plain {c : Char} (hcontrol : 32 ≤ c.toNat) (hquote : c ≠ '"') (hslash : c ≠ '\\') :
      SpellsChar c [c]
  /-- By a letter. -/
  | short {e c : Char} (h : (e, c) ∈ shortEscapes) : SpellsChar c ['\\', e]
  /-- By its code. -/
  | code {c : Char} {ds : List Char} (h : IsHex c.toNat ds) : SpellsChar c ('\\' :: 'u' :: ds)
  /-- By the codes of two halves, ten bits each, of what is left without the first sixteen bits. -/
  | pair {c : Char} {high low : List Char} (hc : 0x10000 ≤ c.toNat)
      (hhigh : IsHex (0xd800 + (c.toNat - 0x10000) / 0x400) high)
      (hlow : IsHex (0xdc00 + (c.toNat - 0x10000) % 0x400) low) :
      SpellsChar c ('\\' :: 'u' :: (high ++ '\\' :: 'u' :: low))

/-- A text is written character by character. -/
abbrev SpellsText : List Char → List Char → Prop := SpellsEach SpellsChar

/-! ### Reading -/

theorem readHex_of_isHex {n : ℕ} {ds : List Char} (h : IsHex n ds) (rest : List Char) :
    readHex (ds ++ rest) = .ok (n, rest) := by
  have htake : (ds ++ rest).take 4 = ds := by rw [← h.length, List.take_left]
  have hdrop : (ds ++ rest).drop 4 = rest := by rw [← h.length, List.drop_left]
  rw [readHex, htake, hdrop, if_pos ⟨h.length, h.digits⟩, h.value]

/-- The code of a character is none of a half. -/
theorem readUnicode_of_code {c : Char} {ds : List Char} (h : IsHex c.toNat ds) (rest : List Char) :
    readUnicode (ds ++ rest) = .ok (c, rest) := by
  have hvalid : c.toNat < 0xd800 ∨ 0xdfff < c.toNat := by
    rcases c.valid with hlow | hhigh
    · exact .inl hlow
    · exact .inr hhigh.1
  rw [readUnicode, readHex_of_isHex h]
  show (if _ then _ else _) = _
  rw [if_pos hvalid, Char.ofNat_toNat]
  rfl

/-- Two halves are put together. -/
theorem readUnicode_of_halves {n m : ℕ} {high low : List Char} (hhigh : IsHex n high)
    (hlow : IsHex m low) (hn : 0xd800 ≤ n ∧ n ≤ 0xdbff) (hm : 0xdc00 ≤ m ∧ m ≤ 0xdfff)
    (rest : List Char) :
    readUnicode (high ++ '\\' :: 'u' :: (low ++ rest)) =
      .ok (Char.ofNat (0x10000 + (n - 0xd800) * 0x400 + (m - 0xdc00)), rest) := by
  have hfirst : ¬ (n < 0xd800 ∨ 0xdfff < n) := by omega
  have hsecond : ¬ 0xdbff < n := by omega
  rw [readUnicode, readHex_of_isHex hhigh, ok_bind]
  simp only [if_neg hfirst, if_neg hsecond, readHex_of_isHex hlow, ok_bind, if_pos hm]
  rfl

theorem readUnicode_of_pair {c : Char} {high low : List Char} (hc : 0x10000 ≤ c.toNat)
    (hhigh : IsHex (0xd800 + (c.toNat - 0x10000) / 0x400) high)
    (hlow : IsHex (0xdc00 + (c.toNat - 0x10000) % 0x400) low) (rest : List Char) :
    readUnicode (high ++ '\\' :: 'u' :: (low ++ rest)) = .ok (c, rest) := by
  have hmax : c.toNat < 0x110000 := by
    rcases c.valid with hlow | hhigh
    · exact Nat.lt_trans hlow (by decide)
    · exact hhigh.2
  have hsum : 0x10000 + (0xd800 + (c.toNat - 0x10000) / 0x400 - 0xd800) * 0x400 +
      (0xdc00 + (c.toNat - 0x10000) % 0x400 - 0xdc00) = c.toNat := by omega
  rw [readUnicode_of_halves hhigh hlow (by omega) (by omega), hsum, Char.ofNat_toNat]

/-- **A character** is read as what it spells. -/
theorem readEscape_of_spellsChar {c e : Char} {es : List Char}
    (h : SpellsChar c ('\\' :: e :: es)) (rest : List Char) :
    readEscape (e :: (es ++ rest)) = .ok (c, rest) := by
  cases h with
  | short h =>
    simp only [shortEscapes, List.mem_cons, Prod.mk.injEq, List.not_mem_nil, or_false] at h
    rcases h with ⟨rfl, rfl⟩ | ⟨rfl, rfl⟩ | ⟨rfl, rfl⟩ | ⟨rfl, rfl⟩ | ⟨rfl, rfl⟩ | ⟨rfl, rfl⟩ |
      ⟨rfl, rfl⟩ | ⟨rfl, rfl⟩ <;> rfl
  | code h => exact readUnicode_of_code h rest
  | pair hc hhigh hlow =>
    rw [List.append_assoc]
    exact readUnicode_of_pair hc hhigh hlow rest

/-- A character is written as it is, or as something behind a backslash. -/
theorem SpellsChar.plain_or_escape {c : Char} {cs : List Char} (h : SpellsChar c cs) :
    (cs = [c] ∧ 32 ≤ c.toNat ∧ c ≠ '"' ∧ c ≠ '\\') ∨ ∃ e es, cs = '\\' :: e :: es := by
  cases h with
  | plain hcontrol hquote hslash => exact .inl ⟨rfl, hcontrol, hquote, hslash⟩
  | short => exact .inr ⟨_, _, rfl⟩
  | code => exact .inr ⟨_, _, rfl⟩
  | pair => exact .inr ⟨_, _, rfl⟩

/-- **A text** is read up to the mark that ends it. -/
theorem readQuoted_of_spellsText {s ts : List Char} (h : SpellsText s ts) {fuel : ℕ}
    (hfuel : ts.length < fuel) (done rest : List Char) :
    readQuoted fuel done (ts ++ '"' :: rest) = .ok (String.ofList (done.reverse ++ s), rest) := by
  induction h generalizing fuel done with
  | nil =>
    obtain ⟨fuel, rfl⟩ := Nat.exists_eq_succ_of_ne_zero (Nat.ne_zero_of_lt hfuel)
    rw [List.append_nil]
    rfl
  | @cons c cs s ts hc _ ih =>
    obtain ⟨fuel, rfl⟩ := Nat.exists_eq_succ_of_ne_zero (Nat.ne_zero_of_lt hfuel)
    rw [List.length_append] at hfuel
    have hrest : ts.length < fuel := by
      have hpos : 0 < cs.length := by
        rcases hc.plain_or_escape with ⟨rfl, -⟩ | ⟨e, es, rfl⟩
        · exact Nat.one_pos
        · exact Nat.succ_pos _
      omega
    have hdone : (c :: done).reverse ++ s = done.reverse ++ c :: s := by
      rw [List.reverse_cons, List.append_assoc, List.singleton_append]
    rw [← hdone, ← ih hrest]
    rcases hc.plain_or_escape with ⟨rfl, hcontrol, hquote, hslash⟩ | ⟨e, es, rfl⟩
    · show readQuoted (fuel + 1) done (c :: (ts ++ '"' :: rest)) = _
      rw [readQuoted, if_neg hquote, if_neg hslash, if_neg (Nat.not_lt.mpr hcontrol)]
    · have hread := readEscape_of_spellsChar hc (ts ++ '"' :: rest)
      show readQuoted (fuel + 1) done ('\\' :: (e :: (es ++ ts) ++ '"' :: rest)) = _
      rw [List.cons_append, List.append_assoc, readQuoted, if_neg (by decide), if_pos rfl, hread,
        ok_bind]

theorem readString_of_spellsText {s ts : List Char} (h : SpellsText s ts) (rest : List Char) :
    readString (ts ++ '"' :: rest) = .ok (String.ofList s, rest) := by
  have hfuel : ts.length < (ts ++ '"' :: rest).length + 1 := by
    rw [List.length_append]
    omega
  exact readQuoted_of_spellsText h hfuel [] rest

/-! ### Writing -/

/-- Below sixteen, the digit of a number makes the number. -/
theorem hexValue_hexDigit {n : ℕ} (hn : n < 16) :
    isHexDigit (hexDigit n) = true ∧ Unicode.hexValue (hexDigit n) = n := by
  interval_cases n <;> decide

/-- The code of a control character, as the writer has it. -/
theorem isHex_control {n : ℕ} (hn : n < 256) :
    IsHex n ['0', '0', hexDigit (n / 16), hexDigit (n % 16)] := by
  have hhigh := hexValue_hexDigit (n := n / 16) (by omega)
  have hlow := hexValue_hexDigit (n := n % 16) (by omega)
  refine ⟨rfl, ?_, ?_⟩
  · rw [List.all_cons, List.all_cons, List.all_cons, List.all_cons, hhigh.1, hlow.1]
    rfl
  · simp only [List.foldl_cons, List.foldl_nil, hhigh.2, hlow.2]
    have hzero : Unicode.hexValue '0' = 0 := by decide
    rw [hzero]
    omega

theorem spellsChar_escape (c : Char) : SpellsChar c (escape c) := by
  rw [escape.eq_def]
  split
  · exact .short (by decide)
  · exact .short (by decide)
  · exact .short (by decide)
  · exact .short (by decide)
  · exact .short (by decide)
  · exact .short (by decide)
  · exact .short (by decide)
  · next hquote hslash _ _ _ _ _ =>
    split
    · next hcontrol => exact .code (isHex_control (by omega))
    · next hcontrol => exact .plain (Nat.not_lt.mp hcontrol) hquote hslash

/-- **The writer** spells a text. -/
theorem spellsText_flatMap_escape (s : List Char) : SpellsText s (s.flatMap escape) := by
  induction s with
  | nil => exact .nil
  | cons c s ih =>
    rw [List.flatMap_cons]
    exact .cons (spellsChar_escape c) ih

end SecretScan.Json
