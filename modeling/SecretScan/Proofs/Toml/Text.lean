import SecretScan.Proofs.Notation
import SecretScan.Toml.Text

/-!
# Blanks, texts and keys in TOML

What may stand between the parts of a document (`Trivia`), how a line ends (`LineEnd`), and how a
text on one line (`Quoted`) and a key of one part (`SpellsKey`) are written. The lemma beside each
says what its reader does with it: blanks are dropped, and a text or a key is read up to its end.
-/

namespace SecretScan.Toml

/-! ### Blanks and comments -/

/-- Nothing but spaces and tabulations. -/
def Space (cs : List Char) : Prop := ∀ c ∈ cs, c = ' ' ∨ c = '\t'

instance : DecidablePred Space := List.decidableBAll _

theorem space_nil : Space [] := List.forall_mem_nil _

/-- The ends of a line. -/
def Newline (cs : List Char) : Prop := cs = ['\n'] ∨ cs = ['\r', '\n']

/-- What may stand in a comment. -/
def Plain (cs : List Char) : Prop := ∀ c ∈ cs, isPlain c = true

instance : DecidablePred Plain := List.decidableBAll _

/-- Blanks, line ends and comments. -/
inductive Trivia : List Char → Prop where
  /-- There need not be any. -/
  | nil : Trivia []
  /-- A space or a tabulation. -/
  | blank {c : Char} {cs : List Char} (hc : c = ' ' ∨ c = '\t') (h : Trivia cs) : Trivia (c :: cs)
  /-- A line end. -/
  | newline {e cs : List Char} (he : Newline e) (h : Trivia cs) : Trivia (e ++ cs)
  /-- A comment up to a line end. -/
  | comment {text e cs : List Char} (htext : Plain text) (he : Newline e) (h : Trivia cs) :
      Trivia ('#' :: (text ++ (e ++ cs)))

/-- What ends a line in front of a text: blanks, perhaps a comment, and a line end, or blanks alone
where nothing follows. -/
inductive LineEnd : (rest : List Char) → List Char → Prop where
  /-- Blanks and a line end. -/
  | newline {b e rest : List Char} (hb : Space b) (he : Newline e) : LineEnd rest (b ++ e)
  /-- Blanks, a comment and a line end. -/
  | comment {b text e rest : List Char} (hb : Space b) (htext : Plain text) (he : Newline e) :
      LineEnd rest (b ++ '#' :: (text ++ e))
  /-- The end of the document. -/
  | finish {b : List Char} (hb : Space b) : LineEnd [] b

theorem dropSpace_append {b : List Char} (hb : Space b) (cs : List Char) :
    dropSpace (b ++ cs) = dropSpace cs :=
  List.dropWhile_append_of_pos fun c hc ↦ by simpa using hb c hc

theorem dropSpace_cons {c : Char} (hc : c ≠ ' ' ∧ c ≠ '\t') (cs : List Char) :
    dropSpace (c :: cs) = c :: cs :=
  List.dropWhile_cons_of_neg (by simp [hc])

/-- A character that may stand in a comment ends no line. -/
theorem ne_of_isPlain {c : Char} (h : isPlain c = true) : c ≠ '\n' ∧ c ≠ '\r' := by
  constructor
  · rintro rfl
    cases h
  · rintro rfl
    cases h

theorem dropTrivia_newline {e : List Char} (he : Newline e) (inComment : Bool) (cs : List Char) :
    dropTrivia inComment (e ++ cs) = dropTrivia false cs := by
  rcases he with rfl | rfl
  · rfl
  · rfl

theorem dropTrivia_comment {text : List Char} (htext : Plain text) (cs : List Char) :
    dropTrivia true (text ++ cs) = dropTrivia true cs := by
  induction text with
  | nil => rfl
  | cons c text ih =>
    have hc : isPlain c = true := htext c List.mem_cons_self
    obtain ⟨hnewline, hreturn⟩ := ne_of_isPlain hc
    rw [List.cons_append, dropTrivia, if_neg hnewline, if_neg fun h ↦ hreturn h.1, if_pos rfl,
      if_pos hc]
    exact ih fun d hd ↦ htext d (List.mem_cons_of_mem _ hd)

/-- **Blanks, line ends and comments** are dropped. -/
theorem dropTrivia_append {t : List Char} (ht : Trivia t) (cs : List Char) :
    dropTrivia false (t ++ cs) = dropTrivia false cs := by
  induction ht with
  | nil => rfl
  | blank hc _ ih =>
    rcases hc with rfl | rfl
    · exact ih
    · exact ih
  | newline he _ ih => rw [List.append_assoc, dropTrivia_newline he, ih]
  | @comment text e t htext he _ ih =>
    have hmark : dropTrivia false ('#' :: (text ++ (e ++ (t ++ cs)))) =
        dropTrivia true (text ++ (e ++ (t ++ cs))) := rfl
    rw [List.cons_append, List.append_assoc, List.append_assoc, hmark, dropTrivia_comment htext,
      dropTrivia_newline he, ih]

/-- Nothing else is dropped. -/
theorem dropTrivia_cons {c : Char} (hc : c ∉ [' ', '\t', '\n', '\r', '#']) (cs : List Char) :
    dropTrivia false (c :: cs) = c :: cs := by
  simp only [List.mem_cons, List.not_mem_nil, or_false, not_or] at hc
  simp [dropTrivia, hc]

/-- **The end of a line** leads to the next one. -/
theorem dropLine?_append {e rest : List Char} (he : LineEnd rest e) :
    dropLine? (e ++ rest) = some rest := by
  have hnewline {e : List Char} (he : Newline e) :
      ∃ c cs, e ++ rest = c :: cs ∧ (c ≠ ' ' ∧ c ≠ '\t') ∧ c ≠ '#' ∧ isPlain c = false ∧
        dropNewline? (c :: cs) = some rest := by
    rcases he with rfl | rfl
    · exact ⟨_, _, rfl, by decide, by decide, by decide, rfl⟩
    · exact ⟨_, _, rfl, by decide, by decide, by decide, rfl⟩
  cases he with
  | @newline b e _ hb he =>
    obtain ⟨c, cs, heq, hspace, hmark, -, hdrop⟩ := hnewline he
    have hcomment : dropComment (c :: cs) = c :: cs := by
      rw [dropComment.eq_def]
      split
      · next h => exact absurd (List.cons.inj h).1 hmark
      · rfl
    rw [List.append_assoc, dropLine?, dropSpace_append hb, heq, dropSpace_cons hspace, hcomment]
    exact hdrop
  | @comment b text e _ hb htext he =>
    obtain ⟨c, cs, heq, -, -, hplain, hdrop⟩ := hnewline he
    have hcomment : dropComment ('#' :: (text ++ c :: cs)) = c :: cs := by
      show (text ++ c :: cs).dropWhile isPlain = _
      rw [List.dropWhile_append_of_pos htext, List.dropWhile_cons_of_neg (by simp [hplain])]
    rw [List.append_assoc, List.cons_append, List.append_assoc, heq, dropLine?,
      dropSpace_append hb, dropSpace_cons (by decide), hcomment]
    exact hdrop
  | finish hb =>
    rw [dropLine?, dropSpace_append hb]
    rfl

/-! ### Texts -/

/-- The letters behind a backslash, and the characters they stand for. -/
def shortEscapes : List (Char × Char) :=
  [('"', '"'), ('\\', '\\'), ('b', '\x08'), ('t', '\t'), ('n', '\n'), ('f', '\x0c'), ('r', '\r'),
    ('e', '\x1b')]

/-- The letters in front of a code, and the number of its digits. -/
def codeEscapes : List (Char × ℕ) := [('x', 2), ('u', 4), ('U', 8)]

/-- Hexadecimal digits make a number. -/
structure IsHex (width n : ℕ) (ds : List Char) : Prop where
  /-- Their number is given. -/
  length : ds.length = width
  /-- They are hexadecimal, small or capital. -/
  digits : ds.all isHexDigit = true
  /-- They make the number. -/
  value : ds.foldl (fun n c ↦ 16 * n + Unicode.hexValue c) 0 = n

/-- The ways to write a character between quotation marks. -/
inductive SpellsChar : Char → List Char → Prop where
  /-- As it is, unless it is a control character, the quotation mark or the backslash. -/
  | plain {c : Char} (hplain : isPlain c = true) (hquote : c ≠ '"') (hslash : c ≠ '\\') :
      SpellsChar c [c]
  /-- By a letter. -/
  | short {e c : Char} (h : (e, c) ∈ shortEscapes) : SpellsChar c ['\\', e]
  /-- By its code. -/
  | code {e c : Char} {width : ℕ} {ds : List Char} (h : (e, width) ∈ codeEscapes)
      (hds : IsHex width c.toNat ds) : SpellsChar c ('\\' :: e :: ds)

/-- The ways to write a text on one line. -/
inductive Quoted : String → List Char → Prop where
  /-- Between quotation marks, character by character. -/
  | basic {s : String} {ts : List Char} (h : SpellsEach SpellsChar s.toList ts) :
      Quoted s ('"' :: (ts ++ ['"']))
  /-- Between apostrophes, as it is. -/
  | literal {s : String} (hplain : Plain s.toList) (hmark : '\'' ∉ s.toList) :
      Quoted s ('\'' :: (s.toList ++ ['\'']))

theorem ofNatAux_eq {n : ℕ} {c : Char} (h : n = c.toNat) (hn : n.isValidChar) :
    Char.ofNatAux n hn = c := by
  subst h
  rfl

theorem readCodePoint_of_isHex {width : ℕ} {c : Char} {ds : List Char}
    (h : IsHex width c.toNat ds) (rest : List Char) :
    readCodePoint width (ds ++ rest) = some (c, rest) := by
  have htake : (ds ++ rest).take width = ds := by rw [← h.length, List.take_left]
  have hdrop : (ds ++ rest).drop width = rest := by rw [← h.length, List.drop_left]
  have hvalid : (ds.foldl (fun n c ↦ 16 * n + Unicode.hexValue c) 0).isValidChar :=
    h.value ▸ c.valid
  rw [readCodePoint, htake, hdrop, if_pos ⟨h.length, h.digits⟩, dif_pos hvalid,
    ofNatAux_eq h.value]

/-- **A character** is read as what it spells. -/
theorem readEscape_of_spellsChar {c e : Char} {es : List Char}
    (h : SpellsChar c ('\\' :: e :: es)) (rest : List Char) :
    readEscape (e :: (es ++ rest)) = some (c, rest) := by
  cases h with
  | short h =>
    simp only [shortEscapes, List.mem_cons, Prod.mk.injEq, List.not_mem_nil, or_false] at h
    rcases h with ⟨rfl, rfl⟩ | ⟨rfl, rfl⟩ | ⟨rfl, rfl⟩ | ⟨rfl, rfl⟩ | ⟨rfl, rfl⟩ | ⟨rfl, rfl⟩ |
      ⟨rfl, rfl⟩ | ⟨rfl, rfl⟩ <;> rfl
  | code h hds =>
    simp only [codeEscapes, List.mem_cons, Prod.mk.injEq, List.not_mem_nil, or_false] at h
    rcases h with ⟨rfl, rfl⟩ | ⟨rfl, rfl⟩ | ⟨rfl, rfl⟩
    · exact readCodePoint_of_isHex hds rest
    · exact readCodePoint_of_isHex hds rest
    · exact readCodePoint_of_isHex hds rest

/-- A character is written as it is, or as something behind a backslash. -/
theorem SpellsChar.plain_or_escape {c : Char} {cs : List Char} (h : SpellsChar c cs) :
    (cs = [c] ∧ isPlain c = true ∧ c ≠ '"' ∧ c ≠ '\\') ∨ ∃ e es, cs = '\\' :: e :: es := by
  cases h with
  | plain hplain hquote hslash => exact .inl ⟨rfl, hplain, hquote, hslash⟩
  | short => exact .inr ⟨_, _, rfl⟩
  | code => exact .inr ⟨_, _, rfl⟩

/-- **A text between quotation marks** is read up to the mark that ends it. -/
theorem readQuoted_of_spellsEach {s ts : List Char} (h : SpellsEach SpellsChar s ts) {fuel : ℕ}
    (hfuel : ts.length < fuel) (done rest : List Char) :
    readQuoted '"' true false fuel done (ts ++ '"' :: rest) =
      some (String.ofList (done.reverse ++ s), rest) := by
  induction h generalizing fuel done with
  | nil =>
    obtain ⟨fuel, rfl⟩ := Nat.exists_eq_succ_of_ne_zero (Nat.ne_zero_of_lt hfuel)
    rw [List.append_nil]
    rfl
  | @cons c cs s ts hc _ ih =>
    obtain ⟨fuel, rfl⟩ := Nat.exists_eq_succ_of_ne_zero (Nat.ne_zero_of_lt hfuel)
    rw [List.length_append] at hfuel
    have hrest : ts.length < fuel := by
      have hpos : 0 < cs.length := by
        rcases hc.plain_or_escape with ⟨rfl, -⟩ | ⟨e, es, rfl⟩
        · exact Nat.one_pos
        · exact Nat.succ_pos _
      omega
    have hdone : (c :: done).reverse ++ s = done.reverse ++ c :: s := by
      rw [List.reverse_cons, List.append_assoc, List.singleton_append]
    rw [← hdone, ← ih hrest]
    rcases hc.plain_or_escape with ⟨rfl, hplain, hquote, hslash⟩ | ⟨e, es, rfl⟩
    · show readQuoted '"' true false (fuel + 1) done (c :: (ts ++ '"' :: rest)) = _
      rw [readQuoted, if_neg hquote, if_neg fun h ↦ hslash h.1, if_pos hplain]
    · have hread := readEscape_of_spellsChar hc (ts ++ '"' :: rest)
      show readQuoted '"' true false (fuel + 1) done ('\\' :: (e :: (es ++ ts) ++ '"' :: rest)) = _
      rw [List.cons_append, List.append_assoc, readQuoted, if_neg (by decide), if_pos (by decide)]
      simp only [Bool.false_eq_true, if_false, hread]
      rfl

/-- **A text between apostrophes** is read as it is. -/
theorem readQuoted_of_plain {s : List Char} (hplain : Plain s) (hmark : '\'' ∉ s) {fuel : ℕ}
    (hfuel : s.length < fuel) (done rest : List Char) :
    readQuoted '\'' false false fuel done (s ++ '\'' :: rest) =
      some (String.ofList (done.reverse ++ s), rest) := by
  induction s generalizing fuel done with
  | nil =>
    obtain ⟨fuel, rfl⟩ := Nat.exists_eq_succ_of_ne_zero (Nat.ne_zero_of_lt hfuel)
    rw [List.append_nil]
    rfl
  | cons c s ih =>
    obtain ⟨fuel, rfl⟩ := Nat.exists_eq_succ_of_ne_zero (Nat.ne_zero_of_lt hfuel)
    rw [List.length_cons] at hfuel
    rw [List.mem_cons, not_or] at hmark
    have hc : isPlain c = true := hplain c List.mem_cons_self
    have hrest := ih (fun d hd ↦ hplain d (List.mem_cons_of_mem _ hd)) hmark.2
      (Nat.lt_of_succ_lt_succ hfuel) (c :: done)
    rw [List.reverse_cons, List.append_assoc, List.singleton_append] at hrest
    have hescape : ¬ (c = '\\' ∧ false = true) := fun h ↦ Bool.false_ne_true h.2
    rw [List.cons_append, readQuoted, if_neg (Ne.symm hmark.1), if_neg hescape, if_pos hc]
    exact hrest

theorem readLineText_of_quoted {s : String} {q : List Char} (h : Quoted s q) (rest : List Char) :
    readLineText (q ++ rest) = some (s, rest) := by
  cases h with
  | @basic ts h =>
    have hread : readQuoted '"' true false ((ts ++ '"' :: rest).length + 1) [] (ts ++ '"' :: rest) =
        some (String.ofList s.toList, rest) :=
      readQuoted_of_spellsEach h (by rw [List.length_append]; omega) [] rest
    rw [String.ofList_toList] at hread
    rw [List.cons_append, List.append_assoc]
    exact hread
  | literal hplain hmark =>
    have hread : readQuoted '\'' false false ((s.toList ++ '\'' :: rest).length + 1) []
        (s.toList ++ '\'' :: rest) = some (String.ofList s.toList, rest) :=
      readQuoted_of_plain hplain hmark (by rw [List.length_append]; omega) [] rest
    rw [String.ofList_toList] at hread
    rw [List.cons_append, List.append_assoc]
    exact hread

/-- No mark follows, with which an empty text would be taken for the start of several lines. -/
def EndsText (cs : List Char) : Prop := ∀ c ∈ cs.head?, c ≠ '"' ∧ c ≠ '\''

/-- Between quotation marks no character starts with one. -/
theorem head_ne_of_spellsEach {c : Char} {s ts rest : List Char} (h : SpellsEach SpellsChar s ts)
    (hts : ts = c :: rest) : c ≠ '"' := by
  cases h with
  | nil => cases hts
  | cons hc =>
    rcases hc.plain_or_escape with ⟨rfl, -, hquote, -⟩ | ⟨e, es, rfl⟩
    · obtain rfl := (List.cons.inj hts).1
      exact hquote
    · obtain rfl := (List.cons.inj hts).1
      decide

/-- **A text on one line** is read up to its end. -/
theorem readText_of_quoted {s : String} {q : List Char} (h : Quoted s q) {rest : List Char}
    (hrest : EndsText rest) : readText (q ++ rest) = some (s, rest) := by
  -- Two marks at the start are the whole text, and what follows is no mark.
  have hthree {mark : Char} {ts cs : List Char} (hmark : mark = '"' ∨ mark = '\'')
      (hts : ∀ c cs, ts = c :: cs → c ≠ mark) : ts ++ mark :: rest ≠ mark :: mark :: cs := by
    intro heq
    rcases ts with - | ⟨c, ts⟩
    · have hhead : mark ∈ rest.head? := by
        rw [(List.cons.inj heq).2]
        rfl
      rcases hmark with rfl | rfl
      · exact (hrest '"' hhead).1 rfl
      · exact (hrest '\'' hhead).2 rfl
    · exact hts c ts rfl (List.cons.inj heq).1
  rw [← readLineText_of_quoted h rest, readText.eq_def]
  cases h with
  | @basic ts h =>
    rw [List.cons_append, List.append_assoc]
    split
    · next heq =>
      have htail := (List.cons.inj heq).2
      exact absurd htail (hthree (.inl rfl) fun c cs hcs ↦ head_ne_of_spellsEach h hcs)
    · next heq => cases (List.cons.inj heq).1
    · rfl
  | literal hplain hmark =>
    rw [List.cons_append, List.append_assoc]
    split
    · next heq => cases (List.cons.inj heq).1
    · next heq =>
      have htail := (List.cons.inj heq).2
      refine absurd htail (hthree (.inr rfl) fun c cs hcs ↦ ?_)
      rintro rfl
      exact hmark (hcs ▸ List.mem_cons_self)
    · rfl

/-! ### Keys -/

/-- The ways to write a key of one part. -/
inductive SpellsKey : String → List Char → Prop where
  /-- As it is, if it has letters, digits, underscores and hyphens only. -/
  | bare {s : String} (hne : s.toList ≠ []) (h : ∀ c ∈ s.toList, isBare c = true) :
      SpellsKey s s.toList
  /-- As a text on one line. -/
  | quoted {s : String} {q : List Char} (h : Quoted s q) : SpellsKey s q

/-- Whether a key may start with a character. -/
def startsKey (c : Char) : Bool := isBare c || c == '"' || c == '\''

theorem ne_of_startsKey {c d : Char} (hc : startsKey c = true) (hd : startsKey d = false) :
    c ≠ d := by
  rintro rfl
  rw [hc] at hd
  cases hd

theorem SpellsKey.exists_cons {s : String} {ks : List Char} (h : SpellsKey s ks) :
    ∃ c cs, ks = c :: cs ∧ startsKey c = true := by
  cases h with
  | bare hne h =>
    obtain ⟨c, cs, hcons⟩ := List.exists_cons_of_ne_nil hne
    have hc : isBare c = true := h c (hcons ▸ List.mem_cons_self)
    exact ⟨c, cs, hcons, by rw [startsKey, hc, Bool.true_or, Bool.true_or]⟩
  | quoted h =>
    cases h with
    | basic => exact ⟨_, _, rfl, by decide⟩
    | literal => exact ⟨_, _, rfl, by decide⟩

theorem readKeyPart_of_spellsKey {s : String} {ks : List Char} (h : SpellsKey s ks)
    {rest : List Char} (hrest : ∀ c ∈ rest.head?, isBare c = false) :
    readKeyPart (ks ++ rest) = some (s, rest) := by
  cases h with
  | bare hne h =>
    obtain ⟨c, cs, hcons⟩ := List.exists_cons_of_ne_nil hne
    have htake : (s.toList ++ rest).takeWhile isBare = s.toList := takeWhile_append_of_stops h hrest
    have hempty : s.toList.isEmpty = false := List.isEmpty_eq_false_iff.mpr hne
    have hc : isBare c = true := h c (hcons ▸ List.mem_cons_self)
    rw [readKeyPart.eq_def]
    split
    · next heq =>
      rw [hcons] at heq
      obtain rfl := (List.cons.inj heq).1
      cases hc
    · next heq =>
      rw [hcons] at heq
      obtain rfl := (List.cons.inj heq).1
      cases hc
    · simp only [htake, hempty, Bool.false_eq_true, if_false, String.ofList_toList, List.drop_left]
  | @quoted q h =>
    have hline := readLineText_of_quoted h rest
    cases h with
    | basic => exact hline
    | literal => exact hline

/-- **A key of one part** is read with the blanks around it. -/
theorem readKey_of_spellsKey {s : String} {b₁ b₂ ks : List Char} (h₁ : Space b₁) (h₂ : Space b₂)
    (h : SpellsKey s ks) {c : Char} (hc : c = '=' ∨ c = ']') (fuel : ℕ) (rest : List Char) :
    readKey (fuel + 1) (b₁ ++ (ks ++ (b₂ ++ c :: rest))) = some ([], s, c :: rest) := by
  have hspace : c ≠ ' ' ∧ c ≠ '\t' := by rcases hc with rfl | rfl <;> decide
  have hnext : ∀ d ∈ (b₂ ++ c :: rest).head?, isBare d = false := by
    intro d hd
    rcases b₂ with - | ⟨b, b₂⟩
    · obtain rfl := Option.some.inj hd
      rcases hc with rfl | rfl <;> decide
    · obtain rfl := Option.some.inj hd
      rcases h₂ b List.mem_cons_self with rfl | rfl <;> decide
  have hfirst : dropSpace (b₁ ++ (ks ++ (b₂ ++ c :: rest))) = ks ++ (b₂ ++ c :: rest) := by
    obtain ⟨d, ks', rfl, hd⟩ := h.exists_cons
    have hblank : d ≠ ' ' ∧ d ≠ '\t' :=
      ⟨ne_of_startsKey hd (by decide), ne_of_startsKey hd (by decide)⟩
    rw [dropSpace_append h₁, List.cons_append, dropSpace_cons hblank]
  rw [readKey, hfirst, readKeyPart_of_spellsKey h hnext]
  simp only [Option.bind_eq_bind, Option.bind_some, dropSpace_append h₂, dropSpace_cons hspace]
  rcases hc with rfl | rfl
  · rfl
  · rfl

end SecretScan.Toml
