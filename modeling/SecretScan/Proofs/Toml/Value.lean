import SecretScan.Proofs.Toml.Number
import SecretScan.Proofs.Toml.Table
import SecretScan.Proofs.Toml.Text
import SecretScan.Toml.Reader

/-!
# TOML values

A part of the grammar of TOML as a relation, `Spells room phrase text`: what a value is written as,
and beside it what stands behind the opening bracket of an array or of a table. `room` is how many
arrays and tables may stand inside each other. Keys have one part, texts stand on one line, and
numbers are decimal; within these limits blanks, line ends, comments and a last comma may stand
wherever they are allowed. Reading finds what is spelled:

```
Spells room (.value v) cs  →  readValue fuel room (cs ++ rest) = some (v, rest)
```

The induction is over the grammar (`Spells.read`). What it says of a value holds unless the text
behind could go on with it.
-/

namespace SecretScan.Toml

/-! ### Values -/

/-- What is written. -/
inductive Phrase where
  /-- A value. -/
  | value (v : Toml)
  /-- The items of an array up to its closing bracket. -/
  | items (vs : List Toml)
  /-- The members of a table up to its closing bracket. -/
  | members (ms : List (String × Toml))

/-- The texts of a phrase, in which `room` arrays and tables may stand inside each other. -/
inductive Spells : (room : ℕ) → Phrase → List Char → Prop where
  /-- A truth value is a word. -/
  | bool {room : ℕ} (b : Bool) : Spells room (.value (.bool b)) (word b)
  /-- A number is a numeral that is not too large. -/
  | number {room : ℕ} {n : Numeral} {t : Toml} (h : n.toml? = some t) :
      Spells room (.value t) n.text
  /-- A text stands between marks. -/
  | string {room : ℕ} {s : String} {q : List Char} (h : Quoted s q) :
      Spells room (.value (.string s)) q
  /-- An array takes one of the room. -/
  | array {room : ℕ} {vs : List Toml} {cs : List Char} (h : Spells room (.items vs) cs) :
      Spells (room + 1) (.value (.array vs)) ('[' :: cs)
  /-- So does a table, whose keys differ. -/
  | table {room : ℕ} {ms : List (String × Toml)} {cs : List Char}
      (hkeys : (ms.map Prod.fst).Nodup) (h : Spells room (.members ms) cs) :
      Spells (room + 1) (.value (.table ms)) ('{' :: cs)
  /-- The array is closed. -/
  | noItem {room : ℕ} {t : List Char} (ht : Trivia t) : Spells room (.items []) (t ++ [']'])
  /-- The array is closed behind an item. -/
  | lastItem {room : ℕ} {v : Toml} {t₁ t₂ cs : List Char} (h₁ : Trivia t₁) (h₂ : Trivia t₂)
      (hv : Spells room (.value v) cs) : Spells room (.items [v]) (t₁ ++ (cs ++ (t₂ ++ [']'])))
  /-- A comma follows an item, and then the others, if there are any. -/
  | item {room : ℕ} {v : Toml} {vs : List Toml} {t₁ t₂ cs more : List Char} (h₁ : Trivia t₁)
      (h₂ : Trivia t₂) (hv : Spells room (.value v) cs) (hvs : Spells room (.items vs) more) :
      Spells room (.items (v :: vs)) (t₁ ++ (cs ++ (t₂ ++ ',' :: more)))
  /-- The table is closed. -/
  | noMember {room : ℕ} {t : List Char} (ht : Trivia t) : Spells room (.members []) (t ++ ['}'])
  /-- The table is closed behind a member. -/
  | lastMember {room : ℕ} {name : String} {v : Toml} {t₁ t₂ b₁ b₂ ks cs : List Char}
      (h₁ : Trivia t₁) (hname : SpellsKey name ks) (hb₁ : Space b₁) (hb₂ : Space b₂)
      (hv : Spells room (.value v) cs) (h₂ : Trivia t₂) :
      Spells room (.members [(name, v)])
        (t₁ ++ (ks ++ (b₁ ++ '=' :: (b₂ ++ (cs ++ (t₂ ++ ['}']))))))
  /-- A comma follows a member, and then the others, if there are any. -/
  | member {room : ℕ} {name : String} {v : Toml} {ms : List (String × Toml)}
      {t₁ t₂ b₁ b₂ ks cs more : List Char} (h₁ : Trivia t₁) (hname : SpellsKey name ks)
      (hb₁ : Space b₁) (hb₂ : Space b₂) (hv : Spells room (.value v) cs) (h₂ : Trivia t₂)
      (hms : Spells room (.members ms) more) :
      Spells room (.members ((name, v) :: ms))
        (t₁ ++ (ks ++ (b₁ ++ '=' :: (b₂ ++ (cs ++ (t₂ ++ ',' :: more))))))

/-! ### How values start and end -/

/-- Whether a value may start with a character. -/
def startsValue (c : Char) : Bool := isScalarChar c || ['"', '\'', '[', '{'].contains c

theorem ne_of_startsValue {c d : Char} (hc : startsValue c = true) (hd : startsValue d = false) :
    c ≠ d := by
  rintro rfl
  rw [hc] at hd
  cases hd

theorem startsValue_of_isScalarChar {c : Char} (hc : isScalarChar c = true) :
    startsValue c = true := by
  rw [startsValue, hc, Bool.true_or]

/-- A numeral starts like any value without marks. -/
theorem exists_text_cons (n : Numeral) : ∃ c cs, n.text = c :: cs ∧ isScalarChar c = true := by
  have hne : n.text ≠ [] := by
    obtain ⟨c, cs, hbody, -⟩ := n.exists_body_cons
    rw [Numeral.text, hbody]
    cases n.isNegative <;> exact List.cons_ne_nil _ _
  obtain ⟨c, cs, htext⟩ := List.exists_cons_of_ne_nil hne
  exact ⟨c, cs, htext, Numeral.isScalarChar_of_mem_text (htext ▸ List.mem_cons_self)⟩

theorem exists_word_cons (b : Bool) : ∃ c cs, word b = c :: cs ∧ isScalarChar c = true := by
  cases b <;> exact ⟨_, _, rfl, by decide⟩

theorem Spells.exists_cons {room : ℕ} {v : Toml} {cs : List Char}
    (h : Spells room (.value v) cs) : ∃ c rest, cs = c :: rest ∧ startsValue c = true := by
  cases h with
  | bool b =>
    obtain ⟨c, rest, hcs, hc⟩ := exists_word_cons b
    exact ⟨c, rest, hcs, startsValue_of_isScalarChar hc⟩
  | @number _ n =>
    obtain ⟨c, rest, hcs, hc⟩ := exists_text_cons n
    exact ⟨c, rest, hcs, startsValue_of_isScalarChar hc⟩
  | string h =>
    cases h with
    | basic => exact ⟨_, _, rfl, by decide⟩
    | literal => exact ⟨_, _, rfl, by decide⟩
  | array => exact ⟨_, _, rfl, by decide⟩
  | table => exact ⟨_, _, rfl, by decide⟩

/-- Whatever follows. -/
theorem Spells.exists_cons_append {room : ℕ} {v : Toml} {cs : List Char}
    (h : Spells room (.value v) cs) (more : List Char) :
    ∃ c rest, cs ++ more = c :: rest ∧ startsValue c = true := by
  obtain ⟨c, rest, rfl, hc⟩ := h.exists_cons
  exact ⟨c, rest ++ more, List.cons_append, hc⟩

theorem Spells.length_pos {room : ℕ} {p : Phrase} {cs : List Char} (h : Spells room p cs) :
    0 < cs.length := by
  cases p with
  | value v =>
    obtain ⟨c, rest, rfl, -⟩ := h.exists_cons
    exact Nat.succ_pos _
  | items vs => cases h <;> simp only [List.length_append, List.length_cons] <;> omega
  | members ms => cases h <;> simp only [List.length_append, List.length_cons] <;> omega

/-- What may follow a value: nothing that could go on with it. -/
def EndsValue (cs : List Char) : Prop := EndsScalar cs ∧ EndsText cs

/-- Whether a character could go on with no value. -/
def endsValue (c : Char) : Bool := !isScalarChar c && c != '"' && c != '\''

theorem endsValue_cons {c : Char} (hc : endsValue c = true) (cs : List Char) :
    EndsValue (c :: cs) := by
  simp only [endsValue, Bool.and_eq_true, Bool.not_eq_true', bne_iff_ne] at hc
  constructor
  · intro d hd
    obtain rfl := Option.some.inj hd
    exact hc.1.1
  · intro d hd
    obtain rfl := Option.some.inj hd
    exact ⟨hc.1.2, hc.2⟩

theorem endsValue_nil : EndsValue [] := by
  constructor
  · rintro c ⟨⟩
  · rintro c ⟨⟩

/-- Neither blanks nor comments go on with a value. -/
theorem endsValue_trivia {t : List Char} (ht : Trivia t) {c : Char} (hc : endsValue c = true)
    (cs : List Char) : EndsValue (t ++ c :: cs) := by
  cases ht with
  | nil => exact endsValue_cons hc cs
  | blank hblank =>
    refine endsValue_cons ?_ _
    rcases hblank with rfl | rfl <;> decide
  | newline he =>
    rcases he with rfl | rfl
    · exact endsValue_cons (by decide) _
    · exact endsValue_cons (by decide) _
  | comment => exact endsValue_cons (by decide) _

/-- Nor does the end of a line. -/
theorem LineEnd.endsValue {e rest : List Char} (he : LineEnd rest e) : EndsValue (e ++ rest) := by
  have hspace {b : List Char} (hb : Space b) {cs : List Char} (hcs : EndsValue cs) :
      EndsValue (b ++ cs) := by
    rcases b with - | ⟨c, b⟩
    · exact hcs
    · refine endsValue_cons ?_ _
      rcases hb c List.mem_cons_self with rfl | rfl <;> decide
  cases he with
  | newline hb he =>
    rw [List.append_assoc]
    refine hspace hb ?_
    rcases he with rfl | rfl
    · exact endsValue_cons (by decide) _
    · exact endsValue_cons (by decide) _
  | comment hb =>
    rw [List.append_assoc]
    exact hspace hb (endsValue_cons (by decide) _)
  | finish hb => exact hspace hb endsValue_nil

/-! ### Reading values -/

/-- Without marks a value is read as a whole. -/
theorem readValue_scalar {c : Char} (hc : isScalarChar c = true) (fuel room : ℕ) (cs : List Char) :
    readValue (fuel + 1) room (c :: cs) = readScalar (c :: cs) := by
  have hne (d : Char) (hd : isScalarChar d = false) : c ≠ d := by
    rintro rfl
    rw [hc] at hd
    cases hd
  rw [readValue]
  · exact fun cs h ↦ hne '"' (by decide) (List.cons.inj h).1
  · exact fun cs h ↦ hne '\'' (by decide) (List.cons.inj h).1
  · exact fun cs h ↦ hne '[' (by decide) (List.cons.inj h).1
  · exact fun cs h ↦ hne '{' (by decide) (List.cons.inj h).1

theorem readValue_quoted {s : String} {q : List Char} (h : Quoted s q) {rest : List Char}
    (hrest : EndsText rest) (fuel room : ℕ) :
    readValue (fuel + 1) room (q ++ rest) = some (.string s, rest) := by
  have hread := readText_of_quoted h hrest
  have hmap : readValue (fuel + 1) room (q ++ rest) =
      (readText (q ++ rest)).map (Prod.map .string id) := by
    cases h with
    | basic => rfl
    | literal => rfl
  rw [hmap, hread]
  rfl

theorem readValue_array (fuel room : ℕ) (cs : List Char) :
    readValue (fuel + 1) (room + 1) ('[' :: cs) =
      (readItems fuel room cs).map fun (items, rest) ↦ (.array items, rest) := rfl

theorem readValue_table (fuel room : ℕ) (cs : List Char) :
    readValue (fuel + 1) (room + 1) ('{' :: cs) =
      (readMembers fuel room [] cs).map fun (es, rest) ↦ (.table (finishEntries es), rest) := rfl

/-- Items stop at a bracket. -/
theorem readItems_close {t : List Char} (ht : Trivia t) (fuel room : ℕ) (rest : List Char) :
    readItems (fuel + 1) room (t ++ ']' :: rest) = some ([], rest) := by
  rw [readItems, dropTrivia_append ht, dropTrivia_cons (by decide)]
  rfl

/-- An item is read before what follows it. -/
theorem readItems_value {t cs : List Char} (ht : Trivia t)
    (hcs : ∃ c rest, cs = c :: rest ∧ startsValue c = true) (fuel room : ℕ) :
    readItems (fuel + 1) room (t ++ cs) = (do
      let (v, rest) ← readValue fuel room cs
      match dropTrivia false rest with
      | ']' :: rest => some ([v], rest)
      | ',' :: rest =>
        let (items, rest) ← readItems fuel room rest
        some (v :: items, rest)
      | _ => none) := by
  obtain ⟨c, rest, rfl, hc⟩ := hcs
  have hmark : c ∉ [' ', '\t', '\n', '\r', '#'] := by
    simp only [List.mem_cons, List.not_mem_nil, or_false, not_or]
    exact ⟨ne_of_startsValue hc (by decide), ne_of_startsValue hc (by decide),
      ne_of_startsValue hc (by decide), ne_of_startsValue hc (by decide),
      ne_of_startsValue hc (by decide)⟩
  rw [readItems, dropTrivia_append ht, dropTrivia_cons hmark]
  split
  · next h => exact absurd (List.cons.inj h).1 (ne_of_startsValue hc (by decide))
  · rfl

/-- The last item, unless a comma follows it. -/
theorem readItems_last {fuel room : ℕ} {v : Toml} {t₁ t₂ cs rest : List Char} (h₁ : Trivia t₁)
    (h₂ : Trivia t₂) (hcs : ∃ c cs', cs = c :: cs' ∧ startsValue c = true)
    (hv : readValue fuel room cs = some (v, t₂ ++ ']' :: rest)) :
    readItems (fuel + 1) room (t₁ ++ cs) = some ([v], rest) := by
  have hclose : dropTrivia false (t₂ ++ ']' :: rest) = ']' :: rest := by
    rw [dropTrivia_append h₂, dropTrivia_cons (by decide)]
  simp [readItems_value h₁ hcs, hv, hclose]

/-- An item that a comma follows, and what is behind it. -/
theorem readItems_item {fuel room : ℕ} {v : Toml} {vs : List Toml} {t₁ t₂ cs rest rest' : List Char}
    (h₁ : Trivia t₁) (h₂ : Trivia t₂) (hcs : ∃ c cs', cs = c :: cs' ∧ startsValue c = true)
    (hv : readValue fuel room cs = some (v, t₂ ++ ',' :: rest))
    (hvs : readItems fuel room rest = some (vs, rest')) :
    readItems (fuel + 1) room (t₁ ++ cs) = some (v :: vs, rest') := by
  have hcomma : dropTrivia false (t₂ ++ ',' :: rest) = ',' :: rest := by
    rw [dropTrivia_append h₂, dropTrivia_cons (by decide)]
  simp [readItems_value h₁ hcs, hv, hcomma, hvs]

/-- Members stop at a bracket. -/
theorem readMembers_close {t : List Char} (ht : Trivia t) (fuel room : ℕ) (es : Entries)
    (rest : List Char) : readMembers (fuel + 1) room es (t ++ '}' :: rest) = some (es, rest) := by
  rw [readMembers, dropTrivia_append ht, dropTrivia_cons (by decide)]
  rfl

/-- What a line or a member starts with is no blank. -/
theorem SpellsKey.dropTrivia_append {name : String} {t ks : List Char} (ht : Trivia t)
    (hname : SpellsKey name ks) (cs : List Char) :
    dropTrivia false (t ++ (ks ++ cs)) = ks ++ cs := by
  obtain ⟨c, rest, rfl, hc⟩ := hname.exists_cons
  have hmark : c ∉ [' ', '\t', '\n', '\r', '#'] := by
    simp only [List.mem_cons, List.not_mem_nil, or_false, not_or]
    exact ⟨ne_of_startsKey hc (by decide), ne_of_startsKey hc (by decide),
      ne_of_startsKey hc (by decide), ne_of_startsKey hc (by decide),
      ne_of_startsKey hc (by decide)⟩
  rw [Toml.dropTrivia_append ht, List.cons_append, dropTrivia_cons hmark]

/-- There is fuel for a key. -/
theorem SpellsKey.readKey_append {name : String} {ks b₁ b₂ : List Char} (hname : SpellsKey name ks)
    (hb₁ : Space b₁) (hb₂ : Space b₂) {c : Char} (hc : c = '=' ∨ c = ']') (rest : List Char) :
    readKey (b₁ ++ (ks ++ (b₂ ++ c :: rest))).length (b₁ ++ (ks ++ (b₂ ++ c :: rest))) =
      some ([], name, c :: rest) := by
  obtain ⟨fuel, hfuel⟩ : ∃ fuel, (b₁ ++ (ks ++ (b₂ ++ c :: rest))).length = fuel + 1 := by
    refine Nat.exists_eq_succ_of_ne_zero ?_
    simp
  rw [hfuel]
  exact readKey_of_spellsKey hb₁ hb₂ hname hc fuel rest

theorem SpellsKey.readKey {name : String} {ks b : List Char} (hname : SpellsKey name ks)
    (hb : Space b) {c : Char} (hc : c = '=' ∨ c = ']') (rest : List Char) :
    readKey (ks ++ (b ++ c :: rest)).length (ks ++ (b ++ c :: rest)) =
      some ([], name, c :: rest) := by
  exact hname.readKey_append space_nil hb hc rest

/-- A member is read, and its value goes behind those already read. -/
theorem readMembers_value {name : String} {t b₁ b₂ ks cs : List Char} (ht : Trivia t)
    (hname : SpellsKey name ks) (hb₁ : Space b₁) (hb₂ : Space b₂)
    (hcs : ∃ c rest, cs = c :: rest ∧ startsValue c = true) {es : Entries}
    (hkey : name ∉ es.keys) (fuel room : ℕ) :
    readMembers (fuel + 1) room es (t ++ (ks ++ (b₁ ++ '=' :: (b₂ ++ cs)))) = (do
      let (v, rest) ← readValue fuel room cs
      let es := es ++ [(name, .value v)]
      match dropTrivia false rest with
      | '}' :: rest => some (es, rest)
      | ',' :: rest => readMembers fuel room es rest
      | _ => none) := by
  have hspace : dropSpace (b₂ ++ cs) = cs := by
    obtain ⟨c, rest, rfl, hc⟩ := hcs
    rw [dropSpace_append hb₂, dropSpace_cons
      ⟨ne_of_startsValue hc (by decide), ne_of_startsValue hc (by decide)⟩]
  obtain ⟨c, rest, hks, hc⟩ := hname.exists_cons
  rw [readMembers, hname.dropTrivia_append ht]
  split
  · next h =>
    rw [hks] at h
    exact absurd (List.cons.inj h).1 (ne_of_startsKey hc (by decide))
  · rw [hname.readKey hb₁ (.inl rfl)]
    show (readValue fuel room (dropSpace (b₂ ++ cs))).bind _ = _
    rw [hspace]
    refine congrArg _ (funext fun (v, rest) ↦ ?_)
    show (Entries.put v [] name es).bind _ = _
    rw [Entries.put_of_not_mem hkey]
    rfl

/-- The last member, unless a comma follows it. -/
theorem readMembers_last {fuel room : ℕ} {name : String} {v : Toml}
    {t₁ t₂ b₁ b₂ ks cs rest : List Char} (h₁ : Trivia t₁) (hname : SpellsKey name ks)
    (hb₁ : Space b₁) (hb₂ : Space b₂) (h₂ : Trivia t₂)
    (hcs : ∃ c cs', cs = c :: cs' ∧ startsValue c = true) {es : Entries} (hkey : name ∉ es.keys)
    (hv : readValue fuel room cs = some (v, t₂ ++ '}' :: rest)) :
    readMembers (fuel + 1) room es (t₁ ++ (ks ++ (b₁ ++ '=' :: (b₂ ++ cs)))) =
      some (es ++ [(name, .value v)], rest) := by
  have hclose : dropTrivia false (t₂ ++ '}' :: rest) = '}' :: rest := by
    rw [dropTrivia_append h₂, dropTrivia_cons (by decide)]
  simp [readMembers_value h₁ hname hb₁ hb₂ hcs hkey, hv, hclose]

/-- A member that a comma follows, and what is behind it. -/
theorem readMembers_member {fuel room : ℕ} {name : String} {v : Toml}
    {t₁ t₂ b₁ b₂ ks cs rest : List Char} (h₁ : Trivia t₁) (hname : SpellsKey name ks)
    (hb₁ : Space b₁) (hb₂ : Space b₂) (h₂ : Trivia t₂)
    (hcs : ∃ c cs', cs = c :: cs' ∧ startsValue c = true) {es : Entries} (hkey : name ∉ es.keys)
    (hv : readValue fuel room cs = some (v, t₂ ++ ',' :: rest)) :
    readMembers (fuel + 1) room es (t₁ ++ (ks ++ (b₁ ++ '=' :: (b₂ ++ cs)))) =
      readMembers fuel room (es ++ [(name, .value v)]) rest := by
  have hcomma : dropTrivia false (t₂ ++ ',' :: rest) = ',' :: rest := by
    rw [dropTrivia_append h₂, dropTrivia_cons (by decide)]
  simp [readMembers_value h₁ hname hb₁ hb₂ hcs hkey, hv, hcomma]

/-- What reading a phrase means. A value must not be gone on with; members come behind others, none
of which may have their names. -/
def Phrase.IsReadFrom (room : ℕ) : Phrase → List Char → Prop
  | .value v, cs => ∀ fuel rest, 2 * cs.length ≤ fuel → EndsValue rest →
      readValue fuel room (cs ++ rest) = some (v, rest)
  | .items vs, cs => ∀ fuel rest, 2 * cs.length ≤ fuel →
      readItems fuel room (cs ++ rest) = some (vs, rest)
  | .members ms, cs => ∀ fuel rest (es : Entries), 2 * cs.length ≤ fuel →
      (es.keys ++ ms.map Prod.fst).Nodup →
      readMembers fuel room es (cs ++ rest) = some (es ++ Entries.ofValues ms, rest)

/-- **Reading finds what is spelled.** -/
theorem Spells.read {room : ℕ} {p : Phrase} {cs : List Char} (h : Spells room p cs) :
    p.IsReadFrom room cs := by
  -- Each phrase has a character, and so there is fuel for a round.
  have hround {room fuel : ℕ} {p : Phrase} {cs : List Char} (h : Spells room p cs)
      (hfuel : 2 * cs.length ≤ fuel) : ∃ f, fuel = f + 1 ∧ 2 * cs.length ≤ f + 1 := by
    have hpos := h.length_pos
    exact ⟨fuel - 1, by omega, by omega⟩
  induction h with
  | bool b =>
    intro fuel rest hfuel hrest
    obtain ⟨fuel, rfl, -⟩ := hround (.bool b : Spells room _ _) hfuel
    obtain ⟨c, cs, hword, hc⟩ := exists_word_cons b
    rw [← readScalar_word b hrest.1, hword]
    exact readValue_scalar hc fuel _ _
  | @number _ n t h =>
    intro fuel rest hfuel hrest
    obtain ⟨fuel, rfl, -⟩ := hround (.number h : Spells room _ _) hfuel
    obtain ⟨c, cs, htext, hc⟩ := exists_text_cons n
    rw [← readScalar_text h hrest.1, htext]
    exact readValue_scalar hc fuel _ _
  | string h =>
    intro fuel rest hfuel hrest
    obtain ⟨fuel, rfl, -⟩ := hround (.string h : Spells room _ _) hfuel
    exact readValue_quoted h hrest.2 fuel _
  | array h ih =>
    intro fuel rest hfuel _
    obtain ⟨fuel, rfl, hless⟩ := hround (.array h) hfuel
    have hitems := ih fuel rest (by rw [List.length_cons] at hless; omega)
    rw [List.cons_append, readValue_array, hitems]
    rfl
  | table hkeys h ih =>
    intro fuel rest hfuel _
    obtain ⟨fuel, rfl, hless⟩ := hround (.table hkeys h) hfuel
    have hmembers := ih fuel rest [] (by rw [List.length_cons] at hless; omega) hkeys
    rw [List.cons_append, readValue_table, hmembers]
    show some (Toml.table (finishEntries (Entries.ofValues _)), rest) = _
    rw [Entries.finishEntries_ofValues]
  | noItem ht =>
    intro fuel rest hfuel
    obtain ⟨fuel, rfl, -⟩ := hround (.noItem ht : Spells room _ _) hfuel
    rw [List.append_assoc]
    exact readItems_close ht fuel _ rest
  | @lastItem _ v t₁ t₂ cs h₁ h₂ hv ih =>
    intro fuel rest hfuel
    obtain ⟨fuel, rfl, hless⟩ := hround (.lastItem h₁ h₂ hv) hfuel
    simp only [List.length_append, List.length_cons] at hless
    have hsplit : t₁ ++ (cs ++ (t₂ ++ [']'])) ++ rest = t₁ ++ (cs ++ (t₂ ++ ']' :: rest)) := by
      simp
    rw [hsplit]
    exact readItems_last h₁ h₂ (hv.exists_cons_append _)
      (ih fuel _ (by omega) (endsValue_trivia h₂ (by decide) rest))
  | @item _ v vs t₁ t₂ cs more h₁ h₂ hv hvs ih ihvs =>
    intro fuel rest hfuel
    obtain ⟨fuel, rfl, hless⟩ := hround (.item h₁ h₂ hv hvs) hfuel
    simp only [List.length_append, List.length_cons] at hless
    have hpos := hv.length_pos
    have hsplit : t₁ ++ (cs ++ (t₂ ++ ',' :: more)) ++ rest =
        t₁ ++ (cs ++ (t₂ ++ ',' :: (more ++ rest))) := by
      simp
    rw [hsplit]
    exact readItems_item h₁ h₂ (hv.exists_cons_append _)
      (ih fuel _ (by omega) (endsValue_trivia h₂ (by decide) _)) (ihvs fuel rest (by omega))
  | noMember ht =>
    intro fuel rest es hfuel _
    obtain ⟨fuel, rfl, -⟩ := hround (.noMember ht : Spells room _ _) hfuel
    have hnone : Entries.ofValues [] = [] := rfl
    rw [List.append_assoc, hnone, List.append_nil]
    exact readMembers_close ht fuel _ es rest
  | @lastMember _ name v t₁ t₂ b₁ b₂ ks cs h₁ hname hb₁ hb₂ hv h₂ ih =>
    intro fuel rest es hfuel hkeys
    obtain ⟨fuel, rfl, hless⟩ := hround (.lastMember h₁ hname hb₁ hb₂ hv h₂) hfuel
    simp only [List.length_append, List.length_cons] at hless
    have hsplit : t₁ ++ (ks ++ (b₁ ++ '=' :: (b₂ ++ (cs ++ (t₂ ++ ['}']))))) ++ rest =
        t₁ ++ (ks ++ (b₁ ++ '=' :: (b₂ ++ (cs ++ (t₂ ++ '}' :: rest))))) := by
      simp
    rw [hsplit]
    exact readMembers_last h₁ hname hb₁ hb₂ h₂ (hv.exists_cons_append _)
      (Entries.not_mem_keys_of_nodup hkeys)
      (ih fuel _ (by omega) (endsValue_trivia h₂ (by decide) rest))
  | @member _ name v ms t₁ t₂ b₁ b₂ ks cs more h₁ hname hb₁ hb₂ hv h₂ hms ih ihms =>
    intro fuel rest es hfuel hkeys
    obtain ⟨fuel, rfl, hless⟩ := hround (.member h₁ hname hb₁ hb₂ hv h₂ hms) hfuel
    simp only [List.length_append, List.length_cons] at hless
    have hpos := hv.length_pos
    have hsplit : t₁ ++ (ks ++ (b₁ ++ '=' :: (b₂ ++ (cs ++ (t₂ ++ ',' :: more))))) ++ rest =
        t₁ ++ (ks ++ (b₁ ++ '=' :: (b₂ ++ (cs ++ (t₂ ++ ',' :: (more ++ rest)))))) := by
      simp
    have hvalue := ih fuel (t₂ ++ ',' :: (more ++ rest)) (by omega)
      (endsValue_trivia h₂ (by decide) _)
    rw [hsplit, readMembers_member h₁ hname hb₁ hb₂ h₂ (hv.exists_cons_append _)
      (Entries.not_mem_keys_of_nodup hkeys) hvalue, ← Entries.append_ofValues_cons]
    exact ihms fuel rest _ (by omega) (Entries.nodup_keys_append_singleton hkeys _)

end SecretScan.Toml
