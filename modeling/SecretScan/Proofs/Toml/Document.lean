import SecretScan.Proofs.Toml.Value

/-!
# TOML documents

A document of TOML as far as it is described here has its keys in lines, and gives first those of
the document itself and then one table after the other, each under a header (`Lines`). Reading finds
what the lines hold (`read_of_isDocument`). The induction is over the lines (`Lines.read`), and its
invariant is the `Place` where the keys go at the moment.
-/

namespace SecretScan.Toml

/-- The lines of a document: keys, then tables under headers, each with keys of its own. -/
inductive Lines : (ms : List (String × Toml)) → (ts : List (String × List (String × Toml))) →
    List Char → Prop where
  /-- Nothing is left. -/
  | finish {t : List Char} (ht : Trivia t) : Lines [] [] t
  /-- A key with its value, and further lines. -/
  | pair {name : String} {v : Toml} {ms : List (String × Toml)}
      {ts : List (String × List (String × Toml))} {t b₁ b₂ ks cs e more : List Char}
      (ht : Trivia t) (hname : SpellsKey name ks) (hb₁ : Space b₁) (hb₂ : Space b₂)
      (hv : Spells depthLimit (.value v) cs) (he : LineEnd more e) (hmore : Lines ms ts more) :
      Lines ((name, v) :: ms) ts (t ++ (ks ++ (b₁ ++ '=' :: (b₂ ++ (cs ++ (e ++ more))))))
  /-- A header, and the lines of its table and of those behind it. -/
  | header {name : String} {ms : List (String × Toml)} {ts : List (String × List (String × Toml))}
      {t b₁ b₂ ks e more : List Char} (ht : Trivia t) (hname : SpellsKey name ks)
      (hb₁ : Space b₁) (hb₂ : Space b₂) (he : LineEnd more e) (hmore : Lines ms ts more) :
      Lines [] ((name, ms) :: ts) (t ++ '[' :: (b₁ ++ (ks ++ (b₂ ++ ']' :: (e ++ more)))))

/-- A document holds the keys and the tables of its lines; keys that stand in the same table
differ. -/
def IsDocument (es : List (String × Toml)) (text : List Char) : Prop :=
  ∃ ms ts, Lines ms ts text ∧ (es.map Prod.fst).Nodup ∧ (∀ t ∈ ts, (t.2.map Prod.fst).Nodup) ∧
    es = ms ++ ts.map fun t ↦ (t.1, .table t.2)

/-- A line of a key is read, and its value goes to the present place. -/
theorem readPair_of_spells {path : List String} {grow : Entries → Entries}
    (hplace : Entries.Place path grow) {es : Entries} {name : String} (hkey : name ∉ es.keys)
    {v : Toml} {b₁ b₂ ks cs e more : List Char} (hname : SpellsKey name ks) (hb₁ : Space b₁)
    (hb₂ : Space b₂) (hv : Spells depthLimit (.value v) cs) (he : LineEnd more e) :
    readPair path (grow es) (ks ++ (b₁ ++ '=' :: (b₂ ++ (cs ++ (e ++ more))))) =
      some (grow (es ++ [(name, .value v)]), more) := by
  obtain ⟨c, rest, hcs, hc⟩ := hv.exists_cons_append (e ++ more)
  have hspace : dropSpace (b₂ ++ (cs ++ (e ++ more))) = cs ++ (e ++ more) := by
    rw [dropSpace_append hb₂, hcs, dropSpace_cons
      ⟨ne_of_startsValue hc (by decide), ne_of_startsValue hc (by decide)⟩]
  have hfuel : 2 * cs.length ≤ 3 * (cs ++ (e ++ more)).length + 3 := by
    rw [List.length_append]
    omega
  have hvalue := hv.read _ (e ++ more) hfuel he.endsValue
  have hgrow : Entries.alongHeader (Entries.put v [] name) path (grow es) =
      some (grow (es ++ [(name, .value v)])) := by
    rw [hplace.alongHeader, Entries.put_of_not_mem hkey, Option.map_some]
  rw [readPair, hname.readKey hb₁ (.inl rfl)]
  simp only [Option.bind_eq_bind, Option.bind_some, hspace, hvalue, hgrow, dropLine?_append he]
  rfl

/-- A header is read, and its table is the place where the following keys go. -/
theorem readHeader_of_spells {root : Entries} {name : String} (hkey : name ∉ root.keys)
    {b₁ b₂ ks e more : List Char} (hname : SpellsKey name ks) (hb₁ : Space b₁) (hb₂ : Space b₂)
    (he : LineEnd more e) :
    readHeader root (b₁ ++ (ks ++ (b₂ ++ ']' :: (e ++ more)))) =
      some ([name], root ++ [(name, .table .header [])], more) := by
  -- The header has single brackets.
  have hsingle : ∀ rest, b₁ ++ (ks ++ (b₂ ++ ']' :: (e ++ more))) ≠ '[' :: rest := by
    intro rest h
    rcases b₁ with - | ⟨b, b₁⟩
    · obtain ⟨c, ks, rfl, hc⟩ := hname.exists_cons
      exact ne_of_startsKey hc (by decide) (List.cons.inj h).1
    · rcases hb₁ b List.mem_cons_self with rfl | rfl
      · cases (List.cons.inj h).1
      · cases (List.cons.inj h).1
  have hkeyRead := hname.readKey_append hb₁ hb₂ (.inr rfl) (e ++ more)
  -- The text is matched on, and from here on it matters only what is read from it.
  generalize b₁ ++ (ks ++ (b₂ ++ ']' :: (e ++ more))) = cs at hsingle hkeyRead
  rw [readHeader.eq_def]
  split
  next double cs' hmatch =>
    split at hmatch
    · next rest => exact absurd rfl (hsingle rest)
    · obtain ⟨rfl, rfl⟩ := Prod.mk.inj hmatch
      rw [hkeyRead]
      simp only [Option.bind_eq_bind, Option.bind_some, Entries.alongHeader, Bool.false_eq_true,
        if_false, Entries.openTable_of_not_mem hkey, dropLine?_append he]
      rfl

/-- Where nothing is left, nothing changes any more. -/
theorem readLines_finish {t : List Char} (ht : Trivia t) (fuel : ℕ) (path : List String)
    (root : Entries) : readLines (fuel + 1) path root t = some root := by
  have hdrop := dropTrivia_append ht []
  rw [List.append_nil] at hdrop
  rw [readLines, hdrop]
  rfl

/-- The line of a key is taken off. -/
theorem readLines_pair {path : List String} {grow : Entries → Entries}
    (hplace : Entries.Place path grow) {es : Entries} {name : String} (hkey : name ∉ es.keys)
    {v : Toml} {t b₁ b₂ ks cs e more : List Char} (ht : Trivia t) (hname : SpellsKey name ks)
    (hb₁ : Space b₁) (hb₂ : Space b₂) (hv : Spells depthLimit (.value v) cs) (he : LineEnd more e)
    (fuel : ℕ) :
    readLines (fuel + 1) path (grow es)
        (t ++ (ks ++ (b₁ ++ '=' :: (b₂ ++ (cs ++ (e ++ more)))))) =
      readLines fuel path (grow (es ++ [(name, .value v)])) more := by
  obtain ⟨c, rest, hks, hc⟩ := hname.exists_cons
  rw [readLines, hname.dropTrivia_append ht]
  split
  · next h =>
    rw [hks] at h
    cases h
  · next h =>
    rw [hks] at h
    exact absurd (List.cons.inj h).1 (ne_of_startsKey hc (by decide))
  · rw [readPair_of_spells hplace hkey hname hb₁ hb₂ hv he]
    rfl

/-- The line of a header is taken off. -/
theorem readLines_header {root : Entries} {name : String} (hkey : name ∉ root.keys)
    {t b₁ b₂ ks e more : List Char} (ht : Trivia t) (hname : SpellsKey name ks) (hb₁ : Space b₁)
    (hb₂ : Space b₂) (he : LineEnd more e) (fuel : ℕ) (path : List String) :
    readLines (fuel + 1) path root (t ++ '[' :: (b₁ ++ (ks ++ (b₂ ++ ']' :: (e ++ more))))) =
      readLines fuel [name] (root ++ [(name, .table .header [])]) more := by
  rw [readLines, dropTrivia_append ht, dropTrivia_cons (by decide)]
  show (readHeader _ _).bind _ = _
  rw [readHeader_of_spells hkey hname hb₁ hb₂ he]
  rfl

/-- **Reading lines.** Behind what stands at the present place come the keys of the lines, and
behind the whole document their tables. -/
theorem Lines.read {ms : List (String × Toml)} {ts : List (String × List (String × Toml))}
    {cs : List Char} (h : Lines ms ts cs) {path : List String} {grow : Entries → Entries}
    (hplace : Entries.Place path grow) {es : Entries} (hes : (es.keys ++ ms.map Prod.fst).Nodup)
    (hroot : ((grow (es ++ Entries.ofValues ms)).keys ++ ts.map Prod.fst).Nodup)
    (hts : ∀ t ∈ ts, (t.2.map Prod.fst).Nodup) {fuel : ℕ} (hfuel : cs.length < fuel) :
    readLines fuel path (grow es) cs =
      some (grow (es ++ Entries.ofValues ms) ++ Entries.ofTables ts) := by
  -- A header changes the place, so the induction is for all of them.
  induction h generalizing path grow es fuel with
  | finish ht =>
    obtain ⟨fuel, rfl⟩ := Nat.exists_eq_succ_of_ne_zero (Nat.ne_zero_of_lt hfuel)
    rw [readLines_finish ht]
    show some (grow es) = some (grow (es ++ []) ++ [])
    rw [List.append_nil, List.append_nil]
  | @pair name v ms ts t b₁ b₂ ks cs e more ht hname hb₁ hb₂ hv he _ ih =>
    obtain ⟨fuel, rfl⟩ := Nat.exists_eq_succ_of_ne_zero (Nat.ne_zero_of_lt hfuel)
    have hkey := Entries.not_mem_keys_of_nodup hes
    have hvalues := Entries.append_ofValues_cons es (name, v) ms
    simp only [List.length_append, List.length_cons] at hfuel
    rw [readLines_pair hplace hkey ht hname hb₁ hb₂ hv he, ← hvalues]
    exact ih hplace (Entries.nodup_keys_append_singleton hes _) (hvalues ▸ hroot) hts (by omega)
  | @header name ms ts t b₁ b₂ ks e more ht hname hb₁ hb₂ he _ ih =>
    obtain ⟨fuel, rfl⟩ := Nat.exists_eq_succ_of_ne_zero (Nat.ne_zero_of_lt hfuel)
    have hnone : es ++ Entries.ofValues [] = es := List.append_nil es
    rw [hnone] at hroot ⊢
    have hkey := Entries.not_mem_keys_of_nodup hroot
    simp only [List.length_append, List.length_cons] at hfuel
    -- The table has been opened without keys, and is the place of those that follow.
    have hkeys : (Entries.keys [] ++ ms.map Prod.fst).Nodup := hts _ List.mem_cons_self
    have hless : more.length < fuel := by omega
    have hrest := ih (Entries.Place.table hkey) hkeys
      (Entries.nodup_keys_append_singleton hroot _)
      (fun t ht ↦ hts t (List.mem_cons_of_mem _ ht)) hless
    rw [readLines_header hkey ht hname hb₁ hb₂ he, hrest, List.append_assoc]
    rfl

/-- A document starts with no byte order mark. -/
theorem Lines.ne_mark {ms : List (String × Toml)} {ts : List (String × List (String × Toml))}
    {cs : List Char} (h : Lines ms ts cs) (rest : List Char) : cs ≠ '\ufeff' :: rest := by
  have htrivia {t cs : List Char} (ht : Trivia t) (hcs : ∀ rest, cs ≠ '\ufeff' :: rest) :
      t ++ cs ≠ '\ufeff' :: rest := by
    cases ht with
    | nil => exact hcs rest
    | blank hc =>
      rcases hc with rfl | rfl
      · exact fun h ↦ by cases (List.cons.inj h).1
      · exact fun h ↦ by cases (List.cons.inj h).1
    | newline he =>
      rcases he with rfl | rfl
      · exact fun h ↦ by cases (List.cons.inj h).1
      · exact fun h ↦ by cases (List.cons.inj h).1
    | comment => exact fun h ↦ by cases (List.cons.inj h).1
  cases h with
  | finish ht =>
    rw [← List.append_nil cs]
    exact htrivia ht fun rest h ↦ by cases h
  | pair ht hname =>
    obtain ⟨c, ks, rfl, hc⟩ := hname.exists_cons
    exact htrivia ht fun rest h ↦ ne_of_startsKey hc (by decide) (List.cons.inj h).1
  | header ht => exact htrivia ht fun rest h ↦ by cases (List.cons.inj h).1

/-- **Reading a document** gives what its lines hold. -/
theorem read_of_isDocument {es : List (String × Toml)} {text : String}
    (h : IsDocument es text.toList) : read text = some es := by
  obtain ⟨ms, ts, hlines, hnodup, hts, rfl⟩ := h
  rw [List.map_append, List.map_map] at hnodup
  have hms : (Entries.keys [] ++ ms.map Prod.fst).Nodup := (List.nodup_append.mp hnodup).1
  have hroot : (Entries.keys (id ([] ++ Entries.ofValues ms)) ++ ts.map Prod.fst).Nodup := by
    show (Entries.keys (Entries.ofValues ms) ++ ts.map Prod.fst).Nodup
    rw [Entries.keys_ofValues]
    exact hnodup
  have hread := hlines.read .document hms hroot hts (Nat.lt_succ_self _)
  have hfinish : finishEntries (Entries.ofValues ms ++ Entries.ofTables ts) =
      ms ++ ts.map fun t ↦ (t.1, .table t.2) := by
    rw [Entries.finishEntries_append, Entries.finishEntries_ofValues,
      Entries.finishEntries_ofTables]
  have hmark : read text =
      (readLines (text.toList.length + 1) [] [] text.toList).map finishEntries := by
    rw [Toml.read.eq_def]
    split
    · next rest heq => exact absurd heq (hlines.ne_mark rest)
    · rfl
  rw [hmark]
  show Option.map finishEntries (readLines _ [] (id []) text.toList) = _
  rw [hread]
  exact congrArg some hfinish

end SecretScan.Toml
