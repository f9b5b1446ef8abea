import SecretScan.Proofs.Options.Sheet

/-!
# Every sheet has documents

Options that both notations can express can be written in both: the values of a sheet are numbers,
texts, truth values, arrays of texts and records of these, and each of them has a text
(`Json.isSpelled_writing`, `Toml.isSpelled_writing`). So the documents that `Sheet.IsJson` and
`Sheet.IsToml` speak of are there (`Sheet.exists_isJson`, `Sheet.exists_isToml`).
-/

namespace SecretScan

/-! ### Members -/

section

variable {α β : Type} {name : String} {fields : List (String × Option α)}

/-- The members of the fields that hold something. -/
def membersOf (fields : List (String × Option α)) : List (String × α) :=
  fields.filterMap fun f ↦ f.2.map (f.1, ·)

theorem mem_membersOf {v : α} : (name, v) ∈ membersOf fields ↔ (name, some v) ∈ fields := by
  rw [membersOf, List.mem_filterMap]
  constructor
  · rintro ⟨⟨name', v?⟩, hmem, hv⟩
    obtain ⟨v', rfl, hpair⟩ := Option.map_eq_some_iff.mp hv
    obtain ⟨rfl, rfl⟩ := Prod.mk.inj hpair
    exact hmem
  · exact fun hmem ↦ ⟨_, hmem, rfl⟩

theorem map_fst_membersOf_sublist (fields : List (String × Option α)) :
    ((membersOf fields).map Prod.fst).Sublist (fields.map Prod.fst) := by
  induction fields with
  | nil => exact List.Sublist.refl []
  | cons f fields ih =>
    obtain ⟨name, v?⟩ := f
    rcases v? with - | v
    · exact ih.cons name
    · exact ih.cons_cons name

/-- A field has a member exactly if it holds something. -/
theorem written_membersOf {writes : β → α → Prop} {b? : Option β} {f : β → α}
    (hfields : (fields.map Prod.fst).Nodup) (hmem : (name, b?.map f) ∈ fields)
    (hwrites : ∀ b, writes b (f b)) : Written writes (membersOf fields) name b? := by
  rcases b? with - | b
  · refine .absent fun hname ↦ ?_
    obtain ⟨⟨name', v⟩, hv, rfl⟩ := List.mem_map.mp hname
    have hboth := eq_of_mem_of_nodup hfields hmem (mem_membersOf.mp hv)
    cases hboth
  · exact .member (mem_membersOf.mpr hmem) (hwrites b)

end

variable {α : Type} {w : Writing α} {P : ℕ → α → Prop}

/-- The fields of a record of thresholds. -/
def ThresholdSheet.fields (w : Writing α) (t : ThresholdSheet) : List (String × Option α) :=
  [("hex", t.hex.map w.number), ("base64", t.base64.map w.number),
    ("generic", t.generic.map w.number)]

/-- The fields of a record of options. -/
def Sheet.fields (w : Writing α) (s : Sheet) : List (String × Option α) :=
  [("entropyThresholdsByAlphabet", s.thresholds.map fun t ↦ w.record (membersOf (t.fields w))),
    ("minimumLength", s.minimumLength.map w.length),
    ("ignoreContent", s.ignoreContent.map w.matchers),
    ("ignoreIdentifiers", s.ignoreIdentifiers.map w.matchers),
    ("ignoreModules", s.ignoreModules.map w.flag),
    ("additionalRegexes", s.additional.map fun m ↦ w.patterns m.entries)]

theorem ThresholdSheet.isWritten_membersOf (w : Writing α) (t : ThresholdSheet) :
    t.IsWritten w (membersOf (t.fields w)) := by
  have hfields : ((t.fields w).map Prod.fst).Nodup := by
    show ThresholdOverrides.names.Nodup
    decide
  exact {
    nodup := hfields.sublist (map_fst_membersOf_sublist _)
    names := fun m hm ↦ (map_fst_membersOf_sublist _).subset (List.mem_map_of_mem hm)
    hex := written_membersOf hfields (.head _) fun _ ↦ rfl
    base64 := written_membersOf hfields (.tail _ (.head _)) fun _ ↦ rfl
    generic := written_membersOf hfields (.tail _ (.tail _ (.head _))) fun _ ↦ rfl }

theorem Sheet.isWritten_membersOf (harranged : ∀ es, w.arranged es es) (s : Sheet) :
    s.IsWritten w (membersOf (s.fields w)) := by
  have hfields : ((s.fields w).map Prod.fst).Nodup := by
    show Options.names.Nodup
    decide
  exact {
    nodup := hfields.sublist (map_fst_membersOf_sublist _)
    names := fun m hm ↦ (map_fst_membersOf_sublist _).subset (List.mem_map_of_mem hm)
    thresholds := written_membersOf hfields (.head _) fun t ↦ ⟨_, t.isWritten_membersOf w, rfl⟩
    minimumLength := written_membersOf hfields (.tail _ (.head _)) fun _ ↦ rfl
    ignoreContent := written_membersOf hfields (.tail _ (.tail _ (.head _))) fun _ ↦ rfl
    ignoreIdentifiers :=
      written_membersOf hfields (.tail _ (.tail _ (.tail _ (.head _)))) fun _ ↦ rfl
    ignoreModules :=
      written_membersOf hfields (.tail _ (.tail _ (.tail _ (.tail _ (.head _))))) fun _ ↦ rfl
    additional :=
      written_membersOf hfields (.tail _ (.tail _ (.tail _ (.tail _ (.tail _ (.head _))))))
        fun m ↦ ⟨m.entries, harranged _, rfl⟩ }

/-! ### Values -/

/-- What a writing writes has texts. An array or a record takes one of the room. -/
structure Writing.IsSpelled (w : Writing α) (P : ℕ → α → Prop) : Prop where
  /-- A threshold. -/
  number : ∀ room l, P room (w.number l)
  /-- A number of characters. -/
  length : ∀ room, ∀ n < 0x10000000000000000, P room (w.length n)
  /-- A text. -/
  text : ∀ room s, P room (w.text s)
  /-- A truth value. -/
  flag : ∀ room b, P room (w.flag b)
  /-- Values in order. -/
  array : ∀ room vs, (∀ v ∈ vs, P room v) → P (room + 1) (w.array vs)
  /-- Values under names. -/
  record : ∀ room ms, (ms.map Prod.fst).Nodup → (∀ m ∈ ms, P room m.2) → P (room + 1) (w.record ms)

theorem Writing.IsSpelled.matchers (hw : w.IsSpelled P) (room : ℕ) (m : OneOrMany String) :
    P (room + 1) (w.matchers m) := by
  cases m with
  | one s => exact hw.text _ s
  | many ss =>
    refine hw.array room _ fun v hv ↦ ?_
    obtain ⟨s, -, rfl⟩ := List.mem_map.mp hv
    exact hw.text room s

theorem Writing.IsSpelled.patterns (hw : w.IsSpelled P) (room : ℕ) (m : LabelMap String) :
    P (room + 1) (w.patterns m.entries) := by
  refine hw.record room _ ?_ fun e he ↦ ?_
  · rw [List.map_map]
    exact m.nodup
  · obtain ⟨e, -, rfl⟩ := List.mem_map.mp he
    exact hw.text room e.2

theorem Writing.IsSpelled.thresholds (hw : w.IsSpelled P) (room : ℕ) (t : ThresholdSheet) :
    P (room + 1) (w.record (membersOf (t.fields w))) := by
  refine hw.record room _ (t.isWritten_membersOf w).nodup fun m hm ↦ ?_
  have hfield := mem_membersOf.mp hm
  have hnumber {l? : Option Literal} (h : some m.2 = l?.map w.number) : P room m.2 := by
    obtain ⟨l, -, hl⟩ := Option.map_eq_some_iff.mp h.symm
    exact hl ▸ hw.number room l
  simp only [ThresholdSheet.fields, List.mem_cons, Prod.mk.injEq, List.not_mem_nil,
    or_false] at hfield
  rcases hfield with ⟨-, h⟩ | ⟨-, h⟩ | ⟨-, h⟩
  · exact hnumber h
  · exact hnumber h
  · exact hnumber h

/-- **The members of a sheet** have texts. -/
theorem Sheet.spelled_of_mem (hw : w.IsSpelled P) (room : ℕ) (s : Sheet) {m : String × α}
    (hm : m ∈ membersOf (s.fields w)) : P (room + 1) m.2 := by
  have hfield := mem_membersOf.mp hm
  have hvalue {β : Type} {b? : Option β} {f : β → α} (h : some m.2 = b?.map f)
      (hf : ∀ b ∈ b?, P (room + 1) (f b)) : P (room + 1) m.2 := by
    obtain ⟨b, hb, hv⟩ := Option.map_eq_some_iff.mp h.symm
    exact hv ▸ hf b hb
  simp only [Sheet.fields, List.mem_cons, Prod.mk.injEq, List.not_mem_nil, or_false] at hfield
  rcases hfield with ⟨-, h⟩ | ⟨-, h⟩ | ⟨-, h⟩ | ⟨-, h⟩ | ⟨-, h⟩ | ⟨-, h⟩
  · exact hvalue h fun t _ ↦ hw.thresholds room t
  · exact hvalue h fun n hn ↦ hw.length _ n (s.minimumLength_lt n hn)
  · exact hvalue h fun m _ ↦ hw.matchers room m
  · exact hvalue h fun m _ ↦ hw.matchers room m
  · exact hvalue h fun b _ ↦ hw.flag _ b
  · exact hvalue h fun m _ ↦ hw.patterns room m

/-! ### JSON -/

namespace Json

theorem exists_spells_items {room : ℕ} {vs : List Json}
    (h : ∀ v ∈ vs, ∃ cs, Spells room (.value v) cs) (first : Bool) :
    ∃ cs, Spells room (.items first vs) cs := by
  induction vs generalizing first with
  | nil => exact ⟨_, .noItem blank_nil⟩
  | cons v vs ih =>
    obtain ⟨cs, hcs⟩ := h v List.mem_cons_self
    obtain ⟨more, hmore⟩ := ih (fun v hv ↦ h v (List.mem_cons_of_mem _ hv)) false
    exact ⟨_, .item blank_nil blank_nil hcs hmore⟩

theorem exists_spells_members {room : ℕ} {ms : List (String × Json)}
    (h : ∀ m ∈ ms, ∃ cs, Spells room (.value m.2) cs) (first : Bool) :
    ∃ cs, Spells room (.members first ms) cs := by
  induction ms generalizing first with
  | nil => exact ⟨_, .noMember blank_nil⟩
  | cons m ms ih =>
    obtain ⟨cs, hcs⟩ := h m List.mem_cons_self
    obtain ⟨more, hmore⟩ := ih (fun m hm ↦ h m (List.mem_cons_of_mem _ hm)) false
    exact ⟨_, .member blank_nil blank_nil blank_nil blank_nil (spellsText_flatMap_escape _) hcs
      hmore⟩

/-- **JSON** has texts for what it writes. -/
theorem isSpelled_writing : writing.IsSpelled fun room v ↦ ∃ cs, Spells room (.value v) cs where
  number _ l := ⟨_, .number l.json_eq⟩
  length _ n hn :=
    ⟨_, spells_natural_iff.mpr ⟨.ofNat n, rfl, rfl, rfl, Numeral.value_whole_ofNat n, hn⟩⟩
  text _ s := ⟨_, .string (spellsText_flatMap_escape _)⟩
  flag _ b := ⟨_, .bool b⟩
  array _ vs h := by
    obtain ⟨cs, hcs⟩ := exists_spells_items h true
    exact ⟨_, .array hcs⟩
  record _ ms _ h := by
    obtain ⟨cs, hcs⟩ := exists_spells_members h true
    exact ⟨_, .object hcs⟩

end Json

/-- **Every sheet** has a JSON document. -/
theorem Sheet.exists_isJson (s : Sheet) : ∃ text, s.IsJson text := by
  have hmembers := s.isWritten_membersOf (w := Json.writing) fun _ ↦ rfl
  obtain ⟨cs, hcs⟩ := Json.isSpelled_writing.record 126 _ hmembers.nodup fun m hm ↦
    s.spelled_of_mem Json.isSpelled_writing 125 hm
  refine ⟨.ofList cs, _, hmembers, [], [], cs, Json.blank_nil, Json.blank_nil, hcs, ?_⟩
  rw [String.toList_ofList, List.append_nil, List.nil_append]

/-! ### TOML -/

namespace Toml

/-- Every character can be written between quotation marks. -/
theorem exists_spellsChar (c : Char) : ∃ cs, SpellsChar c cs := by
  by_cases hquote : c = '"'
  · subst hquote
    exact ⟨_, .short (.head _)⟩
  by_cases hslash : c = '\\'
  · subst hslash
    exact ⟨_, .short (.tail _ (.head _))⟩
  rcases hplain : isPlain c with - | -
  · have hcontrol : c.toNat < 128 := by
      simp only [isPlain, Bool.or_eq_false_iff, Bool.and_eq_false_iff, decide_eq_false_iff_not,
        bne_eq_false_iff_eq] at hplain
      omega
    have hhex : ∀ n : Fin 128,
        ['0', '0', Json.hexDigit (n / 16), Json.hexDigit (n % 16)].all isHexDigit = true ∧
          ['0', '0', Json.hexDigit (n / 16), Json.hexDigit (n % 16)].foldl
            (fun n c ↦ 16 * n + Unicode.hexValue c) 0 = n := by
      decide +kernel
    obtain ⟨hdigits, hvalue⟩ := hhex ⟨c.toNat, hcontrol⟩
    exact ⟨_, .code (.tail _ (.head _)) ⟨rfl, hdigits, hvalue⟩⟩
  · exact ⟨_, .plain hplain hquote hslash⟩

theorem exists_quoted (s : String) : ∃ q, Quoted s q := by
  suffices heach : ∀ cs, ∃ ts, SpellsEach SpellsChar cs ts by
    obtain ⟨ts, hts⟩ := heach s.toList
    exact ⟨_, .basic hts⟩
  intro cs
  induction cs with
  | nil => exact ⟨_, .nil⟩
  | cons c cs ih =>
    obtain ⟨ts, hts⟩ := ih
    obtain ⟨es, hes⟩ := exists_spellsChar c
    exact ⟨_, .cons hes hts⟩

theorem exists_spells_items {room : ℕ} {vs : List Toml}
    (h : ∀ v ∈ vs, ∃ cs, Spells room (.value v) cs) : ∃ cs, Spells room (.items vs) cs := by
  induction vs with
  | nil => exact ⟨_, .noItem .nil⟩
  | cons v vs ih =>
    obtain ⟨cs, hcs⟩ := h v List.mem_cons_self
    obtain ⟨more, hmore⟩ := ih fun v hv ↦ h v (List.mem_cons_of_mem _ hv)
    exact ⟨_, .item .nil .nil hcs hmore⟩

theorem exists_spells_members {room : ℕ} {ms : List (String × Toml)}
    (h : ∀ m ∈ ms, ∃ cs, Spells room (.value m.2) cs) : ∃ cs, Spells room (.members ms) cs := by
  induction ms with
  | nil => exact ⟨_, .noMember .nil⟩
  | cons m ms ih =>
    obtain ⟨cs, hcs⟩ := h m List.mem_cons_self
    obtain ⟨more, hmore⟩ := ih fun m hm ↦ h m (List.mem_cons_of_mem _ hm)
    obtain ⟨q, hq⟩ := exists_quoted m.1
    exact ⟨_, .member .nil (.quoted hq) space_nil space_nil hcs .nil hmore⟩

/-- Lines of keys. -/
theorem exists_lines {ms : List (String × Toml)}
    (h : ∀ m ∈ ms, ∃ cs, Spells depthLimit (.value m.2) cs) : ∃ cs, Lines ms [] cs := by
  induction ms with
  | nil => exact ⟨_, .finish .nil⟩
  | cons m ms ih =>
    obtain ⟨cs, hcs⟩ := h m List.mem_cons_self
    obtain ⟨more, hmore⟩ := ih fun m hm ↦ h m (List.mem_cons_of_mem _ hm)
    obtain ⟨q, hq⟩ := exists_quoted m.1
    exact ⟨_, .pair .nil (.quoted hq) space_nil space_nil hcs (.newline space_nil (.inl rfl)) hmore⟩

/-- **TOML** has texts for what it writes. -/
theorem isSpelled_writing : writing.IsSpelled fun room v ↦ ∃ cs, Spells room (.value v) cs where
  number _ l := ⟨_, .number l.toml_eq⟩
  length _ n _ := by
    have hn : (Numeral.ofNat n).toml? = some (.integer n) := by
      show some (Toml.integer (Numeral.ofNat n).whole.value) = _
      rw [Numeral.value_whole_ofNat]
    exact ⟨_, .number hn⟩
  text _ s := by
    obtain ⟨q, hq⟩ := exists_quoted s
    exact ⟨_, .string hq⟩
  flag _ b := ⟨_, .bool b⟩
  array _ vs h := by
    obtain ⟨cs, hcs⟩ := exists_spells_items h
    exact ⟨_, .array hcs⟩
  record _ ms hms h := by
    obtain ⟨cs, hcs⟩ := exists_spells_members h
    exact ⟨_, .table hms hcs⟩

end Toml

/-- **Every sheet** has a TOML document. -/
theorem Sheet.exists_isToml (s : Sheet) : ∃ text, s.IsToml text := by
  have hmembers := s.isWritten_membersOf (w := Toml.writing) List.Perm.refl
  obtain ⟨cs, hcs⟩ := Toml.exists_lines fun m hm ↦
    s.spelled_of_mem Toml.isSpelled_writing 79 hm
  refine ⟨.ofList cs, _, hmembers, _, [], ?_, hmembers.nodup, ?_, (List.append_nil _).symm⟩
  · rwa [String.toList_ofList]
  · exact fun t ht ↦ absurd ht List.not_mem_nil

end SecretScan
