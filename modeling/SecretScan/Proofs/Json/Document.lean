import SecretScan.Proofs.Json.Number
import SecretScan.Proofs.Json.Text

/-!
# JSON documents

The grammar of JSON is a relation here, `Spells room phrase text`: what a value is written as, and
beside it what stands behind the opening bracket of an array or of an object. `room` is how many
arrays and objects may stand inside each other. There are many texts for a value, since blanks may
stand anywhere between its parts, characters have several spellings, and so have numbers; but each
text has one value, and reading finds it:

```
Spells room (.value v) cs  →  readValue fuel room (cs ++ rest) = (v, some rest)
```

The induction is over the grammar (`Spells.read`). What it says of a value holds whatever comes
behind it, unless that could go on with a number, and what it says of items and members goes to the
closing bracket.
-/

namespace SecretScan.Json

/-! ### The grammar -/

/-- Whether a character may stand between the parts of a document. -/
def isBlank (c : Char) : Bool := c == ' ' || c == '\n' || c == '\t' || c == '\r'

/-- Nothing but blanks. -/
def Blank (cs : List Char) : Prop := ∀ c ∈ cs, isBlank c = true

instance : DecidablePred Blank := List.decidableBAll _

theorem blank_nil : Blank [] := List.forall_mem_nil _

/-- What is written. -/
inductive Phrase where
  /-- A value. -/
  | value (v : Json)
  /-- The items of an array up to its closing bracket; `first` tells that none is before them. -/
  | items (first : Bool) (vs : List Json)
  /-- The members of an object up to its closing bracket. -/
  | members (first : Bool) (ms : List (String × Json))

/-- A comma stands before all items but the first. -/
def comma (first : Bool) : List Char := if first then [] else [',']

/-- The texts of a phrase, in which `room` arrays and objects may stand inside each other. -/
inductive Spells : (room : ℕ) → Phrase → List Char → Prop where
  /-- `null` -/
  | null {room : ℕ} : Spells room (.value .null) ['n', 'u', 'l', 'l']
  /-- A truth value is a word. -/
  | bool {room : ℕ} (b : Bool) : Spells room (.value (.bool b)) (word b)
  /-- A number is a numeral that is not too large. -/
  | number {room : ℕ} {n : Numeral} {k : Number} (h : n.json = .ok k) :
      Spells room (.value (.number k)) n.text
  /-- A text stands between quotation marks. -/
  | string {room : ℕ} {s : String} {ts : List Char} (h : SpellsText s.toList ts) :
      Spells room (.value (.string s)) ('"' :: (ts ++ ['"']))
  /-- An array takes one of the room. -/
  | array {room : ℕ} {vs : List Json} {cs : List Char} (h : Spells room (.items true vs) cs) :
      Spells (room + 1) (.value (.array vs none)) ('[' :: cs)
  /-- So does an object. -/
  | object {room : ℕ} {ms : List (String × Json)} {cs : List Char}
      (h : Spells room (.members true ms) cs) :
      Spells (room + 1) (.value (.object ms none)) ('{' :: cs)
  /-- Behind the last item the array is closed. -/
  | noItem {room : ℕ} {first : Bool} {b : List Char} (hb : Blank b) :
      Spells room (.items first []) (b ++ [']'])
  /-- An item, and the others behind it. -/
  | item {room : ℕ} {first : Bool} {v : Json} {vs : List Json} {b₁ b₂ cs more : List Char}
      (h₁ : Blank b₁) (h₂ : Blank b₂) (hv : Spells room (.value v) cs)
      (hvs : Spells room (.items false vs) more) :
      Spells room (.items first (v :: vs)) (b₁ ++ (comma first ++ (b₂ ++ (cs ++ more))))
  /-- Behind the last member the object is closed. -/
  | noMember {room : ℕ} {first : Bool} {b : List Char} (hb : Blank b) :
      Spells room (.members first []) (b ++ ['}'])
  /-- A member, and the others behind it. -/
  | member {room : ℕ} {first : Bool} {name : String} {v : Json} {ms : List (String × Json)}
      {b₁ b₂ b₃ b₄ ts cs more : List Char} (h₁ : Blank b₁) (h₂ : Blank b₂) (h₃ : Blank b₃)
      (h₄ : Blank b₄) (hname : SpellsText name.toList ts) (hv : Spells room (.value v) cs)
      (hms : Spells room (.members false ms) more) :
      Spells room (.members first ((name, v) :: ms))
        (b₁ ++ (comma first ++ (b₂ ++ '"' :: (ts ++ '"' :: (b₃ ++ ':' :: (b₄ ++ (cs ++ more)))))))

/-- A document holds one value, with blanks around it. -/
def IsDocument (v : Json) (cs : List Char) : Prop :=
  ∃ b₁ b₂ token, Blank b₁ ∧ Blank b₂ ∧ Spells depthLimit (.value v) token ∧
    cs = b₁ ++ (token ++ b₂)

/-! ### Blanks -/

theorem dropBlank_append {b : List Char} (hb : Blank b) (cs : List Char) :
    dropBlank (b ++ cs) = dropBlank cs :=
  List.dropWhile_append_of_pos hb

theorem dropBlank_cons {c : Char} (hc : isBlank c = false) (cs : List Char) :
    dropBlank (c :: cs) = c :: cs :=
  List.dropWhile_cons_of_neg (by rw [← isBlank, hc]; exact Bool.false_ne_true)

theorem dropBlank_of_blank {b : List Char} (hb : Blank b) : dropBlank b = [] := by
  have h := dropBlank_append hb []
  rwa [List.append_nil] at h

/-- Neither a blank nor a mark goes on with a number. -/
theorem endsNumeral_append {b : List Char} (hb : Blank b) {cs : List Char}
    (hcs : EndsNumeral cs) : EndsNumeral (b ++ cs) := by
  rcases b with - | ⟨c, b⟩
  · exact hcs
  · intro c' hc'
    obtain rfl := Option.some.inj hc'
    have hc := hb _ List.mem_cons_self
    simp only [isBlank, Bool.or_eq_true, beq_iff_eq] at hc
    rcases hc with ((rfl | rfl) | rfl) | rfl <;> decide

theorem endsNumeral_mark {c : Char} {cs : List Char} (hc : c = ',' ∨ c = ']' ∨ c = '}') :
    EndsNumeral (c :: cs) := by
  intro c' hc'
  obtain rfl := Option.some.inj hc'
  rcases hc with rfl | rfl | rfl <;> decide

theorem endsNumeral_of_blank {b : List Char} (hb : Blank b) : EndsNumeral b := by
  have h : EndsNumeral (b ++ []) := endsNumeral_append hb fun c hc ↦ by cases hc
  rwa [List.append_nil] at h

/-- Behind an item comes a blank or a mark. -/
theorem Spells.endsNumeral_items {room : ℕ} {vs : List Json} {cs : List Char}
    (h : Spells room (.items false vs) cs) (rest : List Char) : EndsNumeral (cs ++ rest) := by
  cases h with
  | noItem hb =>
    rw [List.append_assoc]
    exact endsNumeral_append hb (endsNumeral_mark (.inr (.inl rfl)))
  | item h₁ =>
    rw [List.append_assoc]
    exact endsNumeral_append h₁ (endsNumeral_mark (.inl rfl))

/-- Behind the value of a member comes a blank or a mark. -/
theorem Spells.endsNumeral_members {room : ℕ} {ms : List (String × Json)} {cs : List Char}
    (h : Spells room (.members false ms) cs) (rest : List Char) : EndsNumeral (cs ++ rest) := by
  cases h with
  | noMember hb =>
    rw [List.append_assoc]
    exact endsNumeral_append hb (endsNumeral_mark (.inr (.inr rfl)))
  | member h₁ =>
    rw [List.append_assoc]
    exact endsNumeral_append h₁ (endsNumeral_mark (.inl rfl))

/-! ### How values start -/

/-- Whether a value may start with a character. -/
def startsValue (c : Char) : Bool := ['n', 't', 'f', '"', '-', '[', '{'].contains c || c.isDigit

theorem ne_of_startsValue {c : Char} (h : startsValue c = true) :
    isBlank c = false ∧ c ≠ ']' ∧ c ≠ ',' := by
  have hne (d : Char) (hd : startsValue d = false) : c ≠ d := by
    rintro rfl
    rw [h] at hd
    cases hd
  refine ⟨?_, hne ']' (by decide), hne ',' (by decide)⟩
  simp only [isBlank, Bool.or_eq_false_iff, beq_eq_false_iff_ne]
  exact ⟨⟨⟨hne ' ' (by decide), hne '\n' (by decide)⟩, hne '\t' (by decide)⟩,
    hne '\r' (by decide)⟩

theorem Spells.exists_cons {room : ℕ} {v : Json} {cs : List Char}
    (h : Spells room (.value v) cs) : ∃ c rest, cs = c :: rest ∧ startsValue c = true := by
  cases h with
  | null => exact ⟨_, _, rfl, by decide⟩
  | bool b => cases b <;> exact ⟨_, _, rfl, by decide⟩
  | @number _ n =>
    rw [Numeral.text]
    cases n.isNegative with
    | true => exact ⟨_, _, rfl, by decide⟩
    | false =>
      obtain ⟨c, rest, hchars, hc⟩ := n.whole.exists_cons
      refine ⟨c, rest ++ (n.fractionText ++ n.exponentText), ?_, ?_⟩
      · show n.body = _
        rw [Numeral.body, hchars, List.cons_append]
      · rw [startsValue, hc, Bool.or_true]
  | string => exact ⟨_, _, rfl, by decide⟩
  | array => exact ⟨_, _, rfl, by decide⟩
  | object => exact ⟨_, _, rfl, by decide⟩

theorem Spells.length_pos {room : ℕ} {p : Phrase} {cs : List Char} (h : Spells room p cs) :
    0 < cs.length := by
  have hvalue {v : Json} {cs : List Char} (h : Spells room (.value v) cs) : 0 < cs.length := by
    obtain ⟨c, rest, rfl, -⟩ := h.exists_cons
    exact Nat.succ_pos _
  cases p with
  | value v => exact hvalue h
  | items first vs =>
    cases h with
    | noItem => simp
    | item _ _ hv =>
      have hcs := hvalue hv
      simp only [List.length_append]
      omega
  | members first ms => cases h <;> simp

/-! ### Reading -/

/-- Blanks in front of a value do not count. -/
theorem readValue_append {b : List Char} (hb : Blank b) (fuel room : ℕ) (cs : List Char) :
    readValue fuel room (b ++ cs) = readValue fuel room cs := by
  cases fuel with
  | zero => rfl
  | succ fuel => rw [readValue, readValue, dropBlank_append hb]

theorem readValue_digit {c : Char} (hc : c.isDigit = true) (fuel room : ℕ) (cs : List Char) :
    readValue (fuel + 1) room (c :: cs) = settle .number (Number.read false (c :: cs)) := by
  have hblank : isBlank c = false :=
    (ne_of_startsValue (by rw [startsValue, hc, Bool.or_true])).1
  rw [readValue, dropBlank_cons hblank]
  split
  · next h => cases h
  · next h => cases h; cases hc
  · next h => cases h; cases hc
  · next h => cases h; cases hc
  · next h => cases h; cases hc
  · next h => cases h; cases hc
  · next h => cases h; cases hc
  · next h => cases h; cases hc
  · next h =>
    cases h
    rw [if_pos hc]

theorem readValue_number {n : Numeral} {k : Number} (h : n.json = .ok k) {rest : List Char}
    (hrest : EndsNumeral rest) (fuel room : ℕ) :
    readValue (fuel + 1) room (n.text ++ rest) = (.number k, some rest) := by
  have hread := Numeral.read_body (n := n) hrest
  rw [h] at hread
  rw [Numeral.text]
  rcases hsign : n.isNegative with - | -
  · obtain ⟨c, cs, hchars, hc⟩ := n.whole.exists_cons
    rw [hsign, Numeral.body, hchars] at hread
    show readValue (fuel + 1) room (n.body ++ rest) = _
    rw [Numeral.body, hchars, List.cons_append, List.cons_append, readValue_digit hc]
    rw [List.cons_append, List.cons_append] at hread
    rw [hread]
    rfl
  · rw [hsign] at hread
    show settle Json.number (Number.read true (n.body ++ rest)) = _
    rw [hread]
    rfl

/-- An array is what its items are read as. -/
theorem readValue_array (fuel room : ℕ) (cs : List Char) :
    readValue (fuel + 1) (room + 1) ('[' :: cs) =
      (.array (readItems fuel room true cs).1 (readItems fuel room true cs).2.1,
        (readItems fuel room true cs).2.2) := rfl

/-- An object is what its members are read as. -/
theorem readValue_object (fuel room : ℕ) (cs : List Char) :
    readValue (fuel + 1) (room + 1) ('{' :: cs) =
      (.object (readMembers fuel room true cs).1 (readMembers fuel room true cs).2.1,
        (readMembers fuel room true cs).2.2) := rfl

/-- An item is read, and then what is behind it. -/
theorem readItems_item {fuel room : ℕ} {first : Bool} {v : Json} {vs : List Json}
    {b₁ b₂ cs rest rest' : List Char} (h₁ : Blank b₁) (h₂ : Blank b₂)
    (hcs : ∃ c cs', cs = c :: cs' ∧ startsValue c = true)
    (hv : readValue fuel room cs = (v, some rest))
    (hvs : readItems fuel room false rest = (vs, none, some rest')) :
    readItems (fuel + 1) room first (b₁ ++ (comma first ++ (b₂ ++ cs))) =
      (v :: vs, none, some rest') := by
  obtain ⟨c, cs', rfl, hc⟩ := hcs
  obtain ⟨hblank, hclose, -⟩ := ne_of_startsValue hc
  cases first with
  | false =>
    have hdrop : dropBlank (b₁ ++ (comma false ++ (b₂ ++ c :: cs'))) = ',' :: (b₂ ++ c :: cs') := by
      rw [dropBlank_append h₁]
      rfl
    rw [readItems, hdrop]
    simp [readValue_append h₂, hv, hvs]
  | true =>
    have hdrop : dropBlank (b₁ ++ (comma true ++ (b₂ ++ c :: cs'))) = c :: cs' := by
      rw [dropBlank_append h₁]
      show dropBlank (b₂ ++ c :: cs') = _
      rw [dropBlank_append h₂, dropBlank_cons hblank]
    rw [readItems, hdrop]
    split
    · next h => cases h
    · next h =>
      cases h
      exact absurd rfl hclose
    · next h =>
      cases h
      simp [hv, hvs]

/-- A member is read, and then what is behind it. -/
theorem readMembers_member {fuel room : ℕ} {first : Bool} {name : String} {v : Json}
    {ms : List (String × Json)} {b₁ b₂ b₃ ts cs rest rest' : List Char} (h₁ : Blank b₁)
    (h₂ : Blank b₂) (h₃ : Blank b₃) (hname : SpellsText name.toList ts)
    (hv : readValue fuel room cs = (v, some rest))
    (hms : readMembers fuel room false rest = (ms, none, some rest')) :
    readMembers (fuel + 1) room first
        (b₁ ++ (comma first ++ (b₂ ++ '"' :: (ts ++ '"' :: (b₃ ++ ':' :: cs))))) =
      ((name, v) :: ms, none, some rest') := by
  have hstring : readString (ts ++ '"' :: (b₃ ++ ':' :: cs)) = .ok (name, b₃ ++ ':' :: cs) := by
    rw [readString_of_spellsText hname, String.ofList_toList]
  have hcolon : dropBlank (b₃ ++ ':' :: cs) = ':' :: cs := by
    rw [dropBlank_append h₃]
    rfl
  have hmark (b cs : List Char) (hb : Blank b) : dropBlank (b ++ '"' :: cs) = '"' :: cs := by
    rw [dropBlank_append hb]
    rfl
  cases first with
  | false =>
    have hdrop (cs : List Char) : dropBlank (b₁ ++ (comma false ++ cs)) = ',' :: cs := by
      rw [dropBlank_append h₁]
      rfl
    rw [readMembers, hdrop]
    simp [hmark _ _ h₂, hstring, hcolon, hv, hms]
  | true =>
    have hdrop (cs : List Char) : dropBlank (b₁ ++ (comma true ++ cs)) = dropBlank cs := by
      rw [dropBlank_append h₁]
      rfl
    rw [readMembers, hdrop, hmark _ _ h₂]
    simp [hstring, hcolon, hv, hms]

/-- What reading a phrase means. -/
def Phrase.IsReadFrom (room : ℕ) : Phrase → List Char → Prop
  | .value v, cs => ∀ fuel rest, cs.length ≤ fuel → EndsNumeral rest →
      readValue fuel room (cs ++ rest) = (v, some rest)
  | .items first vs, cs => ∀ fuel rest, cs.length ≤ fuel →
      readItems fuel room first (cs ++ rest) = (vs, none, some rest)
  | .members first ms, cs => ∀ fuel rest, cs.length ≤ fuel →
      readMembers fuel room first (cs ++ rest) = (ms, none, some rest)

/-- **Reading finds what is spelled.** -/
theorem Spells.read {room : ℕ} {p : Phrase} {cs : List Char} (h : Spells room p cs) :
    p.IsReadFrom room cs := by
  -- Each phrase has a character, and so there is fuel for a round.
  have hround {fuel n : ℕ} (h : n + 1 ≤ fuel) : ∃ f, fuel = f + 1 ∧ n ≤ f :=
    ⟨fuel - 1, by omega, by omega⟩
  induction h with
  | null =>
    intro fuel rest hfuel _
    obtain ⟨fuel, rfl, -⟩ := hround hfuel
    rfl
  | bool b =>
    intro fuel rest hfuel _
    cases b with
    | false =>
      obtain ⟨fuel, rfl, -⟩ := hround hfuel
      rfl
    | true =>
      obtain ⟨fuel, rfl, -⟩ := hround hfuel
      rfl
  | @number _ n k h =>
    intro fuel rest hfuel hrest
    obtain ⟨c, cs, hcs, -⟩ := (Spells.number h : Spells 0 _ _).exists_cons
    rw [hcs] at hfuel
    obtain ⟨fuel, rfl, -⟩ := hround hfuel
    exact readValue_number h hrest fuel _
  | @string _ s ts h =>
    intro fuel rest hfuel _
    obtain ⟨fuel, rfl, -⟩ := hround hfuel
    show settle Json.string (readString (ts ++ ['"'] ++ rest)) = _
    rw [List.append_assoc, List.singleton_append, readString_of_spellsText h, String.ofList_toList]
    rfl
  | @array room vs cs _ ih =>
    intro fuel rest hfuel _
    obtain ⟨fuel, rfl, hleft⟩ := hround hfuel
    rw [List.cons_append, readValue_array, ih fuel rest hleft]
  | @object room ms cs _ ih =>
    intro fuel rest hfuel _
    obtain ⟨fuel, rfl, hleft⟩ := hround hfuel
    rw [List.cons_append, readValue_object, ih fuel rest hleft]
  | noItem hb =>
    intro fuel rest hfuel
    rw [List.length_append] at hfuel
    obtain ⟨fuel, rfl, -⟩ := hround hfuel
    rw [List.append_assoc, readItems, dropBlank_append hb]
    rfl
  | @item room first v vs b₁ b₂ cs more h₁ h₂ hv hvs ihv ihvs =>
    intro fuel rest hfuel
    have hcs : 0 < cs.length := hv.length_pos
    have hmore : 0 < more.length := hvs.length_pos
    simp only [List.length_append] at hfuel
    obtain ⟨fuel, rfl, -⟩ := hround (Nat.le_trans (by omega : 0 + 1 ≤ _) hfuel)
    have hread : readValue fuel room (cs ++ (more ++ rest)) = (v, some (more ++ rest)) :=
      ihv fuel _ (by omega) (hvs.endsNumeral_items rest)
    obtain ⟨c, cs', hcons, hc⟩ := hv.exists_cons
    simp only [List.append_assoc]
    exact readItems_item h₁ h₂ ⟨c, cs' ++ (more ++ rest), by rw [hcons]; rfl, hc⟩ hread
      (ihvs fuel rest (by omega))
  | noMember hb =>
    intro fuel rest hfuel
    rw [List.length_append] at hfuel
    obtain ⟨fuel, rfl, -⟩ := hround hfuel
    rw [List.append_assoc, readMembers, dropBlank_append hb]
    rfl
  | @member room first name v ms b₁ b₂ b₃ b₄ ts cs more h₁ h₂ h₃ h₄ hname hv hms ihv ihms =>
    intro fuel rest hfuel
    have hcs : 0 < cs.length := hv.length_pos
    have hmore : 0 < more.length := hms.length_pos
    simp only [List.length_append, List.length_cons] at hfuel
    obtain ⟨fuel, rfl, -⟩ := hround (Nat.le_trans (by omega : 0 + 1 ≤ _) hfuel)
    have hread : readValue fuel room (b₄ ++ (cs ++ (more ++ rest))) = (v, some (more ++ rest)) := by
      rw [readValue_append h₄]
      exact ihv fuel _ (by omega) (hms.endsNumeral_members rest)
    simp only [List.append_assoc, List.cons_append]
    exact readMembers_member h₁ h₂ h₃ hname hread (ihms fuel rest (by omega))

/-- A value with blanks around it is read, and the blanks behind it are left. -/
theorem read_append {v : Json} {b₁ b₂ token : List Char} (h₁ : Blank b₁) (h₂ : Blank b₂)
    (h : Spells depthLimit (.value v) token) : Json.read (b₁ ++ (token ++ b₂)) = (v, some b₂) := by
  rw [Json.read, readValue_append h₁]
  refine h.read _ _ ?_ (endsNumeral_of_blank h₂)
  simp only [List.length_append]
  omega

/-- **A document** is taken apart as its value is. -/
theorem decode_of_isDocument {α : Type} {v : Json} {text : String} (h : IsDocument v text.toList)
    (take : Json → Except JsonFault α) : decode take text = take v := by
  obtain ⟨b₁, b₂, token, h₁, h₂, htoken, htext⟩ := h
  rw [decode, htext, read_append h₁ h₂ htoken]
  show (take v >>= fun a ↦ if dropBlank b₂ = [] then pure a else _) = _
  rw [dropBlank_of_blank h₂]
  cases take v <;> rfl

/-- A text is a document of one value at most. -/
theorem IsDocument.unique {v v' : Json} {cs : List Char} (h : IsDocument v cs)
    (h' : IsDocument v' cs) : v = v' := by
  obtain ⟨b₁, b₂, token, h₁, h₂, htoken, htext⟩ := h
  obtain ⟨b₁', b₂', token', h₁', h₂', htoken', htext'⟩ := h'
  have hread := read_append h₁ h₂ htoken
  rw [← htext, htext', read_append h₁' h₂' htoken'] at hread
  exact (Prod.mk.inj hread).1.symm

/-- **Whole numbers of 64 bits** are written as digits and nothing else. -/
theorem spells_natural_iff {room k : ℕ} {cs : List Char} :
    Spells room (.value (.number (.natural k))) cs ↔ ∃ n : Numeral, cs = n.text ∧
      n.isNegative = false ∧ n.isWhole = true ∧ n.whole.value = k ∧ k < 0x10000000000000000 := by
  constructor
  · intro h
    cases h with
    | @number _ n _ h => exact ⟨n, rfl, Numeral.json_eq_natural_iff.mp h⟩
  · rintro ⟨n, rfl, hn⟩
    exact .number (Numeral.json_eq_natural_iff.mpr hn)

end SecretScan.Json
