import SecretScan.Proofs.Pattern.Shapes

/-!
# Values in quotation marks

Five patterns of the table look for a value in quotation marks that stands behind a telling word.
In terms of texts this is a property of a single line (`QuotedValue.StandsIn`): the word, in any
mixture of cases, and somewhere behind it a quotation mark, as many signs of one kind as there are,
their number within bounds, and a quotation mark again:

```
k.label ∈ r.matchingLabels text  ↔  ∃ line ∈ lines text, k.StandsIn line.toList
```

Each expression says at first sight less, for it asks for *some* number of signs between two marks.
But a quotation mark is no sign, so between two marks there is no choice (`QuotedValue.opens_iff`).
The words of the five expressions are known from their shapes, and a word without a line feed that
stands in a text stands in one of its lines.
-/

namespace SecretScan

/-- A quotation mark of either kind. -/
def IsQuote (c : Char) : Prop := c = '\'' ∨ c = '"'

/-- What a pattern for values in quotation marks looks for. -/
structure QuotedValue where
  /-- The label of the pattern. -/
  label : String
  /-- The words of which one stands before the value, in small letters. -/
  markers : List String
  /-- Which characters the value consists of. -/
  sign : Char → Bool
  /-- The least number of signs. -/
  least : ℕ
  /-- The greatest number of signs. -/
  most : ℕ

namespace QuotedValue

/-- A marker is written, its letters in any mixture of cases. -/
def IsMarker (k : QuotedValue) (cs : List Char) : Prop :=
  ∃ word ∈ k.markers, cs.map Char.toLower = word.toList

/-- A text starts with a value in quotation marks: the signs behind the first mark are within the
bounds, all of them counted, and the next character is a mark again. -/
def Opens (k : QuotedValue) : List Char → Prop
  | [] => False
  | quote :: rest =>
    IsQuote quote ∧ k.least ≤ (rest.takeWhile k.sign).length ∧
      (rest.takeWhile k.sign).length ≤ k.most ∧ ∃ c ∈ (rest.dropWhile k.sign).head?, IsQuote c

/-- A line holds a marker and behind that a value in quotation marks. -/
def StandsIn (k : QuotedValue) (line : List Char) : Prop :=
  ∃ before marker between value, line = before ++ marker ++ between ++ value ∧
    k.IsMarker marker ∧ k.Opens value

/-- The patterns for values in quotation marks. -/
def all : List QuotedValue := [
  { label := "GitHub", markers := ["github"], sign := Char.isAlphanum, least := 35, most := 40 },
  { label := "Facebook Oauth", markers := ["facebook"]
    sign := fun c ↦ c.isDigit || ('a' ≤ c && c ≤ 'f'), least := 32, most := 32 },
  { label := "Twitter Oauth", markers := ["twitter"], sign := Char.isAlphanum
    least := 35, most := 44 },
  { label := "Generic Secret", markers := ["secret"], sign := Char.isAlphanum
    least := 32, most := 45 },
  { label := "Generic API Key", markers := ["apikey", "api_key"], sign := Char.isAlphanum
    least := 32, most := 45 }]

variable {k : QuotedValue}

/-! ### Between two marks -/

theorem opens_cons {quote : Char} {rest : List Char} :
    k.Opens (quote :: rest) ↔ IsQuote quote ∧ k.least ≤ (rest.takeWhile k.sign).length ∧
      (rest.takeWhile k.sign).length ≤ k.most ∧
      ∃ c ∈ (rest.dropWhile k.sign).head?, IsQuote c := Iff.rfl

/-- **No choice between two marks.** Where marks are no signs, a text starts with a value in
quotation marks if it starts with any number of signs within the bounds between two marks. -/
theorem opens_iff (hsign : ∀ c, IsQuote c → k.sign c = false) {text : List Char} :
    k.Opens text ↔ ∃ quote value quote' behind, text = quote :: (value ++ quote' :: behind) ∧
      IsQuote quote ∧ IsQuote quote' ∧ (k.least ≤ value.length ∧ value.length ≤ k.most) ∧
      ∀ c ∈ value, k.sign c = true := by
  constructor
  · intro h
    rcases text with - | ⟨quote, rest⟩
    · exact h.elim
    · obtain ⟨hquote, hleast, hmost, quote', hhead, hquote'⟩ := h
      obtain ⟨behind, hbehind⟩ := List.head?_eq_some_iff.mp hhead
      refine ⟨quote, rest.takeWhile k.sign, quote', behind, ?_, hquote, hquote', ⟨hleast, hmost⟩,
        fun c hc ↦ List.mem_takeWhile_imp hc⟩
      rw [← hbehind, List.takeWhile_append_dropWhile]
  · rintro ⟨quote, value, quote', behind, rfl, hquote, hquote', ⟨hleast, hmost⟩, hvalue⟩
    have hstop : ∀ c ∈ (quote' :: behind).head?, k.sign c = false := fun c hc ↦
      Option.some.inj hc ▸ hsign quote' hquote'
    rw [opens_cons, takeWhile_append_of_stops hvalue hstop, dropWhile_append_of_stops hvalue hstop]
    exact ⟨hquote, hleast, hmost, quote', rfl, hquote'⟩

/-! ### Patterns -/

open Builtin Regex Expr

/-- A pattern of the table looks for a value in quotation marks. -/
structure Describes (k : QuotedValue) (p : Pattern) : Prop where
  /-- It is a pattern of the table. -/
  mem : p ∈ patterns
  /-- The label is its own. -/
  label : p.label = k.label
  /-- Its expression has a marker for its words, and signs of the value behind. -/
  expr : ∃ (marker : List Plain) (signs : CharSet),
    p.regex.expr = quotedBehind marker (run k.least k.most signs) ∧
      (∀ w, w ∈ (chain marker).words ↔ k.IsMarker w) ∧
      ∀ c : Char, signs.contains c.toNat = k.sign c
  /-- Quotation marks are no signs. -/
  sign : ∀ c, IsQuote c → k.sign c = false

theorem mem_words_quotedBehind {marker : List Plain} {value : Plain} {w : List Char} :
    w ∈ (quotedBehind marker value).words ↔
      ∃ m ∈ (chain marker).words, ∃ between, '\n' ∉ between ∧ ∃ quote, IsQuote quote ∧
        ∃ v ∈ value.words, ∃ quote', IsQuote quote' ∧
          w = m ++ (between ++ quote :: (v ++ [quote'])) := by
  rw [quotedBehind, mem_words_chain_append]
  constructor
  · rintro ⟨m, hm, tail, htail, rfl⟩
    obtain ⟨between, hbetween, quoted, hquoted, rfl⟩ := mem_words_chain_cons.mp htail
    obtain ⟨first, hfirst, rest, hrest, rfl⟩ := mem_words_chain_cons.mp hquoted
    obtain ⟨v, hv, last, hlast, rfl⟩ := mem_words_chain_cons.mp hrest
    obtain ⟨quote, hquote, rfl⟩ := mem_words_quoteMark.mp hfirst
    obtain ⟨quote', hquote', rfl⟩ := mem_words_quoteMark.mp hlast
    exact ⟨m, hm, between, mem_words_restOfLine.mp hbetween, quote, hquote, v, hv, quote', hquote',
      rfl⟩
  · rintro ⟨m, hm, between, hbetween, quote, hquote, v, hv, quote', hquote', rfl⟩
    have hvalue : v ++ [quote'] ∈ (chain [value, quoteMark]).words :=
      mem_words_chain_cons.mpr ⟨v, hv, _, mem_words_quoteMark.mpr ⟨quote', hquote', rfl⟩, rfl⟩
    have hquoted : [quote] ++ (v ++ [quote']) ∈ (chain [quoteMark, value, quoteMark]).words :=
      mem_words_chain_cons.mpr ⟨_, mem_words_quoteMark.mpr ⟨quote, hquote, rfl⟩, _, hvalue, rfl⟩
    exact ⟨m, hm, _, mem_words_chain_cons.mpr
      ⟨between, mem_words_restOfLine.mpr hbetween, _, hquoted, rfl⟩, rfl⟩

namespace Describes

variable {p : Pattern} {text : String}

/-- **On one line** the expression of such a pattern finds what the pattern looks for. -/
theorem exists_word_iff (h : k.Describes p) {line : List Char} (hline : '\n' ∉ line) :
    (∃ w ∈ p.regex.expr.words, w <:+: line) ↔ k.StandsIn line := by
  obtain ⟨marker, signs, hexpr, hmarker, hsigns⟩ := h.expr
  rw [hexpr]
  constructor
  · rintro ⟨w, hw, before, behind, rfl⟩
    obtain ⟨m, hm, between, -, quote, hquote, v, hv, quote', hquote', rfl⟩ :=
      mem_words_quotedBehind.mp hw
    obtain ⟨hlength, hall⟩ := mem_words_run.mp hv
    refine ⟨before, m, between, quote :: (v ++ quote' :: behind), ?_, (hmarker m).mp hm,
      (opens_iff h.sign).mpr ⟨quote, v, quote', behind, rfl, hquote, hquote', hlength,
        fun c hc ↦ hsigns c ▸ hall c hc⟩⟩
    simp only [List.append_assoc, List.cons_append, List.nil_append]
  · rintro ⟨before, m, between, value, rfl, hm, hopens⟩
    obtain ⟨quote, v, quote', behind, rfl, hquote, hquote', hlength, hall⟩ :=
      (opens_iff h.sign).mp hopens
    have hbetween : '\n' ∉ between := fun hmem ↦
      hline (List.mem_append_left _ (List.mem_append_right _ hmem))
    have hv : v ∈ (run k.least k.most signs).words :=
      mem_words_run.mpr ⟨hlength, fun c hc ↦ (hsigns c).trans (hall c hc)⟩
    refine ⟨_, mem_words_quotedBehind.mpr ⟨m, (hmarker m).mpr hm, between, hbetween, quote, hquote,
      v, hv, quote', hquote', rfl⟩, before, behind, ?_⟩
    simp only [List.append_assoc, List.cons_append, List.nil_append]

/-- **Such a pattern fires** on the texts with a line that holds what it looks for. -/
theorem fires_iff (h : k.Describes p) :
    p.Fires text ↔ ∃ line ∈ lines text, k.StandsIn line.toList := by
  rw [Builtin.fires_iff h.mem, isMatch_iff_exists_line h.mem]
  refine exists_congr fun line ↦ and_congr_right fun hline ↦ ?_
  rw [Regex.isMatch, Expr.isMatch_iff (isPlain_patterns p h.mem)]
  refine h.exists_word_iff ?_
  obtain ⟨part, hpart, rfl⟩ := List.mem_map.mp hline
  rw [String.toList_ofList]
  exact not_mem_of_mem_splitOn hpart

end Describes

/-! ### The five patterns -/

theorem isMarker_singleton {word : String} {sign : Char → Bool} {label : String} {least most : ℕ}
    {w : List Char} :
    (QuotedValue.mk label [word] sign least most).IsMarker w ↔
      w.map Char.toLower = word.toList := by
  simp only [IsMarker, List.mem_singleton, exists_eq_left]

/-- The underscore between the two words may be missing. -/
theorem mem_words_apiKey {w : List Char} :
    w ∈ (chain (anyCase "api" ++ [.times (Builtin.sign '_') 0 (some 1)] ++ anyCase "key")).words ↔
      w.map Char.toLower = "apikey".toList ∨ w.map Char.toLower = "api_key".toList := by
  have hjoint {u : List Char} : u ∈ (chain [.times (Builtin.sign '_') 0 (some 1)]).words ↔
      u.map Char.toLower = [] ∨ u.map Char.toLower = ['_'] := by
    rw [List.map_eq_nil_iff, List.map_eq_singleton_iff]
    refine mem_words_optional.trans (or_congr_right ?_)
    simp only [toLower_eq_iff_of_not_isAlpha (by decide : '_'.isAlpha = false), exists_eq_right]
  have hapi {u : List Char} :
      u ∈ (chain (anyCase "api")).words ↔ u.map Char.toLower = "api".toList :=
    mem_words_chain_anyCase (by decide)
  have hkey {u : List Char} :
      u ∈ (chain (anyCase "key")).words ↔ u.map Char.toLower = "key".toList :=
    mem_words_chain_anyCase (by decide)
  simp only [mem_words_chain_append, hapi, hkey, hjoint]
  constructor
  · rintro ⟨-, ⟨api, hapi, joint, hjoint, rfl⟩, key, hkey, rfl⟩
    rw [List.map_append, List.map_append, hapi, hkey]
    rcases hjoint with hnone | hunderscore
    · rw [hnone]
      exact .inl rfl
    · rw [hunderscore]
      exact .inr rfl
  · intro h
    have hparts : ∃ joint, (joint = [] ∨ joint = ['_']) ∧
        w.map Char.toLower = "api".toList ++ joint ++ "key".toList :=
      h.elim (fun h ↦ ⟨[], .inl rfl, h⟩) fun h ↦ ⟨['_'], .inr rfl, h⟩
    obtain ⟨joint, hjoint, h⟩ := hparts
    obtain ⟨front, key, rfl, hfront, hkey⟩ := List.map_eq_append_iff.mp h
    obtain ⟨api, u, rfl, hapi, rfl⟩ := List.map_eq_append_iff.mp hfront
    exact ⟨_, ⟨api, hapi, u, hjoint, rfl⟩, key, hkey, rfl⟩

theorem sign_of_isQuote {c : Char} (hc : IsQuote c) : c.isAlphanum = false := by
  rcases hc with rfl | rfl <;> rfl

/-- A pattern with one word for its marker and alphanumeric signs. -/
theorem exists_describes_word {label word : String} {least most : ℕ}
    (hword : word.toList.all Char.isLower = true)
    (hmem : ∃ p ∈ patterns, p.label = label ∧
      p.regex.expr = quotedBehind (anyCase word) (run least most alphanumeric)) :
    ∃ p, Describes ⟨label, [word], Char.isAlphanum, least, most⟩ p := by
  obtain ⟨p, hp, hlabel, hexpr⟩ := hmem
  exact ⟨p, hp, hlabel, ⟨_, _, hexpr,
    fun _ ↦ (mem_words_chain_anyCase hword).trans isMarker_singleton.symm,
    fun _ ↦ contains_alphanumeric⟩, fun _ ↦ sign_of_isQuote⟩

/-- The table has a pattern for each of the five. -/
theorem exists_describes : ∀ k ∈ all, ∃ p, k.Describes p := by
  simp only [all, List.forall_mem_cons, List.not_mem_nil, false_imp_iff, implies_true, and_true]
  refine ⟨exists_describes_word (by decide) (by decide +kernel), ?facebook,
    exists_describes_word (by decide) (by decide +kernel),
    exists_describes_word (by decide) (by decide +kernel), ?apiKey⟩
  case facebook =>
    obtain ⟨p, hp, hlabel, hexpr⟩ : ∃ p ∈ patterns, p.label = "Facebook Oauth" ∧ p.regex.expr =
        quotedBehind (anyCase "facebook") (run 32 32 (.union .asciiDigit (.range 97 102))) := by
      decide +kernel
    refine ⟨p, hp, hlabel, ⟨_, _, hexpr,
      fun _ ↦ (mem_words_chain_anyCase (by decide)).trans isMarker_singleton.symm,
      fun _ ↦ rfl⟩, ?_⟩
    rintro c (rfl | rfl) <;> rfl
  case apiKey =>
    obtain ⟨p, hp, hlabel, hexpr⟩ : ∃ p ∈ patterns, p.label = "Generic API Key" ∧ p.regex.expr =
        quotedBehind (anyCase "api" ++ [.times (Builtin.sign '_') 0 (some 1)] ++ anyCase "key")
          (run 32 45 alphanumeric) := by
      decide +kernel
    refine ⟨p, hp, hlabel, ⟨_, _, hexpr, fun w ↦ mem_words_apiKey.trans ?_,
      fun _ ↦ contains_alphanumeric⟩, fun _ ↦ sign_of_isQuote⟩
    simp only [IsMarker, List.mem_cons, List.not_mem_nil, or_false, exists_eq_or_imp,
      exists_eq_left]

end QuotedValue

namespace Builtin

/-- **Values in quotation marks are found** exactly where they stand. For each of the five patterns
the registry of the table lists the label for a text if and only if one line of the text holds a
marker, in any mixture of cases, and somewhere behind it on the same line a quotation mark, a run of
signs whose length is within the bounds, and a quotation mark. -/
theorem quoted_values_are_found :
    ∃ r, Registry.builtin = .ok r ∧ ∀ k ∈ QuotedValue.all, ∀ text : String,
      k.label ∈ r.matchingLabels text ↔ ∃ line ∈ lines text, k.StandsIn line.toList := by
  refine ⟨.ofPatterns patterns, Registry.builtin_eq, fun k hk text ↦ ?_⟩
  obtain ⟨p, h⟩ := QuotedValue.exists_describes k hk
  rw [← h.label, Registry.label_mem_matchingLabels_iff nodup_labels_ofPatterns h.mem, h.fires_iff]

/-- A key on the second line, behind an empty value and between marks of different kinds. -/
theorem quoted_values_are_found_api_key :
    ∃ r, Registry.builtin = .ok r ∧ "Generic API Key" ∈ r.matchingLabels
      "# access\nApi_KEY = '' + \"0123456789abcdefABCDEF0123456789XYZ';" := by
  obtain ⟨r, hr, h⟩ := quoted_values_are_found
  have hk : ⟨"Generic API Key", ["apikey", "api_key"], Char.isAlphanum, 32, 45⟩ ∈
      QuotedValue.all := by
    simp [QuotedValue.all]
  refine ⟨r, hr, (h _ hk _).mpr ⟨"Api_KEY = '' + \"0123456789abcdefABCDEF0123456789XYZ';",
    by decide +kernel, [], "Api_KEY".toList, " = '' + ".toList,
    "\"0123456789abcdefABCDEF0123456789XYZ';".toList, by decide +kernel, ?_, ?_⟩⟩
  · exact ⟨"api_key", by decide, by decide +kernel⟩
  · exact ⟨.inr rfl, by decide +kernel, by decide +kernel, '\'', by decide +kernel, .inl rfl⟩

end Builtin

end SecretScan
