import SecretScan.Proofs.Pattern.Shapes

/-!
# Passwords in addresses

The last pattern of the table looks for an address that names a user and a password. Its expression
has four runs with bounds on both sides, and they do not mean the same:

* letters before `://` and characters behind `@` are asked for up to a number, but nothing is said
  about what stands beyond them; so only the lower bounds count (`endsScheme_iff`);
* the parts between stand between signs that cannot belong to them, so each is as long as it is and
  both bounds count (`opensCredentials_iff`).

What is left is a property of the text around an occurrence of `://`:

```
"Password in URL" ∈ r.matchingLabels text  ↔  text = before ++ "://" ++ behind for some
                                              EndsScheme before and OpensCredentials behind
```
-/

namespace SecretScan

namespace Address

/-- A character that may stand in the name of a user or in a password. -/
def IsSign (c : Char) : Prop :=
  c ≠ '/' ∧ c ≠ ':' ∧ c ≠ '@' ∧ CharSet.space.contains c.toNat = false

/-- The name of a user or a password: three to twenty signs. -/
def IsPart (cs : List Char) : Prop := (3 ≤ cs.length ∧ cs.length ≤ 20) ∧ ∀ c ∈ cs, IsSign c

/-- A text ends with at least three letters. -/
def EndsScheme (before : List Char) : Prop :=
  ∃ scheme, scheme <:+ before ∧ 3 ≤ scheme.length ∧ ∀ c ∈ scheme, c.isAlpha = true

/-- There is a further character on the line. -/
def GoesOn (tail : List Char) : Prop := ∃ c ∈ tail.head?, c ≠ '\n'

/-- A user, a password and what follows them, as an address has them behind its scheme. -/
def credentials (user password tail : List Char) : List Char :=
  user ++ ':' :: (password ++ '@' :: tail)

/-- A text starts with a user and a password, and goes on. -/
def OpensCredentials (behind : List Char) : Prop :=
  ∃ user password tail, behind = credentials user password tail ∧ IsPart user ∧ IsPart password ∧
    GoesOn tail

/-- A text in two parts around the sign of an address. -/
def joined (before behind : List Char) : List Char := before ++ ("://".toList ++ behind)

/-- A text holds an address with a user and a password. -/
def StandsIn (text : List Char) : Prop :=
  ∃ before behind, text = joined before behind ∧ EndsScheme before ∧ OpensCredentials behind

/-! ### Which bounds count -/

/-- **More than ten letters** are no obstacle. -/
theorem endsScheme_iff {before : List Char} :
    EndsScheme before ↔ ∃ scheme, scheme <:+ before ∧
      (3 ≤ scheme.length ∧ scheme.length ≤ 10) ∧ ∀ c ∈ scheme, c.isAlpha = true := by
  constructor
  · rintro ⟨scheme, hsuffix, hlength, hall⟩
    have hlast : scheme.drop (scheme.length - 3) <:+ scheme := List.drop_suffix _ _
    refine ⟨scheme.drop (scheme.length - 3), hlast.trans hsuffix, ?_, fun c hc ↦
      hall c (hlast.subset hc)⟩
    rw [List.length_drop]
    omega
  · rintro ⟨scheme, hsuffix, ⟨hlength, -⟩, hall⟩
    exact ⟨scheme, hsuffix, hlength, hall⟩

open Builtin Regex Expr

theorem contains_addressSign {c : Char} : addressSign.contains c.toNat = true ↔ IsSign c := by
  show (!((CharSet.single '/').contains c.toNat || (CharSet.space.contains c.toNat ||
    ((CharSet.single ':').contains c.toNat || (CharSet.single '@').contains c.toNat)))) = true ↔ _
  rw [Bool.not_eq_true', ← Bool.not_eq_true]
  simp only [Bool.or_eq_true, contains_single, not_or, IsSign, Bool.not_eq_true]
  tauto

theorem forall_isSign_of_all {cs : List Char}
    (h : cs.all (addressSign.contains ·.toNat) = true) : ∀ c ∈ cs, IsSign c :=
  fun c hc ↦ contains_addressSign.mp (List.all_eq_true.mp h c hc)

/-- Where a part ends is determined by the text. -/
theorem part_inj {part part' rest rest' : List Char} {c : Char} (hpart : ∀ c ∈ part, IsSign c)
    (hpart' : ∀ c ∈ part', IsSign c) (hc : ¬ IsSign c)
    (h : part ++ c :: rest = part' ++ c :: rest') : part = part' ∧ rest = rest' := by
  rw [← contains_addressSign, Bool.not_eq_true] at hc
  simp only [← contains_addressSign] at hpart hpart'
  obtain ⟨hparts, -, hrest⟩ := append_cons_inj_of_stops hpart hpart' hc hc h
  exact ⟨hparts, hrest⟩

/-- **Both bounds of both parts count**, as the parts are what stands between the signs around
them. -/
theorem opensCredentials_iff {user password tail : List Char} (huser : ∀ c ∈ user, IsSign c)
    (hpassword : ∀ c ∈ password, IsSign c) :
    OpensCredentials (credentials user password tail) ↔
      IsPart user ∧ IsPart password ∧ GoesOn tail := by
  constructor
  · rintro ⟨user', password', tail', h, huser', hpassword', htail⟩
    obtain ⟨rfl, hrest⟩ := part_inj huser huser'.2 (fun hcolon ↦ hcolon.2.1 rfl) h
    obtain ⟨rfl, rfl⟩ := part_inj hpassword hpassword'.2 (fun hat ↦ hat.2.2.1 rfl) hrest
    exact ⟨huser', hpassword', htail⟩
  · rintro ⟨huser, hpassword, htail⟩
    exact ⟨user, password, tail, rfl, huser, hpassword, htail⟩

/-- Where no other stroke is in a text, its two parts are determined. -/
theorem eq_of_joined_eq {before behind front rest : List Char} (hbefore : '/' ∉ before)
    (hbehind : '/' ∉ behind) (h : joined before behind = joined front rest) : front = before := by
  have hcount := congrArg (List.count '/') h
  simp only [joined, List.count_append, List.count_eq_zero.mpr hbefore,
    List.count_eq_zero.mpr hbehind] at hcount
  have hfront : '/' ∉ front := List.count_eq_zero.mp (by omega)
  -- Both parts end, with the colon, before the first stroke of the text.
  have hrun {cs : List Char} (hcs : '/' ∉ cs) : ∀ c ∈ cs ++ [':'], (c != '/') = true := by
    intro c hc
    rw [bne_iff_ne]
    rintro rfl
    exact hcs ((List.mem_append.mp hc).resolve_right (by decide))
  have hstrokes (cs cs' : List Char) : joined cs cs' = (cs ++ [':']) ++ '/' :: '/' :: cs' := by
    rw [List.append_assoc]
    rfl
  rw [hstrokes, hstrokes] at h
  obtain ⟨hparts, -⟩ := append_cons_inj_of_stops (hrun hbefore) (hrun hfront) rfl rfl h
  exact (List.append_inj_left' hparts rfl).symm

/-! ### The pattern -/

/-- The expression of the pattern. -/
def expr : Plain :=
  chain ([run 3 10 (.union small capital)] ++ literal "://" ++ [run 3 20 addressSign,
    Builtin.sign ':', run 3 20 addressSign, Builtin.sign '@', run 1 100 (.compl (.single '\n'))])

theorem mem_words_part {w : List Char} : w ∈ (run 3 20 addressSign).words ↔ IsPart w := by
  simp only [mem_words_run, contains_addressSign, IsPart]

theorem mem_words_expr {w : List Char} :
    w ∈ expr.words ↔ ∃ scheme user password tail,
      w = joined scheme (credentials user password tail) ∧
      ((3 ≤ scheme.length ∧ scheme.length ≤ 10) ∧ ∀ c ∈ scheme, c.isAlpha = true) ∧
      IsPart user ∧ IsPart password ∧ (1 ≤ tail.length ∧ tail.length ≤ 100) ∧ '\n' ∉ tail := by
  have hscheme {u : List Char} : u ∈ (chain [run 3 10 (.union small capital)]).words ↔
      (3 ≤ u.length ∧ u.length ≤ 10) ∧ ∀ c ∈ u, c.isAlpha = true := by
    simp only [chain, mem_words_run, contains_letter]
  have htail {u : List Char} : u ∈ (chain [run 1 100 (.compl (.single '\n'))]).words ↔
      (1 ≤ u.length ∧ u.length ≤ 100) ∧ '\n' ∉ u := by
    rw [← forall_contains_compl_single]
    exact mem_words_run
  rw [expr, mem_words_chain_append]
  constructor
  · rintro ⟨front, hfront, behind, hbehind, rfl⟩
    obtain ⟨scheme, hs, mark, hmark, rfl⟩ := mem_words_chain_append.mp hfront
    obtain ⟨user, hu, afterUser, hafterUser, rfl⟩ := mem_words_chain_cons.mp hbehind
    obtain ⟨colon, hcolon, secret, hsecret, rfl⟩ := mem_words_chain_cons.mp hafterUser
    obtain ⟨password, hp, afterSecret, hafterSecret, rfl⟩ := mem_words_chain_cons.mp hsecret
    obtain ⟨commat, hcommat, tail, ht, rfl⟩ := mem_words_chain_cons.mp hafterSecret
    obtain rfl := mem_words_chain_literal.mp hmark
    obtain rfl := mem_words_sign.mp hcolon
    obtain rfl := mem_words_sign.mp hcommat
    exact ⟨scheme, user, password, tail, List.append_assoc _ _ _, hscheme.mp hs,
      mem_words_part.mp hu, mem_words_part.mp hp, htail.mp ht⟩
  · rintro ⟨scheme, user, password, tail, rfl, hs, hu, hp, ht⟩
    have hfront : scheme ++ "://".toList ∈ (chain ([run 3 10 (.union small capital)] ++
        literal "://")).words :=
      mem_words_chain_append.mpr ⟨scheme, hscheme.mpr hs, _, mem_words_chain_literal.mpr rfl, rfl⟩
    refine ⟨_, hfront, credentials user password tail, ?_, List.append_assoc _ _ _⟩
    have hsecret : password ++ '@' :: tail ∈ (chain [run 3 20 addressSign, Builtin.sign '@',
        run 1 100 (.compl (.single '\n'))]).words :=
      mem_words_chain_cons.mpr ⟨password, mem_words_part.mpr hp, '@' :: tail,
        mem_words_chain_cons.mpr ⟨['@'], mem_words_sign.mpr rfl, tail, htail.mpr ht, rfl⟩, rfl⟩
    exact mem_words_chain_cons.mpr ⟨user, mem_words_part.mpr hu, _,
      mem_words_chain_cons.mpr ⟨[':'], mem_words_sign.mpr rfl, _, hsecret, rfl⟩, rfl⟩

/-- **The pattern finds addresses**, whatever the length of their scheme and of what follows. -/
theorem exists_word_iff {text : List Char} :
    (∃ w ∈ expr.words, w <:+: text) ↔ StandsIn text := by
  constructor
  · rintro ⟨w, hw, before, behind, rfl⟩
    obtain ⟨scheme, user, password, tail, rfl, ⟨⟨hscheme, -⟩, hletters⟩, huser, hpassword,
      ⟨htail, -⟩, hnewline⟩ := mem_words_expr.mp hw
    obtain ⟨c, tail, rfl⟩ := List.exists_cons_of_length_pos htail
    refine ⟨before ++ scheme, credentials user password (c :: (tail ++ behind)), ?_,
      ⟨scheme, List.suffix_append _ _, hscheme, hletters⟩, user, password, _, rfl, huser,
      hpassword, c, rfl, fun hc ↦ hnewline (hc ▸ List.mem_cons_self)⟩
    simp only [joined, credentials, List.append_assoc, List.cons_append]
  · rintro ⟨before, behind, rfl, hscheme, user, password, tail, rfl, huser, hpassword, c, hc,
      hnewline⟩
    obtain ⟨scheme, ⟨front, rfl⟩, hbounds, hletters⟩ := endsScheme_iff.mp hscheme
    obtain ⟨rest, rfl⟩ := List.head?_eq_some_iff.mp hc
    refine ⟨_, mem_words_expr.mpr ⟨scheme, user, password, [c], rfl, ⟨hbounds, hletters⟩, huser,
      hpassword, ⟨Nat.le_refl 1, Nat.le_add_left 1 99⟩, ?_⟩, front, rest, ?_⟩
    · rw [List.mem_singleton]
      exact fun h ↦ hnewline h.symm
    · simp only [joined, credentials, List.append_assoc, List.cons_append, List.nil_append]

/-! ### The table -/

theorem exists_pattern :
    ∃ p ∈ patterns, p.label = "Password in URL" ∧ p.regex.expr = expr := by
  decide +kernel

end Address

namespace Builtin

open Address

/-- **Passwords in addresses are found** exactly where they stand. The registry of the table lists
the label for a text if and only if the text holds `://` between at least three letters and a user,
a password and a further character. So an address is found however long its scheme and whatever
follows it; but a user or a password that is too short or too long is none, and where the text has
no second `://` the address is then not found. -/
theorem passwords_in_addresses_are_found :
    ∃ r, Registry.builtin = .ok r ∧
      (∀ text : String, "Password in URL" ∈ r.matchingLabels text ↔ Address.StandsIn text.toList) ∧
      (∀ before user password tail, EndsScheme before → IsPart user → IsPart password →
        GoesOn tail → "Password in URL" ∈
          r.matchingLabels (.ofList (joined before (credentials user password tail)))) ∧
      ∀ before user password tail, (∀ c ∈ user, IsSign c) → (∀ c ∈ password, IsSign c) →
        (OpensCredentials (credentials user password tail) ↔
          IsPart user ∧ IsPart password ∧ GoesOn tail) ∧
        ((∀ front behind, joined before (credentials user password tail) = joined front behind →
            front = before) →
          ("Password in URL" ∈
              r.matchingLabels (.ofList (joined before (credentials user password tail))) ↔
            EndsScheme before ∧ IsPart user ∧ IsPart password ∧ GoesOn tail)) := by
  have hfound (text : String) : "Password in URL" ∈
      (Registry.ofPatterns patterns).matchingLabels text ↔ Address.StandsIn text.toList := by
    obtain ⟨p, hp, hlabel, hexpr⟩ := exists_pattern
    rw [← hlabel, Registry.label_mem_matchingLabels_iff nodup_labels_ofPatterns hp,
      fires_iff_exists_word hp, hexpr, exists_word_iff]
  refine ⟨.ofPatterns patterns, Registry.builtin_eq, hfound, ?_, ?_⟩
  · intro before user password tail hscheme huser hpassword htail
    rw [hfound, String.toList_ofList]
    exact ⟨before, _, rfl, hscheme, user, password, tail, rfl, huser, hpassword, htail⟩
  · intro before user password tail huser hpassword
    refine ⟨opensCredentials_iff huser hpassword, fun honly ↦ ?_⟩
    rw [hfound, String.toList_ofList, ← opensCredentials_iff huser hpassword]
    constructor
    · rintro ⟨front, behind, h, hscheme, hopens⟩
      obtain rfl := honly front behind h
      rw [joined, joined, List.append_cancel_left_eq, List.append_cancel_left_eq] at h
      exact ⟨hscheme, h ▸ hopens⟩
    · rintro ⟨hscheme, hopens⟩
      exact ⟨before, _, rfl, hscheme, hopens⟩

/-- A scheme of thirteen letters with a hundred and fifty characters behind the user and the
password; and a password of two characters. -/
theorem passwords_in_addresses_are_found_long :
    ∃ r, Registry.builtin = .ok r ∧
      "Password in URL" ∈ r.matchingLabels (.ofList (joined "elasticsearch".toList
        (credentials "admin".toList "hunter2".toList (List.replicate 150 'h')))) ∧
      "Password in URL" ∉ r.matchingLabels (.ofList (joined "elasticsearch".toList
        (credentials "admin".toList "pw".toList "host".toList))) := by
  obtain ⟨r, hr, -, hlong, hexact⟩ := passwords_in_addresses_are_found
  have hscheme : EndsScheme "elasticsearch".toList :=
    ⟨_, List.suffix_rfl, by decide, List.all_eq_true.mp (by decide)⟩
  have huser : IsPart "admin".toList := ⟨by decide, forall_isSign_of_all (by decide)⟩
  have hpassword : IsPart "hunter2".toList := ⟨by decide, forall_isSign_of_all (by decide)⟩
  refine ⟨r, hr, hlong _ _ _ _ hscheme huser hpassword ⟨'h', rfl, by decide⟩, fun hfound ↦ ?_⟩
  have hsingle := (hexact "elasticsearch".toList "admin".toList "pw".toList "host".toList huser.2
    (forall_isSign_of_all (by decide))).2 fun _ _ ↦ eq_of_joined_eq (by decide) (by decide)
  obtain ⟨-, -, hshort, -⟩ := hsingle.mp hfound
  exact absurd hshort.1.1 (by decide)

end Builtin

end SecretScan
