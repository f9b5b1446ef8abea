import SecretScan.Proofs.Pattern.KeywordIndex
import SecretScan.Proofs.Regex.Words

/-!
# What every match holds

A pattern may name keywords only if each text its expression matches holds one of them; otherwise
the keywords hide matches. Whether they do is read off the expression here.

An **outline** of an expression is what is known of some of its words from the left to the right: at
each place either one character of a set, or any text at all. `Expr.outlines` lists outlines that
cover all words (`Expr.exists_outline`). A character that may be missing gives two outlines, one
with and one without it; every other repetition is any text, so there is never more to look at than
an expression has optional characters.

A keyword *runs* through an outline if for each of its letters in turn the outline has a set that
holds nothing but this letter in either case. It then stands in every word of the outline
(`exists_part_of_runsThrough`), and if some keyword runs through each outline then every match holds
a keyword (`exists_occurs_of_isMatch`). The test is a Boolean function, so for a given table of
patterns it is settled by evaluation.
-/

namespace SecretScan

/-- Whether a set holds nothing but one letter in either case. Only single characters and unions of
these are looked through. -/
def CharSet.isOnly (letter : Char) : CharSet → Bool
  | .range first last => first == last && (Char.ofNat first).toLower == letter
  | .union s t => s.isOnly letter && t.isOnly letter
  | _ => false

theorem CharSet.toLower_of_isOnly {letter : Char} {s : CharSet} (h : s.isOnly letter = true)
    {c : Char} (hc : s.contains c.toNat = true) : c.toLower = letter := by
  induction s with
  | range first last =>
    rw [isOnly, Bool.and_eq_true, beq_iff_eq, beq_iff_eq] at h
    rw [contains, Bool.and_eq_true, decide_eq_true_iff, decide_eq_true_iff] at hc
    obtain ⟨rfl, hletter⟩ := h
    have hfirst : first = c.toNat := by omega
    rwa [hfirst, Char.ofNat_toNat] at hletter
  | union s t ihs iht =>
    rw [isOnly, Bool.and_eq_true] at h
    rw [contains, Bool.or_eq_true] at hc
    rcases hc with hc | hc
    · exact ihs h.1 hc
    · exact iht h.2 hc
  | _ => exact absurd h (by simp [isOnly])

namespace Regex

/-- What is known of a word from the left to the right: a character of a set, or any text. -/
abbrev Outline := List (Option CharSet)

/-- The words that a single item of an outline stands for. -/
def Outline.item : Option CharSet → Language Char
  | none => ⊤
  | some s => {w | ∃ c : Char, w = [c] ∧ s.contains c.toNat = true}

/-- The words of an outline. -/
def Outline.words (o : Outline) : Language Char := (o.map item).prod

namespace Expr

variable {α : Type}

/-- Outlines that together cover all words of an expression. -/
def outlines : Expr CharSet α → List Outline
  | .empty | .guard _ => [[]]
  | .step s => [[some s]]
  | .cat e f => e.outlines.flatMap fun o ↦ f.outlines.map (o ++ ·)
  | .alt e f => e.outlines ++ f.outlines
  | .times e least most => if least = 0 ∧ most = some 1 then [] :: e.outlines else [[none]]

/-- **The outlines of an expression cover its words.** -/
theorem exists_outline {e : Expr CharSet α} {w : List Char} (h : w ∈ e.words) :
    ∃ o ∈ e.outlines, w ∈ o.words := by
  induction e generalizing w with
  | empty => exact ⟨[], by simp [outlines], h⟩
  | guard a => exact ⟨[], by simp [outlines], h⟩
  | step s =>
    refine ⟨[some s], by simp [outlines], ?_⟩
    rw [Outline.words, List.map_singleton, List.prod_singleton]
    exact h
  | cat e f ihe ihf =>
    obtain ⟨u, hu, v, hv, rfl⟩ := h
    obtain ⟨o, ho, huo⟩ := ihe hu
    obtain ⟨o', ho', hvo⟩ := ihf hv
    refine ⟨o ++ o', List.mem_flatMap.mpr ⟨o, ho, List.mem_map.mpr ⟨o', ho', rfl⟩⟩, ?_⟩
    rw [Outline.words, List.map_append, List.prod_append]
    exact Language.append_mem_mul huo hvo
  | alt e f ihe ihf =>
    rcases h with h | h
    · obtain ⟨o, ho, hw⟩ := ihe h
      exact ⟨o, List.mem_append_left _ ho, hw⟩
    · obtain ⟨o, ho, hw⟩ := ihf h
      exact ⟨o, List.mem_append_right _ ho, hw⟩
  | times e least most ih =>
    obtain ⟨n, -, hmost, hn⟩ := h
    rw [outlines]
    split
    · next hopt =>
      have hle := hmost 1 hopt.2
      rcases Nat.le_one_iff_eq_zero_or_eq_one.mp hle with rfl | rfl
      · exact ⟨[], by simp, by simpa [Outline.words] using hn⟩
      · rw [pow_one] at hn
        obtain ⟨o, ho, hw⟩ := ih hn
        exact ⟨o, List.mem_cons_of_mem _ ho, hw⟩
    · refine ⟨[none], by simp, ?_⟩
      rw [Outline.words, List.map_singleton, List.prod_singleton]
      trivial

end Expr

/-! ### Keywords in outlines -/

namespace Outline

/-- Whether a keyword runs through an outline from its start. -/
def startsWith : List Char → Outline → Bool
  | [], _ => true
  | letter :: k, some s :: o => s.isOnly letter && startsWith k o
  | _ :: _, _ => false

/-- Whether a keyword runs through an outline from some place on. -/
def runsThrough (k : List Char) : Outline → Bool
  | [] => startsWith k []
  | item :: o => startsWith k (item :: o) || runsThrough k o

theorem words_cons {item : Option CharSet} {o : Outline} :
    words (item :: o) = Outline.item item * words o := by
  rw [words, List.map_cons, List.prod_cons, words]

/-- A keyword that an outline starts with stands at the start of each of its words. -/
theorem exists_prefix_of_startsWith {k : List Char} {o : Outline} (h : startsWith k o = true)
    {w : List Char} (hw : w ∈ o.words) : ∃ part, part <+: w ∧ part.map Char.toLower = k := by
  fun_induction startsWith k o generalizing w with
  | case1 => exact ⟨[], List.nil_prefix, rfl⟩
  | case2 letter k s o ih =>
    rw [Bool.and_eq_true] at h
    rw [words_cons] at hw
    obtain ⟨-, ⟨c, rfl, hc⟩, v, hv, rfl⟩ := hw
    obtain ⟨part, hpart, hk⟩ := ih h.2 hv
    refine ⟨c :: part, List.cons_prefix_cons.mpr ⟨rfl, hpart⟩, ?_⟩
    rw [List.map_cons, CharSet.toLower_of_isOnly h.1 hc, hk]
  | case3 => exact absurd h (by simp)

/-- A keyword that runs through an outline stands in each of its words. -/
theorem exists_part_of_runsThrough {k : List Char} {o : Outline} (h : runsThrough k o = true)
    {w : List Char} (hw : w ∈ o.words) : ∃ part, part <:+: w ∧ part.map Char.toLower = k := by
  induction o generalizing w with
  | nil =>
    obtain ⟨part, hpart, hk⟩ := exists_prefix_of_startsWith h hw
    exact ⟨part, hpart.isInfix, hk⟩
  | cons item o ih =>
    rw [runsThrough, Bool.or_eq_true] at h
    rcases h with h | h
    · obtain ⟨part, hpart, hk⟩ := exists_prefix_of_startsWith h hw
      exact ⟨part, hpart.isInfix, hk⟩
    · rw [words_cons] at hw
      obtain ⟨u, -, v, hv, rfl⟩ := hw
      obtain ⟨part, hpart, hk⟩ := ih h hv
      exact ⟨part, hpart.trans (List.suffix_append u v).isInfix, hk⟩

end Outline

/-- Whether each outline of an expression has one of the keywords run through it. -/
def Expr.needsKeyword (e : Expr CharSet Assertion) (keywords : List String) : Bool :=
  e.outlines.all fun o ↦ keywords.any fun k ↦ o.runsThrough (lowered k)

/-- **Every match holds a keyword**, if one runs through each outline. -/
theorem Expr.exists_occurs_of_isMatch {e : Expr CharSet Assertion} {keywords : List String}
    (he : e.needsKeyword keywords = true) {text : String}
    (h : e.isMatch text.toList.toArray = true) : ∃ k ∈ keywords, Occurs k text := by
  obtain ⟨w, hw, htext⟩ := exists_word_of_isMatch h
  obtain ⟨o, ho, hwo⟩ := exists_outline hw
  obtain ⟨k, hk, hrun⟩ := List.any_eq_true.mp (List.all_eq_true.mp he o ho)
  obtain ⟨part, hpart, hlow⟩ := Outline.exists_part_of_runsThrough hrun hwo
  exact ⟨k, hk, part, hpart.trans htext, hlow⟩

end Regex

end SecretScan
