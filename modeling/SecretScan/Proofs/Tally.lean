import SecretScan.Proofs.Lists
import SecretScan.Tally

/-!
# What is counted

The loop that counts a text keeps one invariant, `Tally.Records`: after the characters of `text` the
tally holds

```
total      min text.length (2 ^ 32 - 1)
counter c  text.count c % 2 ^ 32
```

and an entry for each character outside ASCII that has come, and for no other. One character keeps
it (`Tally.Records.enter`), so a whole text does (`Tally.records_ofText`).

The two bounds are not of one kind. The total stops, so it is exact for texts shorter than the
limit. A counter goes round, so it is exact where its character comes less often than that, however
long the text is otherwise (`Tally.NeverGoesRound`).
-/

namespace SecretScan

namespace Tally

variable {t : Tally} {c d : Char} {text : List Char}

/-! ### One character -/

theorem toNat_saturatingSucc (n : UInt32) :
    (saturatingSucc n).toNat = min (n.toNat + 1) (counterLimit - 1) := by
  have hlt : n.toNat < 4294967296 := n.toNat_lt
  rw [saturatingSucc]
  split
  · next h =>
    subst h
    rfl
  · next h =>
    have hne : n.toNat ≠ 4294967295 := fun heq ↦ h (UInt32.toNat_inj.mp heq)
    rw [UInt32.toNat_add, counterLimit]
    simp only [UInt32.reduceToNat]
    omega

theorem toNat_succ (n : UInt32) : (n + 1).toNat = (n.toNat + 1) % counterLimit :=
  UInt32.toNat_add n 1

theorem lookup_bump (es : List (Char × UInt32)) :
    (bump c es).lookup d = if d = c then some ((es.lookup c).getD 0 + 1) else es.lookup d := by
  induction es with
  | nil =>
    by_cases h : d = c
    · simp [bump, h]
    · simp [bump, h]
  | cons e es ih =>
    obtain ⟨k, n⟩ := e
    rw [bump]
    grind

/-- An entry is made at the end for a character that has none. -/
theorem map_fst_bump (es : List (Char × UInt32)) :
    (bump c es).map Prod.fst =
      if c ∈ es.map Prod.fst then es.map Prod.fst else es.map Prod.fst ++ [c] := by
  induction es with
  | nil => rfl
  | cons e es ih =>
    obtain ⟨k, n⟩ := e
    rw [bump]
    by_cases h : k = c
    · simp [h]
    · rw [if_neg h, List.map_cons, ih, List.map_cons]
      by_cases hmem : c ∈ es.map Prod.fst
      · rw [if_pos hmem, if_pos (List.mem_cons_of_mem k hmem)]
      · rw [if_neg hmem, if_neg (by simp [Ne.symm h, hmem]), List.cons_append]

theorem total_enter (t : Tally) (c : Char) : (t.enter c).total = saturatingSucc t.total := by
  rw [enter]
  split <;> rfl

/-- **Only the counter of the character itself changes.** -/
theorem counter_enter (t : Tally) (c d : Char) :
    (t.enter c).counter d = if d = c then t.counter c + 1 else t.counter d := by
  by_cases hc : c.toNat < 128
  · have henter : t.enter c = { t with
        total := saturatingSucc t.total, ascii := t.ascii.set c.toNat (t.ascii[c.toNat] + 1) } := by
      rw [enter, dif_pos hc]
    rw [henter]
    by_cases hd : d.toNat < 128
    · have hsame : c.toNat = d.toNat ↔ d = c :=
        ⟨fun h ↦ (Char.toNat_inj.mp h).symm, fun h ↦ h ▸ rfl⟩
      simp only [counter, dif_pos hd, dif_pos hc, Vector.getElem_set, hsame]
    · have hne : d ≠ c := fun h ↦ hd (h ▸ hc)
      simp only [counter, dif_neg hd, if_neg hne]
  · have henter : t.enter c = { t with
        total := saturatingSucc t.total, other := bump c t.other } := by
      rw [enter, dif_neg hc]
    rw [henter]
    by_cases hd : d.toNat < 128
    · have hne : d ≠ c := fun h ↦ hc (h ▸ hd)
      simp only [counter, dif_pos hd, if_neg hne]
    · simp only [counter, dif_neg hd, dif_neg hc, lookup_bump]
      split <;> rfl

/-- The characters outside ASCII that have an entry. -/
def others (t : Tally) : List Char := t.other.map Prod.fst

theorem others_enter (t : Tally) (c : Char) :
    (t.enter c).others =
      if 128 ≤ c.toNat ∧ c ∉ t.others then t.others ++ [c] else t.others := by
  rw [enter]
  by_cases hc : c.toNat < 128
  · rw [dif_pos hc, if_neg fun h ↦ Nat.not_le.mpr hc h.1]
    rfl
  · rw [dif_neg hc]
    show (bump c t.other).map Prod.fst = _
    rw [map_fst_bump]
    by_cases hmem : c ∈ t.other.map Prod.fst
    · rw [if_pos hmem, if_neg fun h ↦ h.2 hmem]
      rfl
    · rw [if_neg hmem, if_pos ⟨Nat.not_lt.mp hc, hmem⟩]
      rfl

/-! ### A whole text -/

/-- **The invariant of counting**: what a tally holds after the characters of a text. -/
structure Records (t : Tally) (text : List Char) : Prop where
  /-- The total stops below the limit. -/
  total : t.total.toNat = min text.length (counterLimit - 1)
  /-- Counters go round at the limit. -/
  counter : ∀ c, (t.counter c).toNat = text.count c % counterLimit
  /-- No character has two entries. -/
  nodup : t.others.Nodup
  /-- Characters outside ASCII have an entry if they have come. -/
  mem_others : ∀ c, c ∈ t.others ↔ 128 ≤ c.toNat ∧ c ∈ text

theorem records_empty : Records {} [] where
  total := rfl
  counter c := by
    by_cases hc : c.toNat < 128
    · simp [Tally.counter, hc]
    · simp [Tally.counter, hc]
  nodup := List.nodup_nil
  mem_others c := by simp [others]

/-- **One character** keeps the invariant. -/
theorem Records.enter (h : t.Records text) (c : Char) : (t.enter c).Records (text ++ [c]) where
  total := by
    rw [total_enter, toNat_saturatingSucc, h.total, List.length_append, List.length_singleton]
    omega
  counter d := by
    rw [counter_enter, List.count_append, List.count_singleton]
    by_cases hd : d = c
    · subst hd
      rw [if_pos rfl, toNat_succ, h.counter, Nat.mod_add_mod, if_pos (beq_self_eq_true d)]
    · rw [if_neg hd, h.counter, if_neg (by simpa using Ne.symm hd), Nat.add_zero]
  nodup := by
    rw [others_enter]
    split
    · next hc => exact h.nodup.append (List.nodup_singleton c) (by simpa using hc.2)
    · exact h.nodup
  mem_others d := by
    rw [others_enter, List.mem_append, List.mem_singleton]
    have hd := h.mem_others d
    split
    · next hc =>
      rw [List.mem_append, List.mem_singleton, hd]
      grind
    · next hc =>
      rw [hd]
      have hcmem := h.mem_others c
      grind

/-- **A whole text** is recorded. -/
theorem records_ofText (text : List Char) : (ofText text).Records text := by
  suffices h : ∀ (rest before : List Char) (t : Tally), t.Records before →
      (rest.foldl enter t).Records (before ++ rest) from h text [] {} records_empty
  intro rest
  induction rest with
  | nil =>
    intro before t h
    rwa [List.append_nil]
  | cons c rest ih =>
    intro before t h
    rw [List.append_cons]
    exact ih _ _ (h.enter c)

/-! ### All counters -/

/-- The characters of ASCII in order. -/
def asciiChars : List Char := (List.range 128).map Char.ofNat

theorem toNat_ofNat_of_lt {n : ℕ} (h : n < 128) : (Char.ofNat n).toNat = n := by
  have hvalid : n.isValidChar := .inl (by omega)
  rw [Char.ofNat, dif_pos hvalid]
  rfl

theorem mem_asciiChars : c ∈ asciiChars ↔ c.toNat < 128 := by
  rw [asciiChars, List.mem_map]
  constructor
  · rintro ⟨n, hn, rfl⟩
    rw [List.mem_range] at hn
    rwa [toNat_ofNat_of_lt hn]
  · exact fun h ↦ ⟨c.toNat, List.mem_range.mpr h, Char.ofNat_toNat c⟩

theorem nodup_asciiChars : asciiChars.Nodup := by
  refine List.nodup_range.map_on fun m hm n hn h ↦ ?_
  rw [List.mem_range] at hm hn
  rw [← toNat_ofNat_of_lt hm, h, toNat_ofNat_of_lt hn]

/-- The characters that have a counter, in the order of the counters. -/
def keys (t : Tally) : List Char := asciiChars ++ t.others

/-- **The counters**, by the characters that they belong to. -/
theorem Records.counters_eq (h : t.Records text) : t.counters = t.keys.map t.counter := by
  rw [counters, keys, List.map_append]
  congr 1
  · refine List.ext_getElem (by simp [asciiChars]) fun n hn _ ↦ ?_
    have hlt : n < 128 := by simpa using hn
    simp [asciiChars, Tally.counter, toNat_ofNat_of_lt hlt, hlt]
  · rw [others, List.map_map]
    refine List.map_congr_left fun e he ↦ ?_
    have hmem : e.1 ∈ t.others := List.mem_map_of_mem he
    have hascii : ¬ e.1.toNat < 128 := Nat.not_lt.mpr ((h.mem_others e.1).mp hmem).1
    rw [Function.comp_apply, Tally.counter, dif_neg hascii, lookup_of_mem h.nodup he,
      Option.getD_some]

theorem Records.nodup_keys (h : t.Records text) : t.keys.Nodup := by
  refine nodup_asciiChars.append h.nodup fun c hascii hother ↦ ?_
  exact Nat.not_lt.mpr ((h.mem_others c).mp hother).1 (mem_asciiChars.mp hascii)

/-- Every character of the text has a counter. -/
theorem Records.mem_keys (h : t.Records text) (hc : c ∈ text) : c ∈ t.keys := by
  rw [keys, List.mem_append, mem_asciiChars, h.mem_others]
  rcases Nat.lt_or_ge c.toNat 128 with hlt | hge
  · exact .inl hlt
  · exact .inr ⟨hge, hc⟩

/-- Characters of ASCII make no entries. -/
theorem Records.other_eq_nil (h : t.Records text) (hascii : ∀ c ∈ text, c.toNat < 128) :
    t.other = [] := by
  have hothers : t.others = [] := by
    refine List.eq_nil_iff_forall_not_mem.mpr fun c hc ↦ ?_
    obtain ⟨hge, hmem⟩ := (h.mem_others c).mp hc
    exact Nat.not_lt.mpr hge (hascii c hmem)
  exact List.map_eq_nil_iff.mp hothers

/-- **Characters of ASCII leave nothing to the order** in which they come: their counters stand in a
table, so the tally is known when every count is. -/
theorem Records.eq_of_perm {t' : Tally} {text' : List Char} (h : t.Records text)
    (h' : t'.Records text') (hperm : text.Perm text') (hascii : ∀ c ∈ text, c.toNat < 128) :
    t = t' := by
  have htotal : t.total = t'.total :=
    UInt32.toNat_inj.mp (by rw [h.total, h'.total, hperm.length_eq])
  have hcounter (c : Char) : t.counter c = t'.counter c :=
    UInt32.toNat_inj.mp (by rw [h.counter, h'.counter, hperm.count_eq])
  have htable : t.ascii = t'.ascii := Vector.ext fun n hn ↦ by
    have hchar := hcounter (Char.ofNat n)
    simpa only [Tally.counter, toNat_ofNat_of_lt hn, dif_pos hn] using hchar
  have hother : t.other = t'.other := by
    rw [h.other_eq_nil hascii, h'.other_eq_nil fun c hc ↦ hascii c (hperm.mem_iff.mpr hc)]
  show Tally.mk _ _ _ = Tally.mk _ _ _
  rw [htotal, htable, hother]

/-! ### Where the limit is not met -/

/-- While a text is counted no counter goes round: each is below its greatest value when its
character comes. -/
def NeverGoesRound (text : List Char) : Prop :=
  ∀ before c after, text = before ++ c :: after →
    ((ofText before).counter c).toNat + 1 < counterLimit

theorem neverGoesRound_append_singleton :
    NeverGoesRound (text ++ [c]) ↔
      NeverGoesRound text ∧ ((ofText text).counter c).toNat + 1 < counterLimit := by
  constructor
  · intro h
    refine ⟨fun before d after htext ↦ ?_, h text c [] rfl⟩
    refine h before d (after ++ [c]) ?_
    rw [htext, List.append_assoc, List.cons_append]
  · rintro ⟨htext, hc⟩ before d after heq
    rcases append_singleton_eq_append_cons_iff.mp heq with ⟨rfl, rfl, -⟩ | ⟨rest, -, hbefore⟩
    · exact hc
    · exact htext before d rest hbefore

/-- **No counter goes round** exactly if no character comes as often as the limit. -/
theorem neverGoesRound_iff : NeverGoesRound text ↔ ∀ c, text.count c < counterLimit := by
  induction text using List.reverseRecOn with
  | nil =>
    refine iff_of_true (fun before c after h ↦ ?_) fun c ↦ ?_
    · simp at h
    · rw [List.count_nil, counterLimit]
      omega
  | append_singleton text c ih =>
    rw [neverGoesRound_append_singleton, ih, (records_ofText text).counter]
    constructor
    · rintro ⟨htext, hc⟩ d
      rw [Nat.mod_eq_of_lt (htext c)] at hc
      rw [List.count_append, List.count_singleton]
      have hd := htext d
      split
      · next h =>
        obtain rfl : c = d := by simpa using h
        exact hc
      · exact hd
    · intro h
      have htext (d : Char) : text.count d < counterLimit :=
        Nat.lt_of_le_of_lt ((List.sublist_append_left text [c]).count_le d) (h d)
      refine ⟨htext, ?_⟩
      have hc := h c
      rwa [Nat.mod_eq_of_lt (htext c), ← List.count_singleton_self (a := c), ← List.count_append]

end Tally

end SecretScan
