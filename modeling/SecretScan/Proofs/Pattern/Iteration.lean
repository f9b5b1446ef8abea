import SecretScan.Proofs.Pattern.Cursor

/-!
# Iterations with bookmarks

A host may do three things with an iteration, in any order and any number of times: ask for the next
match, set a bookmark, and go back to the last bookmark that is left. `Bookmarked.run` says what
happens to a place and the bookmarks, whatever a place is, and it is used for two kinds of places:

* a cursor, which is what runs, and
* a number, which is a place in a list that is fixed from the start (`placeIn`).

What a cursor at work and a place in the list of all matches have to do with each other is one
equation, `c.remaining = matches.drop k`. It is the simulation relation: what is asked for next is
the same on both sides (`Cursor.StandsAt.next`), and bookmarks are kept side by side, so that every
answer is the same (`Bookmarked.Related.run`).

That a cursor never comes to a position without a pattern is another invariant, and rests only on
the registry and the truth values staying what they were (`Cursor.next_keeps`).
-/

namespace SecretScan

/-- What a host does with an iteration. -/
inductive Move where
  /-- It asks for the next match. -/
  | next
  /-- It sets a bookmark at the present place. -/
  | save
  /-- It goes back to the last bookmark, which is taken off; without a bookmark nothing happens. -/
  | restore
deriving DecidableEq

/-- A place, and bookmarks set so far, the last one first. -/
structure Bookmarked (α : Type) where
  /-- The present place. -/
  place : α
  /-- The bookmarks. -/
  saved : List α := []

namespace Bookmarked

variable {α β γ : Type}

/-- One move, where `next` says what comes at a place and which place is behind it: the answer, if
something was asked, and what has become of the places. -/
def move (next : α → Option γ × α) (s : Bookmarked α) : Move → List (Option γ) × Bookmarked α
  | .next => ([(next s.place).1], { s with place := (next s.place).2 })
  | .save => ([], { s with saved := s.place :: s.saved })
  | .restore =>
    match s.saved with
    | [] => ([], s)
    | top :: rest => ([], ⟨top, rest⟩)

/-- Moves one after the other: all answers in order, and what has become of the places. -/
def run (next : α → Option γ × α) (s : Bookmarked α) : List Move → List (Option γ) × Bookmarked α
  | [] => ([], s)
  | m :: moves =>
    let (answers, s) := s.move next m
    let (more, s) := s.run next moves
    (answers ++ more, s)

theorem run_cons (next : α → Option γ × α) (s : Bookmarked α) (m : Move) (moves : List Move) :
    s.run next (m :: moves) =
      ((s.move next m).1 ++ ((s.move next m).2.run next moves).1,
        ((s.move next m).2.run next moves).2) := rfl

/-- All places that are in use. -/
def places (s : Bookmarked α) : List α := s.place :: s.saved

/-! ### Two runs side by side -/

/-- Places and bookmarks are related one by one. -/
structure Related (R : α → β → Prop) (s : Bookmarked α) (t : Bookmarked β) : Prop where
  /-- The present places are related. -/
  place : R s.place t.place
  /-- The bookmarks are related, and there are as many. -/
  saved : List.Forall₂ R s.saved t.saved

variable {R : α → β → Prop} {next : α → Option γ × α} {next' : β → Option γ × β}
variable {s : Bookmarked α} {t : Bookmarked β}

/-- **A move** keeps related places related and answers the same, if `next` does. -/
theorem Related.move (h : Related R s t)
    (hnext : ∀ a b, R a b → (next a).1 = (next' b).1 ∧ R (next a).2 (next' b).2) (m : Move) :
    (s.move next m).1 = (t.move next' m).1 ∧
      Related R (s.move next m).2 (t.move next' m).2 := by
  obtain ⟨place, saved⟩ := s
  obtain ⟨place', saved'⟩ := t
  have hplace : R place place' := h.place
  have hsaved : List.Forall₂ R saved saved' := h.saved
  cases m with
  | next =>
    obtain ⟨hanswer, hbehind⟩ := hnext place place' hplace
    exact ⟨congrArg (fun a ↦ [a]) hanswer, hbehind, hsaved⟩
  | save => exact ⟨rfl, hplace, .cons hplace hsaved⟩
  | restore =>
    rcases hsaved with - | ⟨htop, hrest⟩
    · exact ⟨rfl, hplace, .nil⟩
    · exact ⟨rfl, htop, hrest⟩

/-- **A run** answers the same, move by move. -/
theorem Related.run (h : Related R s t)
    (hnext : ∀ a b, R a b → (next a).1 = (next' b).1 ∧ R (next a).2 (next' b).2)
    (moves : List Move) :
    (s.run next moves).1 = (t.run next' moves).1 ∧
      Related R (s.run next moves).2 (t.run next' moves).2 := by
  induction moves generalizing s t with
  | nil => exact ⟨rfl, h⟩
  | cons m moves ih =>
    obtain ⟨hanswers, hmoved⟩ := h.move hnext m
    obtain ⟨hmore, hend⟩ := ih hmoved
    rw [run_cons, run_cons, hanswers, hmore]
    exact ⟨rfl, hend⟩

/-- What `next` keeps of every place, a run keeps. -/
theorem forall_places_run {P : α → Prop} (hnext : ∀ a, P a → P (next a).2)
    (hs : ∀ a ∈ s.places, P a) (moves : List Move) : ∀ a ∈ (s.run next moves).2.places, P a := by
  induction moves generalizing s with
  | nil => exact hs
  | cons m moves ih =>
    have hmove : ∀ a ∈ (s.move next m).2.places, P a := by
      obtain ⟨place, saved⟩ := s
      obtain ⟨hplace, hsaved⟩ := List.forall_mem_cons.mp hs
      cases m with
      | next => exact List.forall_mem_cons.mpr ⟨hnext place hplace, hsaved⟩
      | save => exact List.forall_mem_cons.mpr ⟨hplace, hs⟩
      | restore =>
        cases saved with
        | nil => exact hs
        | cons top rest => exact hsaved
    exact ih hmove

end Bookmarked

/-! ### A place in a list -/

/-- What stands at a place of a list, and the place behind it. Behind the end there is nothing. -/
def placeIn {α : Type} (as : List α) (k : ℕ) : Option α × ℕ := (as[k]?, k + 1)

/-- Asking only, one gets the list, and then nothing as often as one asks. -/
theorem run_placeIn_replicate {α : Type} (as : List α) (saved : List ℕ) (k n : ℕ) :
    (Bookmarked.run (placeIn as) ⟨k, saved⟩ (List.replicate n .next)).1 =
      (List.range' k n).map fun i ↦ as[i]? := by
  induction n generalizing k with
  | zero => rfl
  | succ n ih =>
    show as[k]? :: (Bookmarked.run (placeIn as) ⟨k + 1, saved⟩ (List.replicate n .next)).1 = _
    rw [ih, List.range'_succ, List.map_cons]

namespace Cursor

/-! ### A cursor at work -/

/-- A cursor stands at a place of a list if what is still to come is the list from there on. -/
def StandsAt (as : List Pattern) (c : Cursor) (k : ℕ) : Prop := c.remaining = as.drop k

/-- **A step**: both sides answer the same and stand at the same place again. -/
theorem StandsAt.next {as : List Pattern} {c : Cursor} {k : ℕ} (h : c.StandsAt as k) :
    c.next.1 = (placeIn as k).1 ∧ c.next.2.StandsAt as (placeIn as k).2 := by
  obtain ⟨hhead, htail⟩ := next_eq c
  constructor
  · rw [hhead, h, List.head?_drop]
    rfl
  · show c.next.2.remaining = as.drop (k + 1)
    rw [htail, h, List.tail_drop]

/-- Only the position of a cursor changes. -/
theorem next_keeps (c : Cursor) :
    c.next.2.registry = c.registry ∧ c.next.2.selected = c.selected := by
  fun_induction Cursor.next c with
  | case1 c => exact ⟨rfl, rfl⟩
  | case2 c _ _ ih => exact ih
  | case3 c => exact ⟨rfl, rfl⟩
  | case4 c _ _ _ _ ih => exact ih
  | case5 c _ _ _ ih => exact ih

end Cursor

namespace Registry

/-- The patterns that fire on a text, in order. -/
def firing (r : Registry) (text : String) : List Pattern :=
  r.patterns.filter fun p ↦ decide (p.Fires text)

theorem standsAt_cursor (r : Registry) (text : String) :
    (r.cursor text).StandsAt (r.firing text) 0 := by
  show (r.cursor text).remaining = _
  rw [← Cursor.toList_eq_remaining, toList_cursor, List.drop_zero]
  rfl

/-- There is one truth value for each pattern. -/
theorem length_selection (r : Registry) (text : String) : (r.selection text).length = r.size := by
  rw [selection, r.index_eq]
  rw [show r.size = r.patterns.length from rfl, KeywordIndex.selection_ofPatterns, List.length_map]

/-- **An iteration is a place in a fixed list.** The list is that of the patterns that fire on the
text. Whatever is asked, saved and restored, and in which order, the answers are those of a place in
this list; asked again and again, the list comes out element by element, and behind its end nothing
any more. No cursor that is in use ever stands, or will come to stand, at a position that has a
truth value and no pattern. -/
theorem iteration_is_place_in_list (r : Registry) (text : String) :
    (r.firing text).map Pattern.label = r.matchingLabels text ∧
      (r.selection text).length = r.size ∧
      (∀ moves, (Bookmarked.run Cursor.next ⟨r.cursor text, []⟩ moves).1 =
        (Bookmarked.run (placeIn (r.firing text)) ⟨0, []⟩ moves).1) ∧
      (∀ n, (Bookmarked.run Cursor.next ⟨r.cursor text, []⟩ (List.replicate n .next)).1 =
        (List.range n).map fun k ↦ (r.firing text)[k]?) ∧
      ∀ moves, ∀ c ∈ (Bookmarked.run Cursor.next ⟨r.cursor text, []⟩ moves).2.places,
        ∀ i isSelected, c.selected[i]? = some isSelected → ∃ p, c.registry.getAt? i = some p := by
  have hstart : Bookmarked.Related (Cursor.StandsAt (r.firing text)) ⟨r.cursor text, []⟩ ⟨0, []⟩ :=
    ⟨standsAt_cursor r text, .nil⟩
  have hanswers : ∀ moves, (Bookmarked.run Cursor.next ⟨r.cursor text, []⟩ moves).1 =
      (Bookmarked.run (placeIn (r.firing text)) ⟨0, []⟩ moves).1 := fun moves ↦
    (hstart.run (fun c k h ↦ h.next) moves).1
  refine ⟨(matchingLabels_eq r text).symm, length_selection r text, hanswers, fun n ↦ ?_, ?_⟩
  · rw [hanswers, run_placeIn_replicate, List.range_eq_range']
  · intro moves c hc i isSelected hi
    -- What a cursor looks at are the registry and the truth values it was started with.
    have hkeeps : c.registry = r ∧ c.selected = r.selection text := by
      refine Bookmarked.forall_places_run (P := fun c ↦ c.registry = r ∧
        c.selected = r.selection text) (fun c h ↦ ?_) ?_ moves c hc
      · rw [(Cursor.next_keeps c).1, (Cursor.next_keeps c).2]
        exact h
      · exact List.forall_mem_singleton.mpr ⟨rfl, rfl⟩
    rw [hkeeps.2] at hi
    have hlt : i < r.patterns.length := by
      obtain ⟨hlt, -⟩ := List.getElem?_eq_some_iff.mp hi
      rwa [length_selection] at hlt
    rw [hkeeps.1]
    exact ⟨r.patterns[i], List.getElem?_eq_getElem hlt⟩

end Registry

end SecretScan
