import SecretScan.Pattern.KeywordIndex
import SecretScan.Pattern.Builtin

/-!
# The registry

An ordered list of patterns with its keyword index. The order counts: of the patterns that match a
text the first one is reported. Matching patterns are delivered one at a time by a cursor, which runs
no expression before it is asked.
-/

namespace SecretScan

/-- An ordered list of patterns. -/
structure Registry where
  /-- The patterns in order. -/
  patterns : List Pattern
  /-- The keywords of the patterns, turned round. -/
  index : KeywordIndex := .ofPatterns patterns
  /-- The index is that of the patterns. -/
  index_eq : index = .ofPatterns patterns := by rfl

namespace Registry

/-- The registry of a list of patterns. -/
def ofPatterns (patterns : List Pattern) : Registry := { patterns }

/-- The patterns of the built-in table. -/
def builtinPatterns : Except Fault (List Pattern) := Builtin.definitions.mapM Pattern.ofDefinition

/-- The registry of the built-in table. -/
def builtin : Except Fault Registry := ofPatterns <$> builtinPatterns

/-- Appends added patterns in order. A label that is in use already is a fault, and looked at before
the expression is compiled. -/
def addCustom (patterns : List Pattern) : List (String × MatcherInput) → Except Fault (List Pattern)
  | [] => .ok patterns
  | (label, input) :: rest =>
    if patterns.any fun p => p.label == label then .error (.duplicateLabel label)
    else
      match Pattern.custom label input with
      | .error fault => .error fault
      | .ok p => addCustom (patterns ++ [p]) rest

/-- The registry of the built-in table followed by added patterns. -/
def withAdditional (additional : List (String × MatcherInput)) : Except Fault Registry := do
  return ofPatterns (← addCustom (← builtinPatterns) additional)

/-! ### Look-ups -/

/-- The number of patterns. -/
def size (r : Registry) : Nat := r.patterns.length

/-- The labels in order. -/
def labels (r : Registry) : List String := r.patterns.map Pattern.label

/-- The first pattern with a label. -/
def get? (r : Registry) (label : String) : Option Pattern :=
  r.patterns.find? fun p => p.label == label

/-- The pattern at a position. -/
def getAt? (r : Registry) (position : Nat) : Option Pattern := r.patterns[position]?

/-- A registry in one line: how many patterns it has, and how many without keywords. -/
def summary (r : Registry) : String :=
  "PatternRegistry \x7b patterns: " ++ toString r.size ++ ", patterns_without_keywords: " ++
    toString r.index.unkeyed.length ++ ", .. \x7d"

/-- Which patterns to run on a text, one truth value for each. -/
def selection (r : Registry) (text : String) : List Bool := r.index.selection r.size text

end Registry

/-! ### Cursors -/

/-- A place in the list of patterns to run on a text: a value, so that a copy keeps its place whatever
is done with the other. -/
structure Cursor where
  /-- The registry whose patterns are run. -/
  registry : Registry
  /-- The text. -/
  text : String
  /-- Which patterns to run, one truth value for each. -/
  selected : List Bool
  /-- The position of the pattern to try next. -/
  position : Nat := 0

namespace Cursor

/-- The number of positions not yet tried. -/
def left (c : Cursor) : Nat := c.selected.length - c.position

/-- The cursor one position further on. -/
def behind (c : Cursor) : Cursor := { c with position := c.position + 1 }

theorem left_behind_lt {c : Cursor} {isSelected : Bool}
    (h : c.selected[c.position]? = some isSelected) : c.behind.left < c.left := by
  obtain ⟨hlt, -⟩ := List.getElem?_eq_some_iff.mp h
  simp only [left, behind]
  omega

/-- The next matching pattern, if there is one, and the cursor behind it. -/
def next (c : Cursor) : Option Pattern × Cursor :=
  match _h : c.selected[c.position]? with
  | none => (none, c)
  | some isSelected =>
    if isSelected then
      match c.registry.getAt? c.position with
      | none => c.behind.next
      | some p => if p.regex.isMatch c.text then (some p, c.behind) else c.behind.next
    else c.behind.next
termination_by c.left
decreasing_by all_goals exact left_behind_lt _h

/-- A cursor that has delivered a pattern has fewer positions left. -/
theorem left_lt_of_next {c c' : Cursor} {p : Pattern} (h : c.next = (some p, c')) :
    c'.left < c.left := by
  fun_induction Cursor.next c with
  | case1 => simp at h
  | case2 c _ hs ih => exact Nat.lt_trans (ih h) (left_behind_lt hs)
  | case3 c q _ _ hs =>
    obtain ⟨-, rfl⟩ := Prod.mk.inj h
    exact left_behind_lt hs
  | case4 c q _ _ hs ih => exact Nat.lt_trans (ih h) (left_behind_lt hs)
  | case5 c _ hs _ ih => exact Nat.lt_trans (ih h) (left_behind_lt hs)

/-- The patterns still to be delivered, in order. -/
def toList (c : Cursor) : List Pattern :=
  match _h : c.next with
  | (none, _) => []
  | (some p, behind) => p :: behind.toList
termination_by c.left
decreasing_by exact left_lt_of_next _h

end Cursor

/-! ### Matching -/

namespace Registry

/-- The patterns that match a text, one at a time and in order. -/
def cursor (r : Registry) (text : String) : Cursor where
  registry := r
  text := text
  selected := r.selection text

/-- The labels of all patterns that match a text, in order. -/
def matchingLabels (r : Registry) (text : String) : List String :=
  (r.cursor text).toList.map Pattern.label

/-- The label of the first pattern that matches a text. -/
def firstMatch (r : Registry) (text : String) : Option String :=
  (r.cursor text).next.1.map Pattern.label

end Registry

end SecretScan
