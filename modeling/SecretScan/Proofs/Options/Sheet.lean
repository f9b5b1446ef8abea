import SecretScan.Proofs.Number.Literal
import SecretScan.Proofs.Options.Json
import SecretScan.Proofs.Options.Toml

/-!
# Options in two notations

A `Sheet` is what a document of options holds, whatever it is written in: which of the options are
given, and what each of them says. How a notation writes the values is a `Writing`, and a sheet is
written by members in any order, one for each option that is given (`Sheet.IsWritten`). A notation
whose readings fit its writings gets back what has been written (`Sheet.isGiven_options`), and both
JSON and TOML are such notations (`Json.reads_writing`, `Toml.reads_writing`):

```
s.IsJson text  →  Options.ofJson text  = .ok s.fromJson
s.IsToml text  →  Options.ofToml? text = some s.fromToml
```

What is left to compare are two lines of a definition, `Sheet.options`: numbers are read in their
own ways, and patterns are arranged in their own ways.
-/

namespace SecretScan

/-! ### What is written -/

/-- Which thresholds are given, and what they are. -/
structure ThresholdSheet where
  /-- For texts of hexadecimal digits. -/
  hex : Option Literal := none
  /-- For texts in base64. -/
  base64 : Option Literal := none
  /-- For all other texts. -/
  generic : Option Literal := none

/-- Which options are given, and what they are. -/
structure Sheet where
  /-- Thresholds that replace the default ones. -/
  thresholds : Option ThresholdSheet := none
  /-- Texts with fewer characters have no score. -/
  minimumLength : Option ℕ := none
  /-- The number fits 64 bits. -/
  minimumLength_lt : ∀ n ∈ minimumLength, n < 0x10000000000000000 := by simp
  /-- Matchers on texts. -/
  ignoreContent : Option (OneOrMany String) := none
  /-- Matchers on names. -/
  ignoreIdentifiers : Option (OneOrMany String) := none
  /-- Whether modules are skipped. -/
  ignoreModules : Option Bool := none
  /-- Further patterns. -/
  additional : Option (LabelMap String) := none

/-- How a notation writes values. -/
structure Writing (α : Type) where
  /-- A threshold. -/
  number : Literal → α
  /-- A number of characters. -/
  length : ℕ → α
  /-- A text. -/
  text : String → α
  /-- A truth value. -/
  flag : Bool → α
  /-- Values in order. -/
  array : List α → α
  /-- Values under names. -/
  record : List (String × α) → α
  /-- In which order patterns may be written. -/
  arranged : List (String × String) → List (String × String) → Prop

namespace Writing

variable {α : Type}

/-- One matcher is a text, several are an array of texts. -/
def matchers (w : Writing α) : OneOrMany String → α
  | .one s => w.text s
  | .many ss => w.array (ss.map w.text)

/-- Patterns are texts under their labels. -/
def patterns (w : Writing α) (es : List (String × String)) : α :=
  w.record (es.map fun e ↦ (e.1, w.text e.2))

end Writing

/-- An option is written: it has a member exactly if it is given. -/
inductive Written {α β : Type} (writes : β → α → Prop) (ms : List (String × α)) (name : String) :
    Option β → Prop where
  /-- A member of the name says what it is. -/
  | member {b : β} {v : α} (hmem : (name, v) ∈ ms) (h : writes b v) :
      Written writes ms name (some b)
  /-- No member has the name. -/
  | absent (h : name ∉ ms.map Prod.fst) : Written writes ms name none

/-- The members of a record of thresholds. -/
structure ThresholdSheet.IsWritten {α : Type} (w : Writing α) (t : ThresholdSheet)
    (ms : List (String × α)) : Prop where
  /-- No name comes twice. -/
  nodup : (ms.map Prod.fst).Nodup
  /-- There are no other names. -/
  names : ∀ m ∈ ms, m.1 ∈ ThresholdOverrides.names
  /-- For texts of hexadecimal digits. -/
  hex : Written (fun l v ↦ v = w.number l) ms "hex" t.hex
  /-- For texts in base64. -/
  base64 : Written (fun l v ↦ v = w.number l) ms "base64" t.base64
  /-- For all other texts. -/
  generic : Written (fun l v ↦ v = w.number l) ms "generic" t.generic

/-- The members of a record of options. -/
structure Sheet.IsWritten {α : Type} (w : Writing α) (s : Sheet) (ms : List (String × α)) :
    Prop where
  /-- No name comes twice. -/
  nodup : (ms.map Prod.fst).Nodup
  /-- There are no other names. -/
  names : ∀ m ∈ ms, m.1 ∈ Options.names
  /-- Thresholds are a record of their own. -/
  thresholds : Written (fun t v ↦ ∃ ms, t.IsWritten w ms ∧ v = w.record ms) ms
    "entropyThresholdsByAlphabet" s.thresholds
  /-- A length is a whole number. -/
  minimumLength : Written (fun n v ↦ v = w.length n) ms "minimumLength" s.minimumLength
  /-- Matchers on texts. -/
  ignoreContent : Written (fun m v ↦ v = w.matchers m) ms "ignoreContent" s.ignoreContent
  /-- Matchers on names. -/
  ignoreIdentifiers : Written (fun m v ↦ v = w.matchers m) ms "ignoreIdentifiers"
    s.ignoreIdentifiers
  /-- Whether modules are skipped. -/
  ignoreModules : Written (fun b v ↦ v = w.flag b) ms "ignoreModules" s.ignoreModules
  /-- Patterns are a record of their own. -/
  additional : Written (fun m v ↦ ∃ es, w.arranged m.entries es ∧ v = w.patterns es) ms
    "additionalRegexes" s.additional

/-! ### What is read -/

/-- The texts of matchers. -/
def OneOrMany.sources : OneOrMany String → OneOrMany MatcherInput
  | .one s => .one (.source s)
  | .many ss => .many (ss.map .source)

/-- The patterns of texts under labels. -/
def LabelMap.ofSources (es : List (String × String)) : LabelMap MatcherInput :=
  .ofList (es.map fun e ↦ (e.1, .source e.2))

/-- The thresholds of a sheet, as a notation reads numbers. -/
def ThresholdSheet.overrides (t : ThresholdSheet) (read : Literal → Binary64) :
    ThresholdOverrides where
  hex := t.hex.map read
  base64 := t.base64.map read
  generic := t.generic.map read

/-- The options of a sheet, as a notation reads numbers and arranges patterns. -/
def Sheet.options (s : Sheet) (read : Literal → Binary64)
    (arrange : List (String × String) → List (String × String)) : Options where
  thresholds := s.thresholds.elim {} fun t ↦ t.overrides read
  minimumLength := s.minimumLength
  ignoreContent := s.ignoreContent.elim (.many []) OneOrMany.sources
  ignoreIdentifiers := s.ignoreIdentifiers.elim (.many []) OneOrMany.sources
  ignoreModules := s.ignoreModules.getD false
  additional := s.additional.elim {} fun m ↦ .ofSources (arrange m.entries)

/-- A reading gets back what a writing has written. -/
structure Reading.Reads {α : Type} (r : Reading α) (w : Writing α) (read : Literal → Binary64)
    (arrange : List (String × String) → List (String × String)) : Prop where
  /-- Thresholds, in any order. -/
  thresholds : ∀ t ms, ThresholdSheet.IsWritten w t ms →
    r.thresholds (w.record ms) (t.overrides read)
  /-- A number of characters. -/
  length : ∀ n < 0x10000000000000000, r.length (w.length n) (some n)
  /-- Matchers. -/
  matchers : ∀ m, r.matchers (w.matchers m) m.sources
  /-- A truth value. -/
  flag : ∀ b, r.flag (w.flag b) b
  /-- Patterns, in an order in which they may be written. -/
  patterns : ∀ (m : LabelMap String) es, w.arranged m.entries es →
    r.patterns (w.patterns es) (.ofSources (arrange m.entries))

section

variable {α β γ : Type} {writes : β → α → Prop} {ms : List (String × α)} {name : String}
  {b? : Option β}

/-- What is written is what is read, or the default. -/
theorem Written.given {means : α → γ → Prop} {default : γ} {f : β → γ}
    (h : Written writes ms name b?) (hmeans : ∀ b ∈ b?, ∀ v, writes b v → means v (f b)) :
    Given means default ms name (b?.elim default f) := by
  cases h with
  | member hmem h => exact .member hmem (hmeans _ rfl _ h)
  | absent h => exact .absent h

/-- Where the default is that there is nothing. -/
theorem Written.given_map {means : α → Option γ → Prop} {f : β → γ}
    (h : Written writes ms name b?) (hmeans : ∀ b ∈ b?, ∀ v, writes b v → means v (some (f b))) :
    Given means none ms name (b?.map f) := by
  cases h with
  | member hmem h => exact .member hmem (hmeans _ rfl _ h)
  | absent h => exact .absent h

variable {w : Writing α} {read : Literal → Binary64}
  {arrange : List (String × String) → List (String × String)}

/-- **Thresholds** are read as they are written. -/
theorem ThresholdSheet.isGiven_overrides {means : α → Option Binary64 → Prop} {t : ThresholdSheet}
    (hmeans : ∀ l, means (w.number l) (some (read l))) (h : t.IsWritten w ms) :
    (t.overrides read).IsGiven means ms where
  hex := h.hex.given_map fun l _ _ hv ↦ hv ▸ hmeans l
  base64 := h.base64.given_map fun l _ _ hv ↦ hv ▸ hmeans l
  generic := h.generic.given_map fun l _ _ hv ↦ hv ▸ hmeans l

/-- **Options** are read as they are written. -/
theorem Sheet.isGiven_options {r : Reading α} (hr : r.Reads w read arrange) {s : Sheet}
    (h : s.IsWritten w ms) : (s.options read arrange).IsGiven r ms where
  thresholds := h.thresholds.given fun t _ v hv ↦ by
    obtain ⟨ms, hms, rfl⟩ := hv
    exact hr.thresholds t ms hms
  minimumLength := by
    have hgiven := h.minimumLength.given_map (f := id) fun n hn v hv ↦ by
      subst hv
      exact hr.length n (s.minimumLength_lt n hn)
    rwa [Option.map_id] at hgiven
  ignoreContent := h.ignoreContent.given fun m _ _ hv ↦ hv ▸ hr.matchers m
  ignoreIdentifiers := h.ignoreIdentifiers.given fun m _ _ hv ↦ hv ▸ hr.matchers m
  ignoreModules := by
    have hgiven : Given r.flag false ms "ignoreModules" (s.ignoreModules.elim false id) :=
      h.ignoreModules.given fun b _ _ hv ↦ hv ▸ hr.flag b
    cases hflag : s.ignoreModules <;> simpa [options, hflag] using hgiven
  additional := h.additional.given fun m _ v hv ↦ by
    obtain ⟨es, hes, rfl⟩ := hv
    exact hr.patterns m es hes

end

/-! ### The two notations -/

/-- How JSON writes values. The order of patterns counts. -/
def Json.writing : Writing Json where
  number l := .number l.jsonNumber
  length n := .number (.natural n)
  text := .string
  flag := .bool
  array vs := .array vs none
  record ms := .object ms none
  arranged := Eq

/-- How TOML writes values. The order of patterns does not count. -/
def Toml.writing : Writing Toml where
  number := Literal.tomlValue
  length n := .integer n
  text := .string
  flag := .bool
  array := .array
  record := .table
  arranged := List.Perm

/-- Patterns in the order of their labels. -/
def Toml.arrange (es : List (String × String)) : List (String × String) :=
  es.mergeSort fun a b ↦ decide (a.1 ≤ b.1)

/-- **JSON** reads what it writes. -/
theorem Json.reads_writing :
    Json.reading.Reads Json.writing (fun l ↦ l.jsonNumber.toBinary64) id where
  thresholds t ms h := ⟨ms, .object h.nodup h.names,
    ThresholdSheet.isGiven_overrides (fun l ↦ .number l.jsonNumber) h⟩
  length n _ := .natural n
  matchers
    | .one s => .one s
    | .many ss => .many ss
  flag b := rfl
  patterns m es h := by
    obtain rfl := h
    exact .object m.entries

namespace Toml

/-! ### The order of labels -/

variable {es es' : List (String × String)}

theorem arrange_perm (es : List (String × String)) : (arrange es).Perm es :=
  List.mergeSort_perm es _

theorem pairwise_arrange (es : List (String × String)) :
    (arrange es).Pairwise fun a b ↦ a.1 ≤ b.1 := by
  have htrans (a b c : String × String) (hab : decide (a.1 ≤ b.1) = true)
      (hbc : decide (b.1 ≤ c.1) = true) : decide (a.1 ≤ c.1) = true :=
    decide_eq_true (String.le_trans (of_decide_eq_true hab) (of_decide_eq_true hbc))
  have htotal (a b : String × String) : (decide (a.1 ≤ b.1) || decide (b.1 ≤ a.1)) = true := by
    rw [Bool.or_eq_true, decide_eq_true_iff, decide_eq_true_iff]
    exact String.le_total a.1 b.1
  exact (List.pairwise_mergeSort htrans htotal es).imp of_decide_eq_true

/-- Where labels differ, the order of labels is one order whatever the patterns' own is. -/
theorem arrange_eq_of_perm (h : es.Perm es') (hlabels : (es.map Prod.fst).Nodup) :
    arrange es = arrange es' := by
  have hperm : (arrange es).Perm (arrange es') :=
    (arrange_perm es).trans (h.trans (arrange_perm es').symm)
  refine hperm.eq_of_pairwise (fun a b ha hb hab hba ↦ ?_) (pairwise_arrange es)
    (pairwise_arrange es')
  have ha' : a ∈ es := (arrange_perm es).mem_iff.mp ha
  have hb' : b ∈ es := h.mem_iff.mpr ((arrange_perm es').mem_iff.mp hb)
  exact List.inj_on_of_nodup_map hlabels ha' hb' (String.le_antisymm hab hba)

theorem mapM_asString? (ss : List String) : (ss.map Toml.string).mapM asString? = some ss := by
  induction ss with
  | nil => rfl
  | cons s ss ih => rw [List.map_cons, List.mapM_cons, ih]; rfl

/-- The patterns of a table are read in the order of their labels. -/
theorem asMembers?_patterns (es : List (String × String)) :
    (writing.patterns es).asMembers? = some (arrange es) := by
  have hsort : (es.map fun e ↦ (e.1, Toml.string e.2)).mergeSort
      (fun a b ↦ decide (a.1 ≤ b.1)) = (arrange es).map fun e ↦ (e.1, .string e.2) :=
    (List.map_mergeSort (f := fun e : String × String ↦ (e.1, Toml.string e.2))
      fun a _ b _ ↦ rfl).symm
  have hmembers (es : List (String × String)) :
      ((es.map fun e ↦ (e.1, Toml.string e.2)).mapM fun m ↦ do
        return (m.1, ← m.2.asString?)) = some es := by
    induction es with
    | nil => rfl
    | cons e es ih => rw [List.map_cons, List.mapM_cons, ih]; rfl
  show (((es.map fun e ↦ (e.1, Toml.string e.2)).mergeSort
    fun a b ↦ decide (a.1 ≤ b.1)).mapM fun m ↦ do return (m.1, ← m.2.asString?)) = _
  rw [hsort, hmembers]

/-- **TOML** reads what it writes. -/
theorem reads_writing : reading.Reads writing Literal.tomlNumber arrange where
  thresholds t ms h := by
    refine ThresholdOverrides.asRecord?_of_isGiven h.nodup h.names ?_
    refine ThresholdSheet.isGiven_overrides (fun l ↦ ?_) h
    show l.tomlValue.asNumber?.map some = _
    rw [l.asNumber?_eq]
    rfl
  length n hn := by
    have hfits : (0 : ℤ) ≤ n ∧ (n : ℤ) < 0x10000000000000000 := by omega
    show (Toml.integer n).asSize?.map some = _
    rw [asSize?, if_pos hfits]
    rfl
  matchers
    | .one s => rfl
    | .many ss => by
      show ((OneOrMany.many <$> (ss.map Toml.string).mapM asString?).map _) = _
      rw [mapM_asString?]
      rfl
  flag b := rfl
  patterns m es h := by
    refine ⟨arrange m.entries, ?_, rfl⟩
    rw [arrange_eq_of_perm h m.nodup]
    exact asMembers?_patterns es

end Toml

/-! ### Documents -/

namespace Sheet

variable {s : Sheet} {text : String}

/-- A JSON document of a sheet. -/
def IsJson (s : Sheet) (text : String) : Prop :=
  ∃ ms, s.IsWritten Json.writing ms ∧ Json.IsDocument (.object ms none) text.toList

/-- A TOML document of a sheet. -/
def IsToml (s : Sheet) (text : String) : Prop :=
  ∃ ms, s.IsWritten Toml.writing ms ∧ Toml.IsDocument ms text.toList

/-- The options of a sheet in JSON. -/
def fromJson (s : Sheet) : Options := s.options (fun l ↦ l.jsonNumber.toBinary64) id

/-- The options of a sheet in TOML. -/
def fromToml (s : Sheet) : Options := s.options Literal.tomlNumber Toml.arrange

/-- **From JSON.** -/
theorem ofJson_of_isJson (h : s.IsJson text) : Options.ofJson text = .ok s.fromJson := by
  obtain ⟨ms, hms, hdocument⟩ := h
  have hread : Options.ofJson text = (Json.object ms none).asRecord Options.fields {} :=
    Json.decode_of_isDocument hdocument _
  rw [hread, Options.asRecord_eq_ok_iff]
  exact ⟨ms, .object hms.nodup hms.names, isGiven_options Json.reads_writing hms⟩

/-- **From TOML.** -/
theorem ofToml?_of_isToml (h : s.IsToml text) : Options.ofToml? text = some s.fromToml := by
  obtain ⟨ms, hms, hdocument⟩ := h
  rw [Options.ofToml?_eq_some_iff hdocument hms.names]
  exact isGiven_options Toml.reads_writing hms

end Sheet

end SecretScan
