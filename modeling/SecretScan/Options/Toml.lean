import SecretScan.Options
import SecretScan.Toml.Reader

/-!
# Options from TOML

The fields of a table are taken in the order of their keys, so that added patterns are ordered by label
and not by their place in the document. A record may also be given as an array of the values of its
first fields.
-/

namespace SecretScan

namespace Toml

/-- A text. -/
def asString? : Toml → Option String
  | .string s => some s
  | _ => none

/-- A truth value. -/
def asBool? : Toml → Option Bool
  | .bool b => some b
  | _ => none

/-- Any number; a whole one must fit 64 bits. -/
def asNumber? : Toml → Option Binary64
  | .integer n =>
    if -0x8000000000000000 ≤ n ∧ n < 0x10000000000000000 then
      some (if n < 0 then (Binary64.ofNat n.natAbs).neg else .ofNat n.natAbs)
    else none
  | .float x => some x
  | _ => none

/-- A number of things, below `2 ^ 64`. -/
def asSize? : Toml → Option Nat
  | .integer n => if 0 ≤ n ∧ n < 0x10000000000000000 then some n.toNat else none
  | _ => none

/-- One text or an array of texts. -/
def asOneOrMany? : Toml → Option (OneOrMany String)
  | .string s => some (.one s)
  | .array items => .many <$> items.mapM asString?
  | _ => none

/-- The key under which a date stands where a table is asked for. -/
def datetimeKey : String := "$__toml_private_datetime"

/-- Texts under keys, in the order of the keys. A date counts as a table of one key. -/
def asMembers? : Toml → Option (List (String × String))
  | .table entries =>
    let sorted := entries.mergeSort fun a b => decide (a.1 ≤ b.1)
    sorted.mapM fun (key, v) => do return (key, ← v.asString?)
  | .datetime text => some [(datetimeKey, text)]
  | _ => none

/-- A field of a record: its name, and how its value goes into the record. -/
structure Field (σ : Type) where
  /-- The key. -/
  name : String
  /-- Puts the value in. -/
  put : Toml → σ → Option σ

/-- Puts the values of a table into a record; every key is the name of a field. -/
def putMembers {σ : Type} (fields : List (Field σ)) : List (String × Toml) → σ → Option σ
  | [], record => some record
  | (name, v) :: rest, record => do
    let field ← fields.find? fun f => f.name == name
    putMembers fields rest (← field.put v record)

/-- Puts the items of an array into the fields of a record one by one; items too many do not count. -/
def putItems {σ : Type} : List (Field σ) → List Toml → σ → Option σ
  | field :: fields, v :: rest, record => do putItems fields rest (← field.put v record)
  | _, _, record => some record

/-- A record, from a table or from an array of the values of its first fields. -/
def asRecord? {σ : Type} (fields : List (Field σ)) (record : σ) : Toml → Option σ
  | .table entries => putMembers fields entries record
  | .array items => putItems fields items record
  | _ => none

end Toml

/-- The matchers of a value: one text or an array of texts. -/
def matchersOfToml? (v : Toml) : Option (OneOrMany MatcherInput) :=
  v.asOneOrMany?.map fun
    | .one s => .one (.source s)
    | .many ss => .many (ss.map .source)

/-- The fields of the thresholds. -/
def ThresholdOverrides.keys : List (Toml.Field ThresholdOverrides) := [
  ⟨"hex", fun v t => do return { t with hex := ← v.asNumber? }⟩,
  ⟨"base64", fun v t => do return { t with base64 := ← v.asNumber? }⟩,
  ⟨"generic", fun v t => do return { t with generic := ← v.asNumber? }⟩]

namespace Options

/-- The fields of the options. -/
def keys : List (Toml.Field Options) := [
  ⟨"entropyThresholdsByAlphabet", fun v o => do
    return { o with thresholds := ← v.asRecord? ThresholdOverrides.keys {} }⟩,
  ⟨"minimumLength", fun v o => do return { o with minimumLength := ← v.asSize? }⟩,
  ⟨"ignoreContent", fun v o => do return { o with ignoreContent := ← matchersOfToml? v }⟩,
  ⟨"ignoreIdentifiers", fun v o => do return { o with ignoreIdentifiers := ← matchersOfToml? v }⟩,
  ⟨"ignoreModules", fun v o => do return { o with ignoreModules := ← v.asBool? }⟩,
  ⟨"additionalRegexes", fun v o => do
    let members ← v.asMembers?
    return { o with additional := .ofList (members.map fun m => (m.1, .source m.2)) }⟩]

/-- The options of a TOML document. -/
def ofToml? (text : String) : Option Options := do
  Toml.putMembers keys (← Toml.read text) {}

end Options

end SecretScan
