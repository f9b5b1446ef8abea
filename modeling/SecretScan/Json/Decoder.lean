import SecretScan.Json.Reader
import SecretScan.Matcher

/-!
# Taking JSON values apart

What kind of value is asked for, and the fault when another one is there. An array or object in the
wrong place is a mismatch at once, whatever it holds; the first fault inside a value counts where the
value is taken apart.
-/

namespace SecretScan.Json

/-- A text. -/
def asString : Json → Except JsonFault String
  | .string s => .ok s
  | .broken fault => .error fault
  | _ => .error .mismatch

/-- A truth value. -/
def asBool : Json → Except JsonFault Bool
  | .bool b => .ok b
  | .broken fault => .error fault
  | _ => .error .mismatch

/-- Any number. -/
def asNumber : Json → Except JsonFault Binary64
  | .number n => .ok n.toBinary64
  | .broken fault => .error fault
  | _ => .error .mismatch

/-- A number of things, below `2 ^ 64`. -/
def asSize : Json → Except JsonFault Nat
  | .number (.natural n) => .ok n
  | .broken fault => .error fault
  | _ => .error .mismatch

/-- Nothing, or a value. -/
def asOption {α : Type} (take : Json → Except JsonFault α) : Json → Except JsonFault (Option α)
  | .null => .ok none
  | v => some <$> take v

/-- One text or an array of texts. The value is read to its end before its kind is looked at. -/
def asOneOrMany (v : Json) : Except JsonFault (OneOrMany String) :=
  match v.fault?, v with
  | some fault, _ => .error fault
  | none, .string s => .ok (.one s)
  | none, .array items _ => .many <$> items.mapM asString
  | none, _ => .error .mismatch

/-- The members of an object, each value taken apart in turn. -/
def asMembers {α : Type} (take : Json → Except JsonFault α) :
    Json → Except JsonFault (List (String × α))
  | .object members cut => do
    let taken ← members.mapM fun (name, v) => do return (name, ← take v)
    match cut with
    | some fault => .error fault
    | none => return taken
  | .broken fault => .error fault
  | _ => .error .mismatch

/-! ### Records -/

/-- A field of a record: its name, and how its value goes into the record. -/
structure Field (σ : Type) where
  /-- The name of the member. -/
  name : String
  /-- Puts the value in. -/
  put : Json → σ → Except JsonFault σ

/-- Puts the members of an object into a record. A name that no field has is a mismatch, and so is one
that has been met before, both before the value is looked at. -/
def putMembers {σ : Type} (fields : List (Field σ)) :
    (met : List String) → List (String × Json) → σ → Except JsonFault σ
  | _, [], record => .ok record
  | met, (name, v) :: rest, record =>
    match fields.find? fun f => f.name == name with
    | none => .error .mismatch
    | some field =>
      if name ∈ met then .error .mismatch
      else do putMembers fields (name :: met) rest (← field.put v record)

/-- Puts the items of an array into the fields of a record one by one. An item too many is not looked
at. -/
def putItems {σ : Type} : List (Field σ) → List Json → σ → Except JsonFault σ
  | _, [], record => .ok record
  | [], _ :: _, _ => .error .malformed
  | field :: fields, v :: rest, record => do putItems fields rest (← field.put v record)

/-- A record, from an object or from an array of the values of its first fields. Fields that are not
given keep what `record` holds. -/
def asRecord {σ : Type} (fields : List (Field σ)) (record : σ) (v : Json) : Except JsonFault σ := do
  let (taken, cut) ← match v with
    | .object members cut => do pure (← putMembers fields [] members record, cut)
    | .array items cut => do pure (← putItems fields items record, cut)
    | .broken fault => .error fault
    | _ => .error .mismatch
  match cut with
  | some fault => .error fault
  | none => return taken

/-! ### Names -/

/-- A name out of a fixed list, from a text. -/
def asName {α : Type} (find : String → Option α) (v : Json) : Except JsonFault α := do
  match find (← v.asString) with
  | some a => return a
  | none => .error .mismatch

/-- A whole document that holds one name: as a text, or as the name of the one member of an object
whose value is nothing. Any other document is malformed. -/
def decodeName {α : Type} (find : String → Option α) (text : String) : Except JsonFault α :=
  match dropBlank text.toList with
  | [] => .error .unfinished
  | '"' :: _ => decode (asName find) text
  | '{' :: rest => do
    let (key, rest) := read rest
    let a ← asName find key
    let rest ← match dropBlank (rest.getD []) with
      | ':' :: rest => pure rest
      | [] => .error .unfinished
      | _ => .error .malformed
    let (value, rest) := read rest
    match value with
    | .null => pure ()
    | .broken fault => .error fault
    | _ => .error .mismatch
    match dropBlank (rest.getD []) with
    | '}' :: rest => if dropBlank rest = [] then return a else .error .malformed
    | [] => .error .unfinished
    | _ => .error .malformed
  | _ => .error .malformed

end SecretScan.Json
