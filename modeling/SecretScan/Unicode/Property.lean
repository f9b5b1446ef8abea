import SecretScan.CharSet
import SecretScan.Unicode.Named
import SecretScan.Unicode.Category
import SecretScan.Unicode.Script
import SecretScan.Unicode.ScriptExtension
import SecretScan.Unicode.Casing
import SecretScan.Unicode.Identifier
import SecretScan.Unicode.Emoji
import SecretScan.Unicode.Usage
import SecretScan.Unicode.Word

/-!
# Character properties by name

A property is asked for by its own name (`Alphabetic`), by a general category or script alone
(`Lu`, `Greek`), or by a property and a value (`Script=Greek`). Names are compared as
`Named.normalize` makes them.
-/

namespace SecretScan.Unicode

/-- The properties that hold or do not hold of a character. -/
def binaryProperties : List Named :=
  Identifier.table ++ Casing.table ++ Usage.table ++ Emoji.table

/-- The general category of a name, unions of categories included. -/
def category? (name : String) : Option CharSet :=
  match Named.find? Category.leaves name with
  | some ranges => some (.table ranges)
  | none =>
    match name with
    | "any" => some .any
    | "ascii" => some (.range 0 0x7f)
    | "assigned" => (Named.find? Category.leaves "cn").map fun ranges => .compl (.table ranges)
    | _ =>
      (Category.groups.find? fun g => g.1.contains name).map fun g =>
        .unions (g.2.filterMap fun code => (Named.find? Category.leaves code).map .table)

/-- The script of a name. -/
def script? (name : String) : Option CharSet :=
  (Named.find? Script.table name).map .table

/-- The characters in use with the script of a name. -/
def scriptExtension? (name : String) : Option CharSet :=
  match Named.find? ScriptExtension.table name with
  | some ranges => some (.table ranges)
  | none => script? name

/-- The characters of a property that is named alone. -/
def property? (name : List Char) : Option CharSet :=
  let name := Named.normalize name
  ((Named.find? binaryProperties name).map .table).or ((category? name).or (script? name))

/-- The characters for which a property has a value. -/
def propertyValue? (name value : List Char) : Option CharSet :=
  let value := Named.normalize value
  match Named.normalize name with
  | "gc" | "generalcategory" => category? value
  | "sc" | "script" => script? value
  | "scx" | "scriptextensions" => scriptExtension? value
  | _ => none

/-- The decimal digits of all scripts. -/
def digit : CharSet := (category? "nd").getD .empty

/-- Letters and the like: the characters a name may start with. -/
def alphabetic : CharSet := ((Named.find? Identifier.table "alphabetic").map .table).getD .empty

/-- The characters with a numeric category. -/
def numeric : CharSet := (category? "n").getD .empty

end SecretScan.Unicode
