import SecretScan.Unicode.Ranges

/-!
# Named tables

A table of code points together with the names it goes by, and the way names are compared: case,
blanks, hyphens and underscores do not count, and neither does a leading `is`.
-/

namespace SecretScan.Unicode

/-- A table and its names, each in the form in which names are compared. -/
structure Named where
  /-- Small letters and digits only. -/
  names : List String
  /-- The code points that have the property. -/
  ranges : Ranges

namespace Named

/-- The first table of a list that goes by a name. -/
def find? (tables : List Named) (name : String) : Option Ranges :=
  (tables.find? fun t => t.names.contains name).map Named.ranges

/-- The form in which names are compared: a leading `is` dropped, then small letters without
blanks, hyphens, underscores and everything beyond ASCII. The one letter `c` left over from `isc`
keeps its `is`, since that is another name. -/
def normalize (name : List Char) : String :=
  let lowered := name.map Char.toLower
  let bare (cs : List Char) := cs.filter fun c => c.toNat < 128 && !" _-".toList.contains c
  match lowered with
  | 'i' :: 's' :: rest =>
    let kept := bare rest
    if kept = ['c'] then "isc" else String.ofList kept
  | _ => String.ofList (bare lowered)

end Named

end SecretScan.Unicode
