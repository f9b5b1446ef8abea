import SecretScan.Json.Decoder
import SecretScan.Options

/-!
# Options from JSON
-/

namespace SecretScan

/-- The matchers of a value: one text or an array of texts. -/
def matchersOfJson (v : Json) : Except JsonFault (OneOrMany MatcherInput) :=
  v.asOneOrMany.map fun
    | .one s => .one (.source s)
    | .many ss => .many (ss.map .source)

/-- The matchers of a whole document. -/
def matchersOfJsonText (text : String) : Except JsonFault (OneOrMany MatcherInput) :=
  Json.decode matchersOfJson text

/-- The fields of the thresholds. -/
def ThresholdOverrides.fields : List (Json.Field ThresholdOverrides) := [
  ⟨"hex", fun v t => do return { t with hex := ← v.asOption Json.asNumber }⟩,
  ⟨"base64", fun v t => do return { t with base64 := ← v.asOption Json.asNumber }⟩,
  ⟨"generic", fun v t => do return { t with generic := ← v.asOption Json.asNumber }⟩]

namespace Options

/-- The fields of the options, in the order in which an array gives them. -/
def fields : List (Json.Field Options) := [
  ⟨"entropyThresholdsByAlphabet", fun v o => do
    return { o with thresholds := ← v.asRecord ThresholdOverrides.fields {} }⟩,
  ⟨"minimumLength", fun v o => do return { o with minimumLength := ← v.asOption Json.asSize }⟩,
  ⟨"ignoreContent", fun v o => do return { o with ignoreContent := ← matchersOfJson v }⟩,
  ⟨"ignoreIdentifiers", fun v o => do return { o with ignoreIdentifiers := ← matchersOfJson v }⟩,
  ⟨"ignoreModules", fun v o => do return { o with ignoreModules := ← v.asBool }⟩,
  ⟨"additionalRegexes", fun v o => do
    let members ← v.asMembers Json.asString
    return { o with additional := .ofList (members.map fun m => (m.1, .source m.2)) }⟩]

/-- The options of a JSON document. -/
def ofJson (text : String) : Except JsonFault Options := Json.decode (Json.asRecord fields {}) text

end Options

end SecretScan
