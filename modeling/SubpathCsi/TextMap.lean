import SubpathCsi.Failure
import SubpathCsi.Json.Display
import SubpathCsi.Json.Reader
import SubpathCsi.Json.Shape
import SubpathCsi.Yaml.Display

/-!
# Maps of texts

A map of texts is written in YAML or, where that fails, in JSON. Keys and values of other types
are shown as texts; nothing as a value is the empty text. A text that holds nothing is the empty
map.
-/

namespace SubpathCsi

namespace TextMap

/-- The map of a value read as YAML. -/
def ofYaml : Yaml.Value → Except Failure (Keyed String)
  | .null => .ok []
  | .dict members =>
    if Yaml.Value.pairsAreWritable members then
      .ok <| Keyed.ofPairs <| members.map fun (k, v) =>
        (k.display, match v with
          | .null => ""
          | v => v.display)
    else .error (.defect (.badValue Integer.unwritableMessage))
  | v => badArgument (.notAMapping v.typeName)

/-- The map of a value read as JSON. -/
def ofJson : Json → Except Failure (Keyed String)
  | .null => .ok []
  | .obj members => .ok <| members.map fun (k, v) =>
      (k, match v with
        | .null => ""
        | v => v.display)
  | v => badArgument (.notAMapping v.typeName)

/-- The map that a text holds. -/
def parse (source : String) : Except Failure (Keyed String) :=
  match Yaml.Value.ofText source.toList with
  | .ok v => ofYaml v
  | .error (.defect reason) => .error (.defect reason)
  | .error .malformed =>
    match Json.parse source with
    | .ok v => ofJson v
    | .error reason => badArgument (.unreadableMap reason)

end TextMap

end SubpathCsi
