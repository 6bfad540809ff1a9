import CallPolicy.Json.Decoder
import CallPolicy.Policy.Schema
import CallPolicy.Settings

/-! JSON documents of schemas and settings. -/

set_option autoImplicit false

namespace CallPolicy

open Json

namespace Json.Value

def strings (texts : List String) : Value :=
  .list (texts.map .string)

end Json.Value

namespace Kind

def toJson (kind : Kind) : Value :=
  .string kind.name

def decoder : Decoder Kind :=
  Decoder.choice ofName?

end Kind

namespace Schema

def kindsToJson (kinds : Keyed Kind) : Value :=
  .object (kinds.entries.map fun entry => (entry.1, entry.2.toJson))

def toJson (schema : Schema) : Value :=
  .object [("version", .string schema.version), ("globals", kindsToJson schema.globals),
    ("functions", kindsToJson schema.functions)]

def decoder : Decoder Schema :=
  Decoder.record ["version", "globals", "functions"] fun fields => do
    let version ← fields.required "version" Decoder.text
    let globals ← fields.required "globals" (Decoder.keyed Kind.decoder)
    let functions ← fields.required "functions" (Decoder.keyed Kind.decoder)
    return ⟨version, globals, functions⟩

def ofText (text : String) : Except SchemaError Schema :=
  match decoder.ofText text with
  | some schema => .ok schema
  | none => .error .unreadable

end Schema

namespace Settings

def toJson (settings : Settings) : Value :=
  .object [("version", .string settings.version), ("schema", .string settings.schema),
    ("marker", .string settings.marker), ("languages", .strings settings.languages),
    ("ignore_patterns", .strings settings.ignorePatterns)]

def decoder : Decoder Settings :=
  Decoder.record ["version", "schema", "marker", "languages", "ignore_patterns"] fun fields => do
    let version ← fields.withDefault "version" standard.version Decoder.text
    let schema ← fields.withDefault "schema" standard.schema Decoder.text
    let marker ← fields.withDefault "marker" standard.marker Decoder.text
    let languages ← fields.withDefault "languages" standard.languages (Decoder.list Decoder.text)
    let ignorePatterns ←
      fields.withDefault "ignore_patterns" standard.ignorePatterns (Decoder.list Decoder.text)
    return ⟨version, schema, marker, languages, ignorePatterns⟩

/-- The settings of a file's contents; the standard ones when it cannot be read. -/
def ofContents (contents : Option String) : Settings :=
  (contents.bind decoder.ofText).getD standard

end Settings

end CallPolicy
