import CallPolicy.CallGraph.Basic
import CallPolicy.Documents.Policy

/-! JSON documents of call graphs and outlines. -/

set_option autoImplicit false

namespace CallPolicy

open Json

/-- Lines are numbered with 32 bits. -/
def lineLimit : Nat := 0x100000000

def lineDecoder : Decoder Nat :=
  Decoder.natBelow lineLimit

namespace Language

def toJson (language : Language) : Value :=
  .string language.name

/-- Only the full names stand for languages here. -/
def decoder : Decoder Language :=
  Decoder.choice fun name => [python, rust].find? (·.name == name)

end Language

namespace CallSite

def toJson (site : CallSite) : Value :=
  .object [("name", .string site.name), ("line", .integer site.line)]

def decoder : Decoder CallSite :=
  Decoder.record ["name", "line"] fun fields => do
    return ⟨← fields.required "name" Decoder.text, ← fields.required "line" lineDecoder⟩

end CallSite

namespace ImportSite

def toJson (site : ImportSite) : Value :=
  .object [("module", .string site.moduleName), ("line", .integer site.line)]

def decoder : Decoder ImportSite :=
  Decoder.record ["module", "line"] fun fields => do
    return ⟨← fields.required "module" Decoder.text, ← fields.required "line" lineDecoder⟩

end ImportSite

namespace CallGraph

def toJson (graph : CallGraph) : Value :=
  .object [("calls", .list (graph.calls.map (·.toJson))), ("imports", .list (graph.imports.map (·.toJson)))]

def decoder : Decoder CallGraph :=
  Decoder.record ["calls", "imports"] fun fields => do
    return ⟨← fields.required "calls" (Decoder.list CallSite.decoder),
      ← fields.required "imports" (Decoder.list ImportSite.decoder)⟩

end CallGraph

namespace FunctionOutline

def toJson (function : FunctionOutline) : Value :=
  .object [("name", .string function.name), ("line", .integer function.line), ("graph", function.graph.toJson)]

def decoder : Decoder FunctionOutline :=
  Decoder.record ["name", "line", "graph"] fun fields => do
    return ⟨← fields.required "name" Decoder.text, ← fields.required "line" lineDecoder,
      ← fields.required "graph" CallGraph.decoder⟩

end FunctionOutline

namespace ClassOutline

def toJson (entry : ClassOutline) : Value :=
  .object [("name", .string entry.name), ("line", .integer entry.line), ("markers", .strings entry.markers)]

def decoder : Decoder ClassOutline :=
  Decoder.record ["name", "line", "markers"] fun fields => do
    return ⟨← fields.required "name" Decoder.text, ← fields.required "line" lineDecoder,
      ← fields.required "markers" (Decoder.list Decoder.text)⟩

end ClassOutline

namespace ModuleOutline

def toJson (outline : ModuleOutline) : Value :=
  .object [("functions", .list (outline.functions.map (·.toJson))),
    ("classes", .list (outline.classes.map (·.toJson))),
    ("imports", .list (outline.imports.map (·.toJson)))]

def decoder : Decoder ModuleOutline :=
  Decoder.record ["functions", "classes", "imports"] fun fields => do
    return ⟨← fields.required "functions" (Decoder.list FunctionOutline.decoder),
      ← fields.required "classes" (Decoder.list ClassOutline.decoder),
      ← fields.required "imports" (Decoder.list ImportSite.decoder)⟩

end ModuleOutline

end CallPolicy
