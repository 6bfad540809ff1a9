import CallPolicy.CallGraph.Extraction
import CallPolicy.Digest
import CallPolicy.Keyed

/-! Call graphs of functions, remembered under the digest of their source.

Edited source has another digest, so a graph is never served for source that has changed.
-/

set_option autoImplicit false

namespace CallPolicy

structure Cache where
  graphs : Keyed CallGraph
  deriving DecidableEq, Inhabited

namespace Cache

def empty : Cache := ⟨.empty⟩

def size (cache : Cache) : Nat :=
  cache.graphs.entries.length

def key (unit : SourceUnit) (function : String) : String :=
  Digest.ofSource unit.language.name function unit.text

def contains (cache : Cache) (unit : SourceUnit) (function : String) : Bool :=
  cache.graphs.contains (key unit function)

/-- The graph of a function, and the cache with it. A failure leaves the cache as it was. -/
def functionGraph (cache : Cache) (unit : SourceUnit) (function : String) :
    Except ExtractionError CallGraph × Cache :=
  match cache.graphs.get? (key unit function) with
  | some graph => (.ok graph, cache)
  | none =>
    match extractFunction unit function with
    | .ok graph => (.ok graph, ⟨cache.graphs.insert (key unit function) graph⟩)
    | .error error => (.error error, cache)

end Cache

end CallPolicy
