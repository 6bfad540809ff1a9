import CallPolicy.Digest.Base62
import CallPolicy.Digest.XxHash64
import CallPolicy.Text.Utf8

/-! Digests that identify a function's source of record. -/

set_option autoImplicit false

namespace CallPolicy.Digest

/-- What is hashed: language, function and source, with a zero byte after each of the first
two. -/
def message (language function source : String) : List UInt8 :=
  Text.utf8 language ++ 0 :: Text.utf8 function ++ 0 :: Text.utf8 source

/-- Other source, or another function or language, has another digest, collisions of the
hash apart. -/
def ofSource (language function source : String) : String :=
  Base62.encode (XxHash64.hash (message language function source))

end CallPolicy.Digest
