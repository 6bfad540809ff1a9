/-! The bytes of a text. -/

set_option autoImplicit false

namespace CallPolicy.Text

def utf8 (text : String) : List UInt8 :=
  text.toList.flatMap String.utf8EncodeChar

end CallPolicy.Text
