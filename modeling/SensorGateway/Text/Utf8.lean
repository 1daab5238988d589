/-!
Text and its bytes.
-/

set_option autoImplicit false

namespace SensorGateway.Text

/-- The bytes of a text in UTF-8. -/
def utf8 (s : String) : List UInt8 := s.toUTF8.toList

/-- **The text of bytes in UTF-8,** where they are well formed. -/
def ofUtf8? (bytes : List UInt8) : Option String := String.fromUTF8? ⟨bytes.toArray⟩

end SensorGateway.Text
