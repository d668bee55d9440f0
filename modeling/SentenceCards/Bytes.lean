/-!
# Bytes
-/

namespace SentenceCards

abbrev Bytes := List UInt8

namespace Bytes

/-- The UTF-8 bytes of a text. -/
def ofText (text : String) : Bytes := text.toUTF8.data.toList

/-- The text whose UTF-8 bytes these are. -/
def text? (bytes : Bytes) : Option String := String.fromUTF8? bytes.toByteArray

end Bytes

end SentenceCards
