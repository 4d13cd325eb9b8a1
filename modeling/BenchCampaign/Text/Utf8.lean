/-!
# Text as bytes

Outputs are streams of bytes; text is written to them in UTF-8, and not every
stream of bytes is text.

* `Text.utf8`: the bytes of a text.
* `Text.ofUtf8?`: the text of some bytes.
-/

namespace BenchCampaign

namespace Text

/-- The bytes of a text. -/
def utf8 (text : List Char) : List UInt8 := text.flatMap String.utf8EncodeChar

/-- The text of some bytes, if they are one. -/
def ofUtf8? (bytes : List UInt8) : Option (List Char) :=
  bytes.toByteArray.utf8Decode?.map Array.toList

end Text

end BenchCampaign
