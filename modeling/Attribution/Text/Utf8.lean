/-! Bytes as text. -/

namespace Attribution

/-- A sequence of bytes. -/
abbrev Bytes := List UInt8

namespace Text

/-- The text that bytes encode, if they are well-formed UTF-8. -/
def ofUtf8? (bytes : Bytes) : Option String :=
  String.fromUTF8? ⟨bytes.toArray⟩

/-- The bytes of a text. -/
def utf8 (text : String) : Bytes :=
  text.toUTF8.data.toList

end Text

end Attribution
