/-
  Texts as bytes. `ofUtf8?` wants every byte to belong to a character; `headUtf8?` reads one
  character, for bytes of which only some do.
-/

namespace FieldGateway.Text

def utf8 (s : String) : List UInt8 := s.toUTF8.data.toList

def ofUtf8? (bytes : List UInt8) : Option String := String.fromUTF8? ⟨bytes.toArray⟩

theorem ofUtf8?_utf8 (s : String) : ofUtf8? (utf8 s) = some s := by
  change String.fromUTF8? s.toUTF8 = some s
  simp only [String.fromUTF8?, String.toUTF8_eq_toByteArray, dif_pos s.isValidUTF8]
  rfl

/-- The character that the bytes begin with. None takes more than four. -/
def headUtf8? (bytes : List UInt8) : Option Char :=
  ByteArray.utf8DecodeChar? ⟨(bytes.take 4).toArray⟩ 0

end FieldGateway.Text
