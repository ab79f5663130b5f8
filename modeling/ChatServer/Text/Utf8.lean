/-!
The bytes of a text in UTF-8, and back. Bytes are a text in exactly one case: when they are the
bytes of one.
-/

namespace ChatServer.Text

def utf8 (s : String) : List UInt8 :=
  s.toUTF8.data.toList

/-- The text that the bytes are, if they are one. -/
def ofUtf8? (bytes : List UInt8) : Option String :=
  String.fromUTF8? ⟨bytes.toArray⟩

/-- The bytes of a text are that text. -/
@[simp] theorem ofUtf8?_utf8 (s : String) : ofUtf8? (utf8 s) = some s := by
  simp only [ofUtf8?, utf8, String.fromUTF8?, Array.toArray_toList]
  exact dif_pos s.isValidUTF8

/-- Bytes that are a text are the bytes of it. -/
theorem utf8_of_ofUtf8? {bytes : List UInt8} {s : String} (h : ofUtf8? bytes = some s)
    : utf8 s = bytes := by
  simp only [ofUtf8?, String.fromUTF8?] at h
  split at h
  next valid =>
    obtain rfl := Option.some.inj h
    simp [utf8, String.fromUTF8, String.toUTF8]
  next => simp at h

/-- Two texts with the same bytes are one. -/
theorem utf8_injective {first second : String} (h : utf8 first = utf8 second)
    : first = second := by
  simpa using congrArg ofUtf8? h

/-- The size of a text is the number of its bytes. -/
theorem length_utf8 (s : String) : (utf8 s).length = s.utf8ByteSize :=
  rfl

end ChatServer.Text
