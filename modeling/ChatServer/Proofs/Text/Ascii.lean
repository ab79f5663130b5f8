import ChatServer.Token.Broker

/-! Texts of ASCII bytes. Each of their characters takes one byte, so the bytes of such a text are
the bytes that it was made of.
-/

namespace ChatServer.Text

theorem utf8EncodeChar_of_ascii {b : UInt8} (ascii : b < 0x80)
    : String.utf8EncodeChar (Char.ofNat b.toNat) = [b] := by
  have all : ∀ n : Fin 128, String.utf8EncodeChar (Char.ofNat n) = [UInt8.ofNat n] := by
    decide +kernel
  have small : b.toNat < 128 := by simpa [UInt8.lt_iff_toNat_lt] using ascii
  simpa using all ⟨b.toNat, small⟩

/-- The bytes of the text of ASCII bytes are those bytes. -/
theorem utf8_asciiText {bytes : List UInt8} (ascii : ∀ b ∈ bytes, b < 0x80)
    : utf8 (Token.Broker.asciiText bytes) = bytes := by
  simp only [utf8, Token.Broker.asciiText, String.toUTF8, String.toByteArray_ofList,
    List.utf8Encode, List.toList_data_toByteArray, List.flatMap_map]
  induction bytes with
  | nil => rfl
  | cons b bytes ih =>
      obtain ⟨first, rest⟩ := List.forall_mem_cons.mp ascii
      rw [List.flatMap_cons, utf8EncodeChar_of_ascii first, ih rest]
      rfl

end ChatServer.Text
