/-! # Octets

Texts as they lie in files and in the environment.

* **Encoding.** A text is stored in UTF-8. Octets that are no UTF-8 text have no text
  (`textOf?`); what a text is stored as has that text (`textOf?_octetsOf`). -/

namespace TransactionGateway.Text

/-- Stored octets. -/
abbrev Octets := List UInt8

/-- The octets of a text. -/
def octetsOf (s : List Char) : Octets := s.flatMap String.utf8EncodeChar

/-- The text that octets store, if they store one. -/
def textOf? (o : Octets) : Option String := String.fromUTF8? ⟨o.toArray⟩

theorem textOf?_octetsOf (s : List Char) : textOf? (octetsOf s) = some (String.ofList s) := by
  have h : (⟨(octetsOf s).toArray⟩ : ByteArray) = (String.ofList s).toByteArray := by
    rw [String.toByteArray_ofList]
    apply ByteArray.ext
    simp [List.utf8Encode, octetsOf]
  rw [textOf?, h, String.fromUTF8?, dif_pos (String.ofList s).isValidUTF8]
  rfl

end TransactionGateway.Text
