/-!
# UTF-8

The bytes of a text, and the text that some bytes spell. Reading the bytes of a text gives it back.
-/

namespace SessionCookies.Utf8

/-- The bytes that spell a text. -/
def bytes (s : String) : List UInt8 := s.toUTF8.data.toList

/-- The text that bytes spell; bytes that are not well formed spell none. -/
def text? (bytes : List UInt8) : Option String := String.fromUTF8? ⟨⟨bytes⟩⟩

theorem text?_bytes (s : String) : text? (bytes s) = some s := by
  have h : (⟨⟨s.toUTF8.data.toList⟩⟩ : ByteArray) = s.toByteArray := by
    simp [String.toUTF8]
  simp only [text?, bytes, h, String.fromUTF8?]
  rw [dif_pos]
  · rfl
  · simpa using s.isValidUTF8

end SessionCookies.Utf8
