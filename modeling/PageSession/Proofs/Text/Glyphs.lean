import PageSession.Text.Glyph

/-!
Glyphs of a text written in bytes: they are its characters, and none of its bytes is left over.
-/
namespace PageSession.Text

/-- Behind the bytes in front of the position the bytes of some characters follow. -/
theorem glyphsFrom_utf8Encode (front : ByteArray) (cs : List Char) (done : List Glyph) :
    glyphsFrom (front ++ cs.utf8Encode) front.size done = done.reverse ++ cs.map some := by
  induction cs generalizing front done with
  | nil =>
    rw [glyphsFrom]
    simp
  | cons c cs ih =>
    have split : (c :: cs).utf8Encode = [c].utf8Encode ++ cs.utf8Encode := by
      rw [← List.utf8Encode_append, List.singleton_append]
    have size : ([c].utf8Encode).size = c.utf8Size := by
      simp [List.utf8Encode_singleton]
    have inside : front.size < (front ++ (c :: cs).utf8Encode).size := by
      have := c.utf8Size_pos
      rw [split, ByteArray.size_append, ByteArray.size_append, size]
      omega
    have decoded : (front ++ (c :: cs).utf8Encode).utf8DecodeChar? front.size = some c := by
      rw [ByteArray.utf8DecodeChar?_eq_utf8DecodeChar?_extract,
        ByteArray.extract_append_eq_right rfl ByteArray.size_append,
        List.utf8DecodeChar?_utf8Encode_cons]
    rw [glyphsFrom, dif_pos inside, decoded]
    dsimp only
    rw [split, ← ByteArray.append_assoc, ← size, ← ByteArray.size_append, ih]
    simp

theorem glyphsOfBytes_toUTF8 (text : String) : glyphsOfBytes text.toUTF8 = glyphsOfString text := by
  have front := glyphsFrom_utf8Encode .empty text.toList []
  rw [ByteArray.empty_append, ByteArray.size_empty, String.utf8Encode_toList] at front
  simpa [glyphsOfBytes, glyphsOfString] using front

end PageSession.Text
