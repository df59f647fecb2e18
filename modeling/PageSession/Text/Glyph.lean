/-!
Texts as they arrive: characters, and bytes that belong to no character. A reader of glyphs can
pass over such bytes where the content of a text does not matter and refuse them elsewhere.
-/
namespace PageSession.Text

/-- A character, or `none` for a byte that is part of no character in UTF-8. -/
abbrev Glyph := Option Char

def glyphsOfString (text : String) : List Glyph := text.toList.map some

/-- The glyphs of a byte text from a position on, behind the ones already read. -/
def glyphsFrom (bytes : ByteArray) (position : Nat) (done : List Glyph) : List Glyph :=
  if _inside : position < bytes.size then
    match bytes.utf8DecodeChar? position with
    | some c => glyphsFrom bytes (position + c.utf8Size) (some c :: done)
    | none => glyphsFrom bytes (position + 1) (none :: done)
  else done.reverse
termination_by bytes.size - position
decreasing_by
  · have := c.utf8Size_pos; omega
  · omega

def glyphsOfBytes (bytes : ByteArray) : List Glyph := glyphsFrom bytes 0 []

end PageSession.Text
