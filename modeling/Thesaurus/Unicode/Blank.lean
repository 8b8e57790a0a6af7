import Thesaurus.Unicode.Span

/-!
The White_Space property of Unicode 15.0: the 25 characters that separate words on a line
or end a line.
-/

namespace Thesaurus.Unicode

private def blankPart0 : List Span := [
  ⟨0x9, 0xD⟩,
  ⟨0x20, 0x20⟩,
  ⟨0x85, 0x85⟩,
  ⟨0xA0, 0xA0⟩,
  ⟨0x1680, 0x1680⟩,
  ⟨0x2000, 0x200A⟩,
  ⟨0x2028, 0x2029⟩,
  ⟨0x202F, 0x202F⟩,
  ⟨0x205F, 0x205F⟩,
  ⟨0x3000, 0x3000⟩]

/-- Ranges of the White_Space code points. -/
def blankTable : Array Span :=
  (blankPart0).toArray

/-- Whether a character is white space. -/
def isBlank (c : Char) : Bool :=
  Span.within blankTable c.toNat

end Thesaurus.Unicode
