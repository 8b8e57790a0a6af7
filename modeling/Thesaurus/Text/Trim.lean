import Thesaurus.Unicode.Blank

/-!
Trimming: the text without the white space that begins and ends it.
-/

namespace Thesaurus.Text

open Thesaurus.Unicode

/-- The characters of a text without the white space around them. -/
def trimList (cs : List Char) : List Char :=
  ((cs.dropWhile isBlank).reverse.dropWhile isBlank).reverse

/-- A string without the white space around it. -/
def trim (s : String) : String :=
  String.ofList (trimList s.toList)

end Thesaurus.Text
