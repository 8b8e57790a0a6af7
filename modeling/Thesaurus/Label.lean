import Thesaurus.Text.Segment
import Thesaurus.Text.Lower
import Thesaurus.Unicode.Alphanumeric

/-!
The normal form of a label. A label is cut into word segments; the segments that hold a letter
or a number are its words; the normal form is the words, each lowercased, joined by single
spaces. Labels and query texts pass through the same normal form, so a lookup compares words
and ignores case, punctuation and spacing.
-/

namespace Thesaurus.Label

open Thesaurus.Unicode Thesaurus.Text

/-- Whether a segment is a word: it holds a letter or a number. -/
def isWord (segment : List Char) : Bool :=
  segment.any isAlphanumeric

/-- The words of a text, in order. -/
def words (s : String) : List (List Char) :=
  (segments s.toList).filter isWord

/-- The normal form of a text: its words lowercased and joined by single spaces. -/
def normalize (s : String) : String :=
  " ".intercalate ((words s).map (fun w => String.ofList (lower w)))

/-- The number of words of a text. -/
def wordCount (s : String) : Nat :=
  (words s).length

end Thesaurus.Label
