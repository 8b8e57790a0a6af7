import Thesaurus.Unicode.Casing

/-!
Lowercase text by the full Unicode mapping. Each character takes its own lowercase form, except
the capital sigma, whose form depends on its place in a word: at the end of a word, that is
after a cased letter and not before one (case-ignorable characters skipped on both sides), it
becomes the final sigma `ς`, elsewhere `σ`.
-/

namespace Thesaurus.Text

open Thesaurus.Unicode

/-- Whether the first character of `cs` that is not case-ignorable is cased. -/
def casedNext (cs : List Char) : Bool :=
  match cs.dropWhile isCaseIgnorable with
  | c :: _ => isCased c
  | [] => false

/-- The lowercase form of a capital sigma with the text `before` it (nearest first) and the
text `after` it. -/
def sigmaBetween (before after : List Char) : Char :=
  if casedNext before && !casedNext after then 'ς' else 'σ'

/-- Lowercases `rest`, where `before` is the text ahead of it, nearest first. -/
def lowerFrom : List Char → List Char → List Char
  | _, [] => []
  | before, c :: rest =>
    (if c = 'Σ' then [sigmaBetween before rest] else lowerOf c) ++ lowerFrom (c :: before) rest

/-- The lowercase form of a text. -/
def lower (cs : List Char) : List Char :=
  lowerFrom [] cs

/-- The lowercase form of a string. -/
def lowerString (s : String) : String :=
  String.ofList (lower s.toList)

end Thesaurus.Text
