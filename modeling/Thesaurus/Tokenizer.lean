import Thesaurus.Token
import Thesaurus.Label
import Thesaurus.Unicode.Blank

/-!
Tokenizers: the words of a text (word segments holding a letter or a number), the runs of
characters between white space, or the whole text as one token. Each token records its byte
offsets in the text and a type read off its characters.
-/

namespace Thesaurus

open Thesaurus.Unicode

/-- A tokenizer. -/
inductive Tokenizer where
  | unicodeWord
  | whitespace
  | whole
deriving DecidableEq, Repr, Inhabited

namespace Tokenizer

/-- The name of a tokenizer. -/
def name : Tokenizer → String
  | .unicodeWord => "unicode_word"
  | .whitespace => "whitespace"
  | .whole => "whole"

/-- The tokenizer of a name. -/
def ofName? (s : String) : Option Tokenizer :=
  [Tokenizer.unicodeWord, .whitespace, .whole].find? (·.name == s)

/-- Whether a character belongs to the Han, kana or Hangul blocks that make a word CJK. -/
def isCjkChar (c : Char) : Bool :=
  let n := c.toNat
  (0x4E00 ≤ n && n ≤ 0x9FFF) || (0x3400 ≤ n && n ≤ 0x4DBF) ||
    (0x3040 ≤ n && n ≤ 0x30FF) || (0xAC00 ≤ n && n ≤ 0xD7AF)

/-- The type of a word: a number if every character is numeric, CJK if one character is, ASCII
letters and digits (and the low line) as `alphanum`, else `other`. -/
def wordType (w : List Char) : TokenType :=
  if w.all isNumeric then .num
  else if w.any isCjkChar then .cjk
  else if w.all (fun c => c.isAlphanum || c = '_') then .alphanum
  else .other

/-- Whether a character is ASCII punctuation. -/
def isAsciiPunctuation (c : Char) : Bool :=
  let n := c.toNat
  (0x21 ≤ n && n ≤ 0x2F) || (0x3A ≤ n && n ≤ 0x40) || (0x5B ≤ n && n ≤ 0x60) ||
    (0x7B ≤ n && n ≤ 0x7E)

/-- The type of a run between white space: digits only, a URL (a colon not at the end), ASCII
punctuation only, ASCII letters and digits only, or other. -/
def runType (w : List Char) : TokenType :=
  if w.all Char.isDigit then .num
  else if w.contains ':' && w.getLast? != some ':' then .url
  else if w.all isAsciiPunctuation then .punctuation
  else if w.all Char.isAlphanum then .alphanum
  else .other

/-- The segments of a text with the byte offset where each starts. -/
def placed (start : Nat) : List (List Char) → List (Nat × List Char)
  | [] => []
  | s :: rest => (start, s) :: placed (start + String.utf8ByteSize (String.ofList s)) rest

/-- The runs of characters that are not white space, with their start offsets; `start` is the
offset of the first character, `cur` the unfinished run (reversed) and its start. -/
def runs : Nat → Option (Nat × List Char) → List Char → List (Nat × List Char)
  | _, none, [] => []
  | _, some (b, cur), [] => [(b, cur.reverse)]
  | pos, cur, c :: rest =>
    let next := pos + c.utf8Size
    if isBlank c then
      match cur with
      | some (b, w) => (b, w.reverse) :: runs next none rest
      | none => runs next none rest
    else
      match cur with
      | some (b, w) => runs next (some (b, c :: w)) rest
      | none => runs next (some (pos, [c])) rest

/-- Tokens of placed words, numbered from zero, typed by `ty`. -/
def number (ty : List Char → TokenType) (ws : List (Nat × List Char)) : List Token :=
  ws.zipIdx.map fun ((start, w), i) =>
    let text := String.ofList w
    (Token.withOffsets text i start (start + text.utf8ByteSize)).withType (ty w)

/-- The tokens of a text. -/
def tokenize (t : Tokenizer) (text : String) : List Token :=
  match t with
  | .unicodeWord =>
    number wordType ((placed 0 (Text.segments text.toList)).filter (fun p => Label.isWord p.2))
  | .whitespace => number runType (runs 0 none text.toList)
  | .whole => if text.isEmpty then [] else [Token.withOffsets text 0 0 text.utf8ByteSize]

end Tokenizer

end Thesaurus
