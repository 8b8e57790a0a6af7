import Thesaurus.Unicode.Printable

/-!
Debug quoting: a string in double quotes in which the quote, the backslash, the null, tab,
carriage return and line feed are escaped by a backslash, and every character that extends a
grapheme or prints nothing visible is written as `\u` followed by its code point in hexadecimal
between braces.
-/

namespace Thesaurus.Text

open Thesaurus.Unicode

/-- The debug form of one character inside a quoted string. -/
def debugChar (c : Char) : String :=
  match c with
  | '\x00' => "\\0"
  | '\t' => "\\t"
  | '\r' => "\\r"
  | '\n' => "\\n"
  | '\\' => "\\\\"
  | '"' => "\\\""
  | c =>
    if isGraphemeExtend c || isUnprintable c then
      "\\u\x7b" ++ String.ofList (Nat.toDigits 16 c.toNat) ++ "\x7d"
    else String.singleton c

/-- The debug form of a string, in double quotes. -/
def debugQuote (s : String) : String :=
  "\"" ++ String.join (s.toList.map debugChar) ++ "\""

end Thesaurus.Text
