/-!
JSON values and their text. Objects keep their members in the order given. `Json.compact`
writes a value on one line with no blanks; `Json.pretty` puts each member and element on a
line of its own, indented by two spaces per level. Strings escape the quote, the backslash
and the control characters only.
-/

namespace Thesaurus

/-- A JSON value. A number is an integer or a decimal already written out. -/
inductive Json where
  | null
  | bool (b : Bool)
  | int (i : Int)
  | decimal (text : String)
  | str (s : String)
  | arr (items : List Json)
  | obj (members : List (String × Json))
deriving Inhabited, Repr

namespace Json

/-- A natural number. -/
def nat (n : Nat) : Json := .int n

/-- An optional value, `null` when absent. -/
def opt {α : Type} (f : α → Json) : Option α → Json
  | some a => f a
  | none => .null

/-- A list of strings. -/
def strs (xs : List String) : Json := .arr (xs.map .str)

/-- The four hexadecimal digits of a code point below `0x10000`, in lower case. -/
def hex4 (n : Nat) : String :=
  let digit (d : Nat) : Char := if d < 10 then Char.ofNat (48 + d) else Char.ofNat (87 + d)
  String.ofList [digit (n / 4096 % 16), digit (n / 256 % 16), digit (n / 16 % 16), digit (n % 16)]

/-- The escaped form of one character inside a string. -/
def escapeChar (c : Char) : String :=
  match c with
  | '"' => "\\\""
  | '\\' => "\\\\"
  | '\n' => "\\n"
  | '\r' => "\\r"
  | '\t' => "\\t"
  | '\x08' => "\\b"
  | '\x0c' => "\\f"
  | c => if c.toNat < 0x20 then "\\u" ++ hex4 c.toNat else String.singleton c

/-- A string in quotes, escaped. -/
def quote (s : String) : String :=
  "\"" ++ String.join (s.toList.map escapeChar) ++ "\""

/-- The text of an integer. -/
def intText (i : Int) : String :=
  if i < 0 then "-" ++ String.ofList (Nat.toDigits 10 i.natAbs) else String.ofList (Nat.toDigits 10 i.toNat)

mutual
/-- The one-line text of a value. -/
def compact : Json → String
  | .null => "null"
  | .bool b => if b then "true" else "false"
  | .int i => intText i
  | .decimal t => t
  | .str s => quote s
  | .arr xs => "[" ++ compactItems xs ++ "]"
  | .obj ms => "\x7b" ++ compactMembers ms ++ "\x7d"

/-- The one-line text of the elements of an array, separated by commas. -/
def compactItems : List Json → String
  | [] => ""
  | [x] => compact x
  | x :: xs => compact x ++ "," ++ compactItems xs

/-- The one-line text of the members of an object, separated by commas. -/
def compactMembers : List (String × Json) → String
  | [] => ""
  | [(k, v)] => quote k ++ ":" ++ compact v
  | (k, v) :: ms => quote k ++ ":" ++ compact v ++ "," ++ compactMembers ms
end

/-- The indentation of a nesting level. -/
def indent (level : Nat) : String :=
  String.ofList (List.replicate (2 * level) ' ')

mutual
/-- The indented text of a value at a nesting level. -/
def prettyAt (level : Nat) : Json → String
  | .arr [] => "[]"
  | .obj [] => "\x7b\x7d"
  | .arr xs => "[\n" ++ prettyItems (level + 1) xs ++ "\n" ++ indent level ++ "]"
  | .obj ms => "\x7b\n" ++ prettyMembers (level + 1) ms ++ "\n" ++ indent level ++ "\x7d"
  | v => compact v

/-- The indented elements of an array, one per line. -/
def prettyItems (level : Nat) : List Json → String
  | [] => ""
  | [x] => indent level ++ prettyAt level x
  | x :: xs => indent level ++ prettyAt level x ++ ",\n" ++ prettyItems level xs

/-- The indented members of an object, one per line. -/
def prettyMembers (level : Nat) : List (String × Json) → String
  | [] => ""
  | [(k, v)] => indent level ++ quote k ++ ": " ++ prettyAt level v
  | (k, v) :: ms => indent level ++ quote k ++ ": " ++ prettyAt level v ++ ",\n" ++ prettyMembers level ms
end

/-- The indented text of a value. -/
def pretty (v : Json) : String :=
  prettyAt 0 v

end Json

end Thesaurus
