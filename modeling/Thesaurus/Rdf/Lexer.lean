import Thesaurus.Rdf.Iri
import Thesaurus.Rdf.Language
import Thesaurus.Rdf.Term
import Thesaurus.Text.Quote

/-!
The lexer shared by N-Triples, Turtle and Notation3. It reads one token at a time from a
text held as an array of characters, skipping blanks, line breaks and `#` comments before
it. Tokens are IRI references (checked, and resolved against the base in effect), prefixed
names, blank node labels, strings with their escapes decoded, numbers, language tags,
punctuation and bare words.

A token that the text ends inside of is an error, "Unexpected end of file", spanning from
the token's start to the end. Some tokens need a character after them to be recognized —
a blank node label, a language tag, a one-character `>` or `^` — so at the very end of a
text they are such errors too; a number is ended by the end of the text. A malformed token
is an error spanning the part of it at fault. In N-Triples, where a statement takes one line,
line breaks are tokens too.
-/

namespace Thesaurus.Rdf

/-- The syntaxes the lexer serves. N-Triples has no long or single-quoted strings;
Notation3 has the arrows `<=` and `<-`. -/
inductive Dialect where
  | nTriples
  | turtle
  | n3
deriving DecidableEq, Repr

/-- A token. -/
inductive Tok where
  | iri (value : String)
  | pname (space name : String) (suspect : Bool)
  | var (name : String)
  | blank (label : String)
  | str (value : String)
  | integer (text : String)
  | decimal (text : String)
  | double (text : String)
  | langTag (tag : String)
  | punct (p : String)
  | word (w : String)
  | lineJump
deriving DecidableEq, Repr, Inhabited

/-- The debug form of a token, as messages that name an unexpected token show it. -/
def Tok.debug : Tok → String
  | .iri v => "IriRef(" ++ Text.debugQuote v ++ ")"
  | .pname space name suspect =>
    "PrefixedName \x7b prefix: " ++ Text.debugQuote space ++ ", local: " ++ Text.debugQuote name ++
      ", might_be_invalid_iri: " ++ toString suspect ++ " \x7d"
  | .var n => "Variable(" ++ Text.debugQuote n ++ ")"
  | .blank l => "BlankNodeLabel(" ++ Text.debugQuote l ++ ")"
  | .str v => "String(" ++ Text.debugQuote v ++ ")"
  | .integer t => "Integer(" ++ Text.debugQuote t ++ ")"
  | .decimal t => "Decimal(" ++ Text.debugQuote t ++ ")"
  | .double t => "Double(" ++ Text.debugQuote t ++ ")"
  | .langTag t => "LangTag(" ++ Text.debugQuote t ++ ")"
  | .punct p => "Punctuation(" ++ Text.debugQuote p ++ ")"
  | .word w => "PlainKeyword(" ++ Text.debugQuote w ++ ")"
  | .lineJump => "LineJump"

/-- What scanning a token gives. Lengths and spans count characters from the token's start. -/
inductive Scan where
  | short
  | token (used : Nat) (t : Tok)
  | fault (used lo hi : Nat) (message : String)
  | faultBytes (used lo hi extra : Nat) (message : String)
deriving Repr, Inhabited

namespace Scanner

/-- Letters that may start a prefix or a name (`PN_CHARS_BASE`). -/
def isBaseChar (c : Char) : Bool :=
  let n := c.toNat
  c.isAlpha || (0xC0 ≤ n && n ≤ 0xD6) || (0xD8 ≤ n && n ≤ 0xF6) || (0xF8 ≤ n && n ≤ 0x2FF) ||
    (0x370 ≤ n && n ≤ 0x37D) || (0x37F ≤ n && n ≤ 0x1FFF) || (0x200C ≤ n && n ≤ 0x200D) ||
    (0x2070 ≤ n && n ≤ 0x218F) || (0x2C00 ≤ n && n ≤ 0x2FEF) || (0x3001 ≤ n && n ≤ 0xD7FF) ||
    (0xF900 ≤ n && n ≤ 0xFDCF) || (0xFDF0 ≤ n && n ≤ 0xFFFD) || (0x10000 ≤ n && n ≤ 0xEFFFF)

/-- `PN_CHARS_U`: the base characters and the underscore. -/
def isStartChar (c : Char) : Bool := isBaseChar c || c == '_'

/-- `PN_CHARS`: the characters that may continue a name. -/
def isNameChar (c : Char) : Bool :=
  let n := c.toNat
  isStartChar c || c == '-' || c.isDigit || n == 0xB7 || (0x300 ≤ n && n ≤ 0x36F) ||
    (0x203F ≤ n && n ≤ 0x2040)

/-- Name characters that an IRI does not allow, so that a name holding one is checked. -/
def isOddChar (c : Char) : Bool :=
  let n := c.toNat
  (0xFFF0 ≤ n && n ≤ 0xFFFD) || n % 0xFFFE == 0 || n % 0xFFFF == 0

/-- The characters from index `a` up to index `b`. -/
def slice (d : Array Char) (a b : Nat) : List Char := (d.extract a b).toList

/-- The value of a hexadecimal digit. -/
def hexDigit (c : Char) : Nat :=
  if c.isDigit then c.toNat - 48 else if 'a' ≤ c && c ≤ 'f' then c.toNat - 87 else c.toNat - 55

/-- The bytes of a character, each read as the character of that value. -/
def latinBytes (c : Char) : List Char := (String.utf8EncodeChar c).map fun b => Char.ofNat b.toNat

/-- The characters from index `i` whose bytes first reach `n` bytes, and whether they make
exactly `n`; none when the text ends before `n` bytes. -/
def byteWindow (d : Array Char) (i n : Nat) : Option (List Char × Bool) :=
  let rec go : Nat → Nat → List Char → Option (List Char × Bool)
    | 0, _, acc => some (acc.reverse, true)
    | fuel + 1, j, acc =>
      let got := (acc.map Char.utf8Size).sum
      if n ≤ got then some (acc.reverse, n == got)
      else
        match d[j]? with
        | none => none
        | some c => go fuel (j + 1) (c :: acc)
  go (n + 1) i []

/-- The uppercase hexadecimal digits of a number. -/
def upperHex (n : Nat) : String :=
  String.ofList ((Nat.toDigits 16 n).map Char.toUpper)

/-- What reading an escape gives. -/
inductive Escape where
  | short
  | char (used : Nat) (c : Char)
  | fault (used lo hi extra : Nat) (message : String)

/-- Reads a `\uXXXX` or `\UXXXXXXXX` escape of `n` digits at index `p`. The digits are the `n`
bytes after the letter; the first that is not a hexadecimal digit is at fault, and the
message shows the `n` bytes when they are whole characters. -/
def hexEscape (d : Array Char) (p n : Nat) (e : Char) : Escape :=
  match byteWindow d (p + 2) n with
  | none => .short
  | some (digits, whole) =>
    let shown := "The escape sequence '\\" ++ e.toString ++ (if whole then String.ofList digits else "") ++ "'"
    match digits.findIdx? (!Iri.isHex ·) with
    | some k => .fault (digits.length + 2) (k + 2) (k + 2) 1 (shown ++ " is not a valid hexadecimal string")
    | none =>
      let v := digits.foldl (fun v c => 16 * v + hexDigit c) 0
      if v < 0xD800 || (0xDFFF < v && v < 0x110000) then .char (n + 2) (Char.ofNat v)
      else .fault (n + 2) 0 (n + 2) 0 (shown ++ " is encoding " ++ upperHex v ++ " that is not a valid unicode character")

/-- Reads the escape whose backslash is at index `p`. Strings also allow the escapes of
single characters (`echar`); IRI references allow only code points. -/
def escape (d : Array Char) (p : Nat) (echar : Bool) : Escape :=
  match d[p + 1]? with
  | none => .short
  | some 'u' => hexEscape d p 4 'u'
  | some 'U' => hexEscape d p 8 'U'
  | some c =>
    let simple : Option Char := match c with
      | 't' => some '\t'
      | 'b' => some '\x08'
      | 'n' => some '\n'
      | 'r' => some '\r'
      | 'f' => some '\x0c'
      | '"' => some '"'
      | '\'' => some '\''
      | '\\' => some '\\'
      | _ => none
    let bad : Escape :=
      .fault 2 0 (if c.toNat < 128 then 2 else 1) (if c.toNat < 128 then 0 else 1)
        ("Unexpected escape character '\\" ++ String.ofList ((latinBytes c).take 1) ++ "'")
    match simple with
    | some r => if echar then .char 2 r else bad
    | none => bad

/-- The index of the first `q` at or after index `i`. -/
def findFrom (d : Array Char) (q : Char) (i : Nat) : Option Nat :=
  ((d.extract i d.size).toList.findIdx? (· == q)).map (i + ·)

/-- Reads an IRI reference from index `s` (at its `<`) up to `>`: the characters between,
escapes decoded. -/
def iriRef (d : Array Char) (s : Nat) : Nat → Nat → List Char → Scan
  | 0, _, _ => .short
  | fuel + 1, i, acc =>
    match d[s + i]? with
    | none => .short
    | some '>' => .token (i + 1) (.iri (String.ofList acc.reverse))
    | some '\\' =>
      match escape d (s + i) false with
      | .short => .short
      | .char u c => iriRef d s fuel (i + u) (c :: acc)
      | .fault u lo hi x m => .faultBytes (i + u) (i + lo) (i + hi) x m
    | some c => iriRef d s fuel (i + 1) (c :: acc)

/-- Checks the text of an IRI reference token: resolved against the base when there is
one, otherwise it must be absolute. -/
def checkIri (base : Option String) (text : String) : Except IriError String :=
  match base with
  | some b => Iri.resolve b text
  | none => Iri.parse text

/-- Scans an IRI reference at index `s` and checks it. -/
def iri (d : Array Char) (s : Nat) (base : Option String) : Scan :=
  match iriRef d s d.size 1 [] with
  | .token used (.iri text) =>
    match checkIri base text with
    | .ok v => .token used (.iri v)
    | .error e => .fault used 0 used e.text
  | other => other

/-- The fault of a line break in a one-line string. -/
def lineJumpInString : String := "Line jumps are not allowed in string literals, use \\n"

/-- Reads a one-line string from index `s`, delimited by `q`. A line break is a fault, found
when the run of plain characters holding it ends at an escape or at the closing delimiter;
`jump` is the first line break of the current run. After a bad escape the string is skipped
up to its closing delimiter. -/
def shortString (d : Array Char) (s : Nat) (q : Char) : Nat → Nat → List Char → Option Nat → Scan
  | 0, _, _, _ => .short
  | fuel + 1, i, acc, jump =>
    match d[s + i]? with
    | none => .short
    | some c =>
      if c == q || c == '\\' then
        match jump with
        | some j => .fault (i + 1) j (j + 1) lineJumpInString
        | none =>
          if c == q then .token (i + 1) (.str (String.ofList acc.reverse))
          else
            match escape d (s + i) true with
            | .short => .short
            | .char u ch => shortString d s q fuel (i + u) (ch :: acc) none
            | .fault u lo hi x m =>
              match findFrom d q (s + i + u) with
              | none => .short
              | some j => .faultBytes (j - s + 1) (i + lo) (i + hi) x m
      else
        let jump := if jump.isNone && (c == '\n' || c == '\r') then some i else jump
        shortString d s q fuel (i + 1) (c :: acc) jump

/-- Reads a long string from index `s`, delimited by three `q`s. -/
def longString (d : Array Char) (s : Nat) (q : Char) : Nat → Nat → List Char → Scan
  | 0, _, _ => .short
  | fuel + 1, i, acc =>
    match d[s + i]? with
    | none => .short
    | some c =>
      if c == q then
        match d[s + i + 1]? with
        | none => .short
        | some c1 =>
          if c1 == q then
            match d[s + i + 2]? with
            | none => .short
            | some c2 =>
              if c2 == q then .token (i + 3) (.str (String.ofList acc.reverse))
              else longString d s q fuel (i + 1) (q :: acc)
          else longString d s q fuel (i + 1) (q :: acc)
      else if c == '\\' then
        match escape d (s + i) true with
        | .short => .short
        | .char u ch => longString d s q fuel (i + u) (ch :: acc)
        | .fault u lo hi x m => .faultBytes (i + u) (i + lo) (i + hi) x m
      else longString d s q fuel (i + 1) (c :: acc)

/-- Reads a blank node label after `_:`. A label may not end with a dot; a dot that would
end it is left for the next token. -/
def blankLabel (d : Array Char) (s : Nat) : Nat → Nat → List Char → Bool → Scan
  | 0, _, _, _ => .short
  | fuel + 1, i, acc, dot =>
    match d[s + i]? with
    | none => .short
    | some c =>
      if (i == 2 && (isStartChar c || c.isDigit)) || (i > 2 && isNameChar c) then
        blankLabel d s fuel (i + 1) (c :: acc) false
      else if i > 2 && c == '.' then
        if dot then .token (i - 1) (.blank (String.ofList (acc.drop 1).reverse))
        else blankLabel d s fuel (i + 1) ('.' :: acc) true
      else if dot then .token (i - 1) (.blank (String.ofList (acc.drop 1).reverse))
      else if i == 2 then .fault 2 0 2 "A blank node ID should not be empty"
      else .token i (.blank (String.ofList acc.reverse))

/-- A language tag token of `used` characters, checked; the span of a fault is given. -/
def langToken (tag : List Char) (used lo hi : Nat) : Scan :=
  match Language.check (String.ofList tag) with
  | .ok t => .token used (.langTag t)
  | .error m => .fault used lo hi m

/-- Reads a language tag after `@`: letters, then groups of a hyphen and letters. `j`
counts the characters after the `@`. -/
def langTag (d : Array Char) (s : Nat) : Nat → Nat → List Char → Bool → Scan
  | 0, _, _, _ => .short
  | fuel + 1, j, acc, empty =>
    match d[s + 1 + j]? with
    | none => .short
    | some c =>
      if c.isAlpha then langTag d s fuel (j + 1) (c :: acc) false
      else if j == 0 then .fault 1 1 2 "A language code should always start with a letter"
      else if empty then langToken (acc.drop 1).reverse j 1 (j - 1)
      else if c == '-' then langTag d s fuel (j + 1) ('-' :: acc) true
      else langToken acc.reverse (j + 1) 1 j

/-- The number of digits from index `i` on. -/
def digitRun (d : Array Char) (i : Nat) : Nat :=
  ((d.extract i d.size).toList.takeWhile Char.isDigit).length

/-- Reads a number from index `s`: an optional sign, digits, an optional fraction and an
optional exponent. A dot not followed by a digit is left for the next token. The end of the
text ends a number as any other character that cannot continue it does. -/
def number (d : Array Char) (s : Nat) : Scan :=
  let text (n : Nat) := String.ofList (slice d s (s + n))
  let i := match d[s]? with
    | some '+' | some '-' => 1
    | _ => 0
  let before := digitRun d (s + i)
  let i := i + before
  let after : Option Nat := if d[s + i]? == some '.' then some (digitRun d (s + i + 1)) else none
  let i := i + (match after with | some n => n + 1 | none => 0)
  if d[s + i]? == some 'e' || d[s + i]? == some 'E' then
    let i := if d[s + i + 1]? == some '+' || d[s + i + 1]? == some '-' then i + 2 else i + 1
    let expDigits := digitRun d (s + i)
    let i := i + expDigits
    if expDigits == 0 then .fault i 0 i "A double exponent cannot be empty"
    else if before == 0 && after.getD 0 == 0 then .fault i 0 i "A double should not be empty"
    else .token i (.double (text i))
  else
    match after with
    | some 0 =>
      let i := i - 1
      if before == 0 then .fault i 0 i "An integer should not be empty" else .token i (.integer (text i))
    | some _ => .token i (.decimal (text i))
    | none =>
      if before == 0 then .fault i 0 i "An integer should not be empty" else .token i (.integer (text i))

/-- The number of dots at the end of a list of characters. -/
def trailingDots (cs : List Char) : Nat := (cs.reverse.takeWhile (· == '.')).length

/-- What reading the local part of a prefixed name gives. -/
inductive LocalScan where
  | short
  | name (used : Nat) (text : List Char) (suspect : Bool)
  | fault (used lo hi : Nat) (message : String)

/-- Reads the local part of a prefixed name from index `b`. Escaped characters are kept
decoded in `buf`, which holds the text up to index `pos`; `dots` counts the unescaped dots
at the end, which are not part of the name. -/
def localPart (d : Array Char) (b : Nat) :
    Nat → Nat → Option (List Char) → Nat → Bool → Nat → LocalScan
  | 0, _, _, _, _, _ => .short
  | fuel + 1, i, buf, pos, suspect, dots =>
    match d[b + i]? with
    | some c =>
      if c == '%' then
        match byteWindow d (b + i + 1) 2 with
        | some ([x, y], _) =>
          if Iri.isHex x && Iri.isHex y then localPart d b fuel (i + 3) buf pos suspect 0
          else .fault (i + 3) i (i + 3) ("escapes in IRIs should be % followed by two hexadecimal characters, found '%" ++
            String.ofList (x :: ((latinBytes y).take 1)) ++ "'")
        | some (cs, _) =>
          .fault (i + 3) i (i + 3) ("escapes in IRIs should be % followed by two hexadecimal characters, found '%" ++
            String.ofList ((cs.flatMap latinBytes).take 2) ++ "'")
        | none => .short
      else if c == '\\' then
        match d[b + i + 1]? with
        | none => .short
        | some x =>
          if "_~.-!$&'()*+,;=/?#@%".contains x then
            let suspect := suspect || "/?#@%".contains x
            let buf := buf.getD [] ++ slice d (b + pos) (b + i) ++ [x]
            localPart d b fuel (i + 2) (some buf) (i + 2) suspect 0
          else .fault (i + 2) (i + 1) (i + 2)
            ("The character that are allowed to be escaped in IRIs are _~.-!$&'()*+,;=/?#@%, found '" ++
              String.ofList ((latinBytes x).take 1) ++ "'")
      else if i == 0 then
        if !(isStartChar c || c == ':' || c.isDigit) then .name 0 [] false
        else localPart d b fuel 1 buf pos (suspect || isOddChar c || c == ':') dots
      else if isNameChar c || c == ':' then
        localPart d b fuel (i + 1) buf pos (suspect || isOddChar c || c == ':') 0
      else if c == '.' then localPart d b fuel (i + 1) buf pos suspect (dots + 1)
      else
        match buf with
        | some bf =>
          let full := bf ++ slice d (b + pos) (b + i)
          .name (i - dots) (full.take (full.length - dots)) suspect
        | none => .name (i - dots) (slice d b (b + i - dots)) suspect
    | none =>
      match buf with
      | some bf =>
        let k := trailingDots bf
        .name (i - k) (bf.take (bf.length - k)) suspect
      | none =>
        let k := trailingDots (slice d b (b + i))
        .name (i - k) (slice d b (b + i - k)) suspect

/-- Reads a local part from index `b`. -/
def localName (d : Array Char) (b : Nat) : LocalScan :=
  localPart d b (d.size + 1) 0 none 0 false 0

/-- Reads a prefixed name or a bare word from index `s`: name characters up to a colon make
a prefix, and the local part follows; without a colon they make a word, trailing dots left
out. -/
def nameOrWord (d : Array Char) (s : Nat) : Nat → Nat → Scan
  | 0, _ => .short
  | fuel + 1, i =>
    let word (n : Nat) : Scan :=
      let k := trailingDots (slice d s (s + n))
      .token (n - k) (.word (String.ofList (slice d s (s + n - k))))
    match d[s + i]? with
    | some c =>
      if c == ':' then
        let space := slice d s (s + i)
        let i := i + 1
        if space.getLast? == some '.' then
          .fault i 0 i ("'" ++ String.ofList space ++ "' is not a valid prefix: prefixes are not allowed to end with '.'")
        else
          match localName d (s + i) with
          | .short => .short
          | .name used text suspect => .token (i + used) (.pname (String.ofList space) (String.ofList text) suspect)
          | .fault used lo hi m => .fault (i + used) lo hi m
      else if i == 0 then
        if !isBaseChar c then
          .fault 1 0 1 ("'" ++ c.toString ++ "' is not allowed at the beginning of a prefix name")
        else nameOrWord d s fuel 1
      else if isNameChar c || c == '.' then nameOrWord d s fuel (i + 1)
      else word i
    | none => word i

/-- Reads a Notation3 variable after `?`. -/
def quickVar (d : Array Char) (s : Nat) : Scan :=
  match localName d (s + 1) with
  | .short => .short
  | .name used text _ =>
    if text.isEmpty then .fault (used + 1) 0 used "A variable name is not allowed to be empty"
    else .token (used + 1) (.var (String.ofList text))
  | .fault used lo hi m => .fault (used + 1) lo hi m

/-- A punctuation token of one or two characters. -/
def punct (n : Nat) (p : String) : Scan := .token n (.punct p)

/-- Two punctuation tokens sharing a first character: the long one if its second character
follows, else the short one. The text must go on after the first character. -/
def pair (d : Array Char) (s : Nat) (second : Char) (long short : String) : Scan :=
  match d[s + 1]? with
  | none => .short
  | some c => if c == second then punct 2 long else punct 1 short

/-- In Notation3, `<` followed by `=` or `-` is an IRI reference if one can be read there,
and otherwise an arrow. -/
def arrowOrIri (d : Array Char) (s : Nat) (base : Option String) (arrow : String) : Scan :=
  match iri d s base with
  | .token used t => .token used t
  | _ => punct 2 arrow

/-- Scans the token starting at index `s`. -/
def scan (dialect : Dialect) (base : Option String) (d : Array Char) (s : Nat) : Scan :=
  match d[s]? with
  | none => .short
  | some c =>
    match c with
    | '<' =>
      match d[s + 1]? with
      | none => .short
      | some '<' => punct 2 "<<"
      | some '=' => if dialect == .n3 then arrowOrIri d s base "<=" else iri d s base
      | some '-' => if dialect == .n3 then arrowOrIri d s base "<-" else iri d s base
      | some _ => iri d s base
    | '>' => pair d s '>' ">>" ">"
    | '_' =>
      match d[s + 1]? with
      | none => .short
      | some ':' => blankLabel d s (d.size + 1) 2 [] false
      | some x => .fault 1 0 1 ("Unexpected character '" ++ String.ofList ((latinBytes x).take 1) ++ "'")
    | '"' =>
      if dialect == .nTriples then shortString d s '"' (d.size + 1) 1 [] none
      else
        match d[s + 1]? with
        | none => .short
        | some '"' =>
          match d[s + 2]? with
          | none => .short
          | some '"' => longString d s '"' (d.size + 1) 3 []
          | some _ => shortString d s '"' (d.size + 1) 1 [] none
        | some _ => shortString d s '"' (d.size + 1) 1 [] none
    | '\'' =>
      if dialect == .nTriples then nameOrWord d s (d.size + 1) 0
      else
        match d[s + 1]? with
        | none => .short
        | some '\'' =>
          match d[s + 2]? with
          | none => .short
          | some '\'' => longString d s '\'' (d.size + 1) 3 []
          | some _ => shortString d s '\'' (d.size + 1) 1 [] none
        | some _ => shortString d s '\'' (d.size + 1) 1 [] none
    | '@' => langTag d s (d.size + 1) 0 [] true
    | '.' =>
      match d[s + 1]? with
      | some x => if x.isDigit then number d s else punct 1 "."
      | none => punct 1 "."
    | '^' => pair d s '^' "^^" "^"
    | '\x7b' => pair d s '|' "\x7b|" "\x7b"
    | '|' => pair d s '\x7d' "|\x7d" "|"
    | '=' => pair d s '>' "=>" "="
    | '(' => punct 1 "("
    | ')' => punct 1 ")"
    | '[' => punct 1 "["
    | ']' => punct 1 "]"
    | '\x7d' => punct 1 "\x7d"
    | ',' => punct 1 ","
    | ';' => punct 1 ";"
    | '!' => punct 1 "!"
    | '?' => quickVar d s
    | _ =>
      if c.isDigit || c == '+' || c == '-' then number d s
      else nameOrWord d s (d.size + 1) 0

/-- Skips blanks, line breaks and comments from index `i`: the index and place after them. -/
def skip (d : Array Char) : Nat → Nat → Place → Nat × Place
  | 0, i, p => (i, p)
  | fuel + 1, i, p =>
    match d[i]? with
    | some ' ' | some '\t' => skip d fuel (i + 1) ⟨p.line, p.column + 1, p.offset + 1⟩
    | some '\n' => skip d fuel (i + 1) (p.newline 1)
    | some '\r' =>
      if d[i + 1]? == some '\n' then skip d fuel (i + 2) (p.newline 2) else skip d fuel (i + 1) (p.newline 1)
    | some '#' =>
      let body := (d.extract (i + 1) d.size).toList.takeWhile fun c => c != '\n' && c != '\r'
      let p := p.over ('#' :: body)
      let j := i + 1 + body.length
      match d[j]? with
      | some '\r' =>
        if d[j + 1]? == some '\n' then skip d fuel (j + 2) (p.newline 2) else skip d fuel (j + 1) (p.newline 1)
      | some _ => skip d fuel (j + 1) (p.newline 1)
      | none => (j, p)
    | _ => (i, p)

end Scanner

/-- A text being read into tokens: the characters, the index reached and its place. -/
structure Lexer where
  data : Array Char
  index : Nat
  place : Place
deriving Inhabited

/-- A token read, with its source text and span. -/
structure Lexeme where
  tok : Tok
  source : String
  start : Place
  stop : Place
deriving Inhabited

/-- What reading the next token gives. -/
inductive Lexed where
  | done (final : Place)
  | next (l : Lexeme) (rest : Lexer)
  | fault (e : TextError)

namespace Lexer

open Scanner

/-- A lexer at the start of a text. -/
def start (text : String) : Lexer := ⟨text.toList.toArray, 0, ⟨0, 0, 0⟩⟩

/-- Reads the next token, resolving IRI references against `base`. In N-Triples the line
breaks skipped before a token are a token of their own, of no width, where the skipping ends. -/
def read (dialect : Dialect) (base : Option String) (lx : Lexer) : Lexed :=
  let d := lx.data
  let (s, p) := skip d (d.size + 1) lx.index lx.place
  if dialect == .nTriples && lx.place.line < p.line then .next ⟨.lineJump, "", p, p⟩ ⟨d, s, p⟩
  else if s ≥ d.size then .done p
  else
    let placeAt (n : Nat) : Place := p.over (slice d s (s + n))
    match scan dialect base d s with
    | .short => .fault ⟨"Unexpected end of file", p, p.over (slice d s d.size)⟩
    | .fault _ lo hi m => .fault ⟨m, placeAt lo, placeAt hi⟩
    | .faultBytes _ lo hi x m =>
      let q := placeAt hi
      .fault ⟨m, placeAt lo, { q with offset := q.offset + x }⟩
    | .token used t =>
      let q := placeAt used
      .next ⟨t, String.ofList (slice d s (s + used)), p, q⟩ ⟨d, s + used, q⟩

end Lexer

end Thesaurus.Rdf
