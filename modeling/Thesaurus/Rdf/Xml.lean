import Thesaurus.Rdf.Term

/-!
A small XML reader: it cuts a text into events — start tags with their attributes, end
tags, text, character data sections, comments, processing instructions, the XML declaration
and the document type declaration — checking that end tags match the open start tags. An
empty-element tag gives a start event and an end event. Entity and character references are
decoded by `Xml.unescape`, with the entities a document type declaration defines.
-/

namespace Thesaurus.Rdf

namespace Xml

/-- An event of an XML text. -/
inductive Event where
  | start (name : String) (attrs : List (String × String))
  | stop (name : String)
  | text (raw : String)
  | cdata (content : String)
  | ignorable
  | decl (encoding : Option String)
  | doctype (body : String)
deriving Repr, Inhabited

/-- Whether a character is XML white space. -/
def isSpace (c : Char) : Bool := c == ' ' || c == '\t' || c == '\n' || c == '\r'

/-- The characters from index `a` up to index `b`. -/
def slice (d : Array Char) (a b : Nat) : List Char := (d.extract a b).toList

/-- The index of the first occurrence of `pat` at or after index `i`. -/
def findText (d : Array Char) (pat : List Char) (i : Nat) : Option Nat :=
  let rest := slice d i d.size
  let rec go : Nat → List Char → Option Nat
    | _, [] => none
    | k, c :: cs => if (c :: cs).take pat.length == pat then some (i + k) else go (k + 1) cs
  if pat.isEmpty then some i else go 0 rest

/-- The index of the `>` ending a tag that starts at index `i`, skipping quoted values. -/
def tagEnd (d : Array Char) : Nat → Nat → Option Char → Option Nat
  | 0, _, _ => none
  | fuel + 1, i, quote =>
    match d[i]? with
    | none => none
    | some c =>
      match quote with
      | some q => tagEnd d fuel (i + 1) (if c == q then none else some q)
      | none =>
        if c == '>' then some i
        else if c == '"' || c == '\'' then tagEnd d fuel (i + 1) (some c)
        else tagEnd d fuel (i + 1) none

/-- The index of the `>` ending a document type declaration from index `i`, counting the
`<` and `>` of its internal declarations. -/
def doctypeEnd (d : Array Char) : Nat → Nat → Nat → Option Nat
  | 0, _, _ => none
  | fuel + 1, i, depth =>
    match d[i]? with
    | none => none
    | some '<' => doctypeEnd d fuel (i + 1) (depth + 1)
    | some '>' => if depth == 0 then some i else doctypeEnd d fuel (i + 1) (depth - 1)
    | some _ => doctypeEnd d fuel (i + 1) depth

/-- Reads attributes from the characters after a tag's name: pairs of a name and a quoted
value, in order, each with the offset of its name. A name is its first character and what
follows up to `=` or a blank. `pos` is the offset in bytes from the
tag's start, for errors; `pos` plus the bytes left is the length of the tag's content, where
an attribute that runs out of text is at fault. A name given twice is a fault when `dups` is
set. Reading stops after an attribute whose name `last` accepts. -/
def attributes (last : String → Bool) (dups : Bool) :
    Nat → List Char → Nat → List (String × String × Nat) → Except String (List (String × String))
  | 0, _, _, acc => .ok (acc.reverse.map fun (k, v, _) => (k, v))
  | fuel + 1, cs, pos, acc =>
    let blanks := cs.takeWhile isSpace
    let cs := cs.drop blanks.length
    let pos := pos + blanks.length
    let total := pos + (String.ofList cs).utf8ByteSize
    match cs with
    | [] => .ok (acc.reverse.map fun (k, v, _) => (k, v))
    | _ =>
      let key := match cs with
        | c :: more => c :: more.takeWhile fun c => c != '=' && !isSpace c
        | [] => []
      let keyText := String.ofList key
      let keyPos := pos
      let rest := cs.drop key.length
      let gap := rest.takeWhile isSpace
      let rest := rest.drop gap.length
      let posAfterKey := pos + keyText.utf8ByteSize
      let noEq := "attribute key must be directly followed by `=` or space"
      match rest with
      | '=' :: afterEq =>
        match (if dups then acc.find? (·.1 == keyText) else none) with
        | some (_, _, earlier) =>
          .error ("position " ++ toString keyPos ++ ": duplicated attribute, previous declaration at position " ++
            toString earlier)
        | none =>
          let gap2 := afterEq.takeWhile isSpace
          let valueStart := afterEq.drop gap2.length
          let vpos := posAfterKey + gap.length + 1 + gap2.length
          match valueStart with
          | [] => .error ("position " ++ toString vpos ++ ": `=` must be followed by an attribute value")
          | q :: body =>
            if q == '"' || q == '\'' then
              let value := body.takeWhile (· != q)
              match body.drop value.length with
              | _ :: after =>
                let acc := (keyText, String.ofList value, keyPos) :: acc
                if last keyText then .ok (acc.reverse.map fun (k, v, _) => (k, v))
                else attributes last dups fuel after (vpos + 1 + (String.ofList value).utf8ByteSize + 1) acc
              | [] => .error ("position " ++ toString total ++ ": missed closing quote `" ++ q.toString ++ "`")
            else .error ("position " ++ toString vpos ++ ": attribute value must be enclosed in `\"` or `'`")
      | [] => .error ("position " ++ toString total ++ ": " ++ noEq)
      | _ => .error ("position " ++ toString (posAfterKey + gap.length) ++ ": " ++ noEq)

/-- The events of a text up to its end or up to the first fault, and that fault. `open`
holds the names of the open elements, innermost first. -/
def events (d : Array Char) : Nat → Nat → List String → List Event → List Event × Option String
  | 0, _, _, acc => (acc.reverse, none)
  | fuel + 1, i, opened, acc =>
    match d[i]? with
    | none => (acc.reverse, none)
    | some '<' =>
      match d[i + 1]? with
      | some '/' =>
        match findText d ['>'] (i + 2) with
        | none => (acc.reverse, some "syntax error: tag not closed: `>` not found before end of input")
        | some j =>
          let name := String.ofList ((slice d (i + 2) j).reverse.dropWhile isSpace).reverse
          match opened with
          | top :: rest =>
            if top == name then events d fuel (j + 1) rest (.stop name :: acc)
            else (acc.reverse, some ("ill-formed document: expected `</" ++ top ++ ">`, but `</" ++ name ++ ">` was found"))
          | [] => (acc.reverse, some ("ill-formed document: close tag `</" ++ name ++ ">` does not match any open tag"))
      | some '!' =>
        let upper (a b : Nat) : List Char := (slice d a b).map Char.toUpper
        match d[i + 2]? with
        | some '-' =>
          let unclosed := "syntax error: comment not closed: `-->` not found before end of input"
          if d[i + 3]? == some '-' then
            match findText d ['-', '-', '>'] (i + 4) with
            | none => (acc.reverse, some unclosed)
            | some j => events d fuel (j + 3) opened (.ignorable :: acc)
          else (acc.reverse, some unclosed)
        | some '[' =>
          let unclosed := "syntax error: CDATA not closed: `]]>` not found before end of input"
          if upper (i + 2) (i + 9) == "[CDATA[".toList then
            match findText d [']', ']', '>'] (i + 9) with
            | none => (acc.reverse, some unclosed)
            | some j => events d fuel (j + 3) opened (.cdata (String.ofList (slice d (i + 9) j)) :: acc)
          else (acc.reverse, some unclosed)
        | some 'D' | some 'd' =>
          let unclosed := "syntax error: DOCTYPE not closed: `>` not found before end of input"
          if upper (i + 2) (i + 9) == "DOCTYPE".toList then
            match doctypeEnd d (d.size + 1) (i + 9) 0 with
            | none => (acc.reverse, some unclosed)
            | some j =>
              let body := (slice d (i + 9) j).dropWhile isSpace
              if body.isEmpty then
                (acc.reverse, some "ill-formed document: `<!DOCTYPE>` declaration does not contain a name of a document type")
              else events d fuel (j + 1) opened (.doctype (String.ofList body) :: acc)
          else (acc.reverse, some unclosed)
        | _ => (acc.reverse, some "syntax error: unknown or missed symbol in markup")
      | some '?' =>
        match findText d ['?', '>'] (i + 2) with
        | none =>
          (acc.reverse, some "syntax error: processing instruction or xml declaration not closed: `?>` not found before end of input")
        | some j =>
          let body := slice d (i + 2) j
          let isDecl := body.take 3 == ['x', 'm', 'l'] && (body.length == 3 || isSpace (body.getD 3 ' '))
          if isDecl then
            match attributes (· == "encoding") false (body.length + 1) (body.drop 3) 3 [] with
            | .ok attrs => events d fuel (j + 2) opened (.decl (attrs.lookup "encoding") :: acc)
            | .error m => (acc.reverse, some ("error while parsing attribute: " ++ m))
          else events d fuel (j + 2) opened (.ignorable :: acc)
      | _ =>
        match tagEnd d (d.size + 1) (i + 1) none with
        | none => (acc.reverse, some "syntax error: tag not closed: `>` not found before end of input")
        | some j =>
          let body := slice d (i + 1) j
          let (body, empty) := if body.getLast? == some '/' then (body.dropLast, true) else (body, false)
          let name := String.ofList (body.takeWhile fun c => !isSpace c)
          match attributes (fun _ => false) true (body.length + 1) (body.drop name.length) name.utf8ByteSize [] with
          | .error m => (acc.reverse, some ("error while parsing attribute: " ++ m))
          | .ok attrs =>
            let acc := .start name attrs :: acc
            if empty then events d fuel (j + 1) opened (.stop name :: acc)
            else events d fuel (j + 1) (name :: opened) acc
    | some _ =>
      let text := (slice d i d.size).takeWhile (· != '<')
      events d fuel (i + text.length) opened (.text (String.ofList text) :: acc)

/-- The events of a text, and the fault that stopped the reading, if any. A byte order mark
at the very start is not part of the text. -/
def read (text : String) : List Event × Option String :=
  let cs := text.toList
  let d := (if cs.head? == some '\uFEFF' then cs.drop 1 else cs).toArray
  events d (d.size + 1) 0 [] []

/-- The value of a number in a radix, or why it is not one: the faults of reading an
unsigned 32-bit integer digit by digit, the first met winning. -/
def radixValue (radix : Nat) (cs : List Char) : Except String Nat :=
  let digit (c : Char) : Option Nat :=
    if c.isDigit then some (c.toNat - 48)
    else if radix == 16 && 'a' ≤ c.toLower && c.toLower ≤ 'f' then some (c.toLower.toNat - 87)
    else none
  if cs.isEmpty then .error "cannot parse integer from empty string"
  else
    cs.foldlM (fun n c =>
      match digit c with
      | none => .error "invalid digit found in string"
      | some d => if radix * n + d ≥ Nat.pow 2 32 then .error "number too large to fit in target type" else .ok (radix * n + d)) 0

/-- The character a character reference such as `233` or `xE9` (the text after `&#`) stands
for. A sign, a number that cannot be read, a code point that is no character and the null
character are faults. -/
def charRef (body : String) : Except String Char := do
  let cs := body.toList
  let (radix, digits) := match cs with
    | 'x' :: hex => (16, hex)
    | _ => (10, cs)
  if digits.head? == some '+' || digits.head? == some '-' then throw "unexpected number sign"
  let v ← radixValue radix digits
  if v == 0 then throw "0x0 character is not permitted in XML"
  if v < 0xD800 || (0xDFFF < v && v < 0x110000) then pure (Char.ofNat v)
  else throw ("`" ++ toString v ++ "` is not a valid codepoint")

/-- The five predefined entities. -/
def predefined (name : String) : Option String :=
  match name with
  | "lt" => some "<"
  | "gt" => some ">"
  | "amp" => some "&"
  | "apos" => some "'"
  | "quot" => some "\""
  | _ => none

/-- A text with its entity and character references decoded; `entities` are the entities a
document type declaration defines. A reference runs from `&` to the next `;`; another `&`
before it leaves the first one unterminated. -/
def unescape (entities : List (String × String)) (raw : String) : Except String String :=
  let rec go : Nat → List Char → Nat → List Char → Except String (List Char)
    | 0, _, _, acc => .ok acc.reverse
    | _, [], _, acc => .ok acc.reverse
    | fuel + 1, c :: cs, pos, acc =>
      if c == '&' then
        let name := cs.takeWhile fun c => c != ';' && c != '&'
        match cs.drop name.length with
        | ';' :: rest =>
          let text := String.ofList name
          let replacement : Except String String :=
            if text.startsWith "#" then
              (charRef (String.ofList (name.drop 1))).map Char.toString |>.mapError
                ("invalid character reference: " ++ ·)
            else
              match (predefined text).orElse fun _ => entities.lookup text with
              | some r => .ok r
              | none => .error ("at " ++ toString (pos + 1) ++ ".." ++ toString (pos + 1 + text.utf8ByteSize) ++
                  ": unrecognized entity `" ++ text ++ "`")
          match replacement with
          | .ok r => go fuel rest (pos + text.utf8ByteSize + 2) (r.toList.reverse ++ acc)
          | .error e => .error e
        | _ => .error ("Error while escaping character at range " ++ toString pos ++ ".." ++
            toString (pos + 1 + (String.ofList cs).utf8ByteSize) ++ ": Cannot find ';' after '&'")
      else go fuel cs (pos + c.utf8Size) (c :: acc)
  (go (raw.length + 1) raw.toList 0 []).map String.ofList

end Xml

end Thesaurus.Rdf
