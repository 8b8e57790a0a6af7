import Thesaurus.Settings.Basic
import Thesaurus.Json.Reader

/-!
Reading expansion settings from JSON text. The text holds one object (or an array of the
fields in order) with the members `mode`, `expansionKinds` (required), `windowSize`,
`languages` and `matchLabelKinds`; other members are skipped, a member given twice is an
error, and nothing but blanks may follow. The failures and their places are those of a typed
decoder of the settings.
-/

namespace Thesaurus.Settings

open Thesaurus.Json

/-- The names accepted for the variants of an enumeration, with the variants. -/
abbrev Names (α : Type) := List (String × α)

/-- The mode names: each mode under its name or its long name. -/
def modeNames : Names Mode :=
  [("label", .label), ("label-expansion", .label), ("uri", .uri), ("uri-expansion", .uri)]

/-- The expansion kind names: each kind under its name, and the label kinds under their short
names too. -/
def kindNames : Names ExpansionKind :=
  [("pref", .labels .pref), ("prefLabel", .labels .pref), ("alt", .labels .alt),
    ("altLabel", .labels .alt), ("hidden", .labels .hidden), ("hiddenLabel", .labels .hidden)] ++
  (RelationKind.all.map fun r => (r.name, .relation r)) ++ [("uri", .uri)]

/-- The label kind names. -/
def labelNames : Names LabelKind :=
  LabelKind.all.map fun k => (k.name, k)

/-- The text of a list of accepted names. -/
def oneOf (names : List String) : String :=
  let tick (n : String) : String := "`" ++ n ++ "`"
  match names with
  | [] => "no variant"
  | [a] => tick a
  | [a, b] => tick a ++ " or " ++ tick b
  | _ => "one of " ++ ", ".intercalate (names.map tick)

/-- Reads a variant given as a string, or as an object of one member whose value is null. -/
def readVariant {α : Type} (names : Names α) (c : Cursor) : Except Fail (α × Cursor) :=
  let lookup (s : String) (c' : Cursor) : Except Fail (α × Cursor) :=
    match names.find? (·.1 == s) with
    | some (_, v) => .ok (v, c')
    | none => .error ⟨"unknown variant `" ++ s ++ "`, expected " ++ oneOf (names.map (·.1)),
        some c'.here⟩
  let c := c.skipBlanks
  match c.peek? with
  | some '"' => match readStringBody c.next with
    | .ok (s, c') => lookup s c'
    | .error f => .error f
  | some '{' =>
    let c := c.next.skipBlanks
    match c.peek? with
    | some '"' => match readStringBody c.next with
      | .error f => .error f
      | .ok (s, c') => match lookup s c' with
        | .error f => .error f
        | .ok (v, c') =>
          let c := c'.skipBlanks
          match c.peek? with
          | some ':' =>
            let c := c.next.skipBlanks
            match c.peek? with
            | some 'n' => match readWord ['u', 'l', 'l'] c.next with
              | .error f => .error f
              | .ok c =>
                let c := c.skipBlanks
                match c.peek? with
                | some '}' => .ok (v, c.next)
                | some _ => c.fail "expected value"
                | none => c.fail "EOF while parsing an object"
            | some _ => wrongType c "unit"
            | none => c.failPeek eofValue
          | some _ => c.failPeek "expected `:`"
          | none => c.failPeek "EOF while parsing an object"
    | some _ => wrongType c "variant identifier"
    | none => c.failPeek eofValue
  | some _ => c.failPeek "expected value"
  | none => c.failPeek eofValue

/-- Reads the elements of an array after its opening bracket, to and past the closing one. -/
def readElements {α : Type} (elem : Cursor → Except Fail (α × Cursor)) (c : Cursor) :
    Except Fail (List α × Cursor) :=
  go (c.rest.length + 1) c [] true
where
  go : Nat → Cursor → List α → Bool → Except Fail (List α × Cursor)
  | 0, c, _, _ => c.fail "EOF while parsing a list"
  | fuel + 1, c, acc, first =>
    let c := c.skipBlanks
    match c.peek? with
    | none => c.failPeek "EOF while parsing a list"
    | some ']' => .ok (acc.reverse, c.next)
    | some ',' =>
      if first then
        match elem c with
        | .ok (x, c') => go fuel c' (x :: acc) false
        | .error f => .error f
      else
        let c := c.next.skipBlanks
        match c.peek? with
        | some ']' => c.failPeek "trailing comma"
        | some _ => match elem c with
          | .ok (x, c') => go fuel c' (x :: acc) false
          | .error f => .error f
        | none => c.failPeek eofValue
    | some _ =>
      if first then
        match elem c with
        | .ok (x, c') => go fuel c' (x :: acc) false
        | .error f => .error f
      else c.failPeek "expected `,` or `]`"

/-- Reads an array of elements. -/
def readList {α : Type} (elem : Cursor → Except Fail (α × Cursor)) (c : Cursor) :
    Except Fail (List α × Cursor) :=
  let c := c.skipBlanks
  match c.peek? with
  | some '[' => readElements elem c.next
  | some _ => wrongType c "a sequence"
  | none => c.failPeek eofValue

/-- Reads a string. -/
def readString (c : Cursor) : Except Fail (String × Cursor) :=
  let c := c.skipBlanks
  match c.peek? with
  | some '"' => readStringBody c.next
  | some _ => wrongType c "a string"
  | none => c.failPeek eofValue

/-- Reads a size: a natural number below `2 ^ 64`. -/
def readSize (c : Cursor) : Except Fail (Nat × Cursor) :=
  let c := c.skipBlanks
  let given (r : Except Fail (Number × Cursor)) : Except Fail (Nat × Cursor) :=
    match r with
    | .error f => .error f
    | .ok (.unsigned n, c') => .ok (n, c')
    | .ok (.signed i, c') => .error ⟨"invalid value: integer `" ++ toString i ++
        "`, expected usize", some c'.here⟩
    | .ok (n, c') => .error ⟨"invalid type: " ++ n.unexpected ++ ", expected usize", some c'.here⟩
  match c.peek? with
  | some '-' => given (readNumber c.next false)
  | some ch => if isDigit ch then given (readNumber c true) else wrongType c "usize"
  | none => c.failPeek eofValue

/-- Reads null, or a list of strings. -/
def readLanguages (c : Cursor) : Except Fail (Option (List String) × Cursor) :=
  let c := c.skipBlanks
  match c.peek? with
  | some 'n' => (readWord ['u', 'l', 'l'] c.next).map fun c => (none, c)
  | _ => (readList readString c).map fun (xs, c) => (some xs, c)

/-- The members read so far. -/
structure Members where
  mode : Option Mode
  kinds : Option (List ExpansionKind)
  window : Option Nat
  languages : Option (Option (List String))
  matchKinds : Option (List LabelKind)

/-- No member read yet. -/
def Members.empty : Members := ⟨.none, .none, .none, .none, .none⟩

/-- The settings of the members read, defaults for the others; the expansion kinds must be
given. `place` is where a missing member is reported. -/
def Members.settings (m : Members) (place : Nat × Nat) : Except Fail Settings :=
  match m.kinds with
  | some kinds => .ok ⟨m.mode.getD .label, kinds, m.window.getD 1, m.languages.getD .none,
      m.matchKinds.getD LabelKind.all⟩
  | none => .error ⟨"missing field `expansionKinds`", some place⟩

/-- The cursor after the end of an object: blanks, then its closing brace if it is next. -/
def closeObject (c : Cursor) : Cursor :=
  let c := c.skipBlanks
  if c.peek? == some '}' then c.next else c

/-- Reads the colon between a member's key and its value. -/
def readColon (c : Cursor) : Except Fail Cursor :=
  let c := c.skipBlanks
  match c.peek? with
  | some ':' => .ok c.next
  | some _ => c.failPeek "expected `:`"
  | none => c.failPeek "EOF while parsing an object"

/-- Reads a member's value by its key into the members read so far. -/
def readMember (key : String) (m : Members) (c : Cursor) : Except Fail (Members × Cursor) :=
  let twice (name : String) : Except Fail (Members × Cursor) :=
    .error ⟨"duplicate field `" ++ name ++ "`", some (closeObject c).here⟩
  let value {β : Type} (read : Cursor → Except Fail (β × Cursor)) (set : β → Members) :
      Except Fail (Members × Cursor) :=
    match readColon c with
    | .error f => .error f
    | .ok c => (read c).map fun (b, c) => (set b, c)
  match key with
  | "mode" => if m.mode.isSome then twice key else value (readVariant modeNames)
      fun v => { m with mode := some v }
  | "expansionKinds" => if m.kinds.isSome then twice key else value (readList (readVariant kindNames))
      fun v => { m with kinds := some v }
  | "windowSize" => if m.window.isSome then twice key else value readSize
      fun v => { m with window := some v }
  | "languages" => if m.languages.isSome then twice key else value readLanguages
      fun v => { m with languages := some v }
  | "matchLabelKinds" => if m.matchKinds.isSome then twice key
      else value (readList (readVariant labelNames)) fun v => { m with matchKinds := some v }
  | _ => match readColon c with
    | .error f => .error f
    | .ok c => (skipValue c).map fun c => (m, c)

/-- Reads the members of an object after its opening brace, to its closing brace (not past
it). -/
def readMembers (c : Cursor) : Except Fail (Members × Cursor) :=
  go (c.rest.length + 1) c Members.empty true
where
  go : Nat → Cursor → Members → Bool → Except Fail (Members × Cursor)
  | 0, c, _, _ => c.fail "EOF while parsing an object"
  | fuel + 1, c, m, first =>
    let c := c.skipBlanks
    let key (c : Cursor) : Except Fail (Members × Cursor) :=
      match c.peek? with
      | some '"' => match readStringBody c.next with
        | .error f => .error f
        | .ok (k, c') => match readMember k m c' with
          | .error f => .error f
          | .ok (m', c'') => go fuel c'' m' false
      | some '}' => c.failPeek "trailing comma"
      | some _ => c.failPeek "key must be a string"
      | none => c.failPeek eofValue
    match c.peek? with
    | some '}' => .ok (m, c)
    | some ',' => if first then key c else key c.next.skipBlanks
    | some _ => if first then key c else c.failPeek "expected `,` or `\x7d`"
    | none => c.failPeek "EOF while parsing an object"

/-- The text of a missing element of the array form. -/
def shortArray : String :=
  "invalid length 1, expected struct ExpansionConfig with 5 elements"

/-- Reads the settings given as an array of their fields in order, after its opening bracket. -/
def readFields (c : Cursor) : Except Fail (Settings × Cursor) := do
  -- one optional element: none once the closing bracket is next
  let elem {β : Type} (read : Cursor → Except Fail (β × Cursor)) (first : Bool) (c : Cursor) :
      Except Fail (Option β × Cursor) :=
    let c := c.skipBlanks
    match c.peek? with
    | some ']' => .ok (.none, c)
    | some ',' =>
      if first then (read c).map fun (b, c) => (some b, c)
      else
        let c := c.next.skipBlanks
        match c.peek? with
        | some ']' => c.failPeek "trailing comma"
        | some _ => (read c).map fun (b, c) => (some b, c)
        | none => c.failPeek eofValue
    | some _ => if first then (read c).map fun (b, c) => (some b, c) else c.failPeek "expected `,` or `]`"
    | none => c.failPeek "EOF while parsing a list"
  let (mode, c) ← elem (readVariant modeNames) true c
  let (kinds, c) ← elem (readList (readVariant kindNames)) (mode.isNone) c
  match kinds with
  | .none =>
    let c := c.skipBlanks
    let c := if c.peek? == some ']' then c.next else c
    .error ⟨shortArray, some c.here⟩
  | some kinds =>
    let (window, c) ← elem readSize false c
    let (languages, c) ← elem readLanguages false c
    let (matchKinds, c) ← elem (readList (readVariant labelNames)) false c
    let settings : Settings := ⟨mode.getD .label, kinds, window.getD 1, languages.getD .none,
      matchKinds.getD LabelKind.all⟩
    let c := c.skipBlanks
    match c.peek? with
    | some ']' => .ok (settings, c.next)
    | some ',' =>
      let c := c.next.skipBlanks
      if c.peek? == some ']' then c.failPeek "trailing comma" else c.failPeek "trailing characters"
    | some _ => c.failPeek "trailing characters"
    | none => c.failPeek "EOF while parsing a list"

/-- Reads settings from JSON text, without checking them. -/
def decode (text : String) : Except Error Settings :=
  let c := (Cursor.start text).skipBlanks
  let body : Except Fail (Settings × Cursor) :=
    match c.peek? with
    | some '{' => match readMembers c.next with
      | .error f => .error f
      | .ok (m, c') => match m.settings (closeObject c').here with
        | .error f => .error f
        | .ok s => .ok (s, c'.next)
    | some '[' => readFields c.next
    | some _ => wrongType c "struct ExpansionConfig"
    | none => c.failPeek eofValue
  match body with
  | .error f => .error (.json f.reason f.place)
  | .ok (s, c) =>
    let c := c.skipBlanks
    match c.peek? with
    | some _ => .error (.json "trailing characters" (some c.peekPlace))
    | none => .ok s

/-- Reads settings from JSON text and checks them. -/
def ofJson (text : String) : Except Error Settings := do
  let s ← decode text
  s.validate
  pure s

end Thesaurus.Settings
