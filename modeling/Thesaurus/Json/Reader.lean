import Thesaurus.Number.Binary
import Thesaurus.Text.Quote

/-!
A reader of JSON text that reports failures as a typed decoder does: with the first fault
met and its place, a line and a column counted in bytes. A fault found at a character that
was only looked at is placed at that character (its column counts it); a fault found after
reading something is placed after it. Failures of the value's type ("invalid type: null,
expected a sequence") carry no place until the reader gives them the place it has reached.

Numbers are read as the decoder reads them: an integer while it fits in 64 bits, else a
double, whose value is the significand rounded to a double and then multiplied or divided by
a power of ten rounded to a double.
-/

namespace Thesaurus.Json

open Thesaurus.Number

/-- Where the reader stands: the text not yet read, and the line and byte column reached. -/
structure Cursor where
  rest : List Char
  line : Nat
  column : Nat
deriving Inhabited

/-- A reading failure: its text and, once known, its place. -/
structure Fail where
  reason : String
  place : Option (Nat × Nat)
deriving Inhabited

namespace Cursor

/-- The cursor at the start of a text. -/
def start (s : String) : Cursor := ⟨s.toList, 1, 0⟩

/-- The place reached. -/
def here (c : Cursor) : Nat × Nat := (c.line, c.column)

/-- The place of the next character, counted as read: where a fault found by looking at it
is placed. At the end of the text it is the place reached. -/
def peekPlace (c : Cursor) : Nat × Nat :=
  match c.rest with
  | [] => (c.line, c.column)
  | '\n' :: _ => (c.line + 1, 0)
  | _ :: _ => (c.line, c.column + 1)

/-- The next character, if any. -/
def peek? (c : Cursor) : Option Char := c.rest.head?

/-- The cursor past the next character. -/
def next (c : Cursor) : Cursor :=
  match c.rest with
  | [] => c
  | ch :: t => if ch = '\n' then ⟨t, c.line + 1, 0⟩ else ⟨t, c.line, c.column + ch.utf8Size⟩

/-- A failure placed at the place reached. -/
def fail {α : Type} (c : Cursor) (reason : String) : Except Fail α :=
  .error ⟨reason, some c.here⟩

/-- A failure placed at the next character. -/
def failPeek {α : Type} (c : Cursor) (reason : String) : Except Fail α :=
  .error ⟨reason, some c.peekPlace⟩

/-- Whether a character is a blank between tokens: space, tab, line feed, carriage return. -/
def isBlank (ch : Char) : Bool :=
  ch = ' ' || ch = '\t' || ch = '\n' || ch = '\r'

/-- The cursor past the blanks ahead. -/
def skipBlanks (c : Cursor) : Cursor :=
  go c.rest.length c
where
  go : Nat → Cursor → Cursor
  | 0, c => c
  | fuel + 1, c => match c.peek? with
    | some ch => if isBlank ch then go fuel c.next else c
    | none => c

end Cursor

/-- Gives a failure without a place the place `p`. -/
def Fail.fixAt (f : Fail) (p : Nat × Nat) : Fail :=
  match f.place with
  | some _ => f
  | none => { f with place := some p }

/-- Gives a failure without a place the cursor's place. -/
def fixPlace {α : Type} (c : Cursor) (r : Except Fail α) : Except Fail α :=
  match r with
  | .error f => .error (f.fixAt c.here)
  | ok => ok

/-- A failure of the value's type, not yet placed. -/
def mismatch {α : Type} (reason : String) : Except Fail α :=
  .error ⟨reason, none⟩

/-- The texts of the reader's faults. -/
def eofValue : String := "EOF while parsing a value"

/-- Reads the rest of a literal word (`ull` of `null`) after its first letter. -/
def readWord (word : List Char) (c : Cursor) : Except Fail Cursor :=
  match word with
  | [] => .ok c
  | w :: ws => match c.peek? with
    | none => c.fail eofValue
    | some ch => if ch = w then readWord ws c.next else c.next.fail "expected ident"

/-- The value of a hexadecimal digit. -/
def hexValue (ch : Char) : Option Nat :=
  if '0' ≤ ch ∧ ch ≤ '9' then some (ch.toNat - 48)
  else if 'a' ≤ ch ∧ ch ≤ 'f' then some (ch.toNat - 87)
  else if 'A' ≤ ch ∧ ch ≤ 'F' then some (ch.toNat - 55)
  else none

/-- Reads the four hexadecimal digits of a `\u` escape. -/
def readHex4 (c : Cursor) : Except Fail (Nat × Cursor) :=
  match c.rest with
  | a :: b :: d :: e :: _ =>
    let c' := c.next.next.next.next
    match hexValue a, hexValue b, hexValue d, hexValue e with
    | some w, some x, some y, some z => .ok (((w * 16 + x) * 16 + y) * 16 + z, c')
    | _, _, _, _ => c'.fail "invalid escape"
  | _ =>
    let rec toEnd : Nat → Cursor → Cursor
      | 0, c => c
      | fuel + 1, c => if c.rest.isEmpty then c else toEnd fuel c.next
    (toEnd 4 c).fail "EOF while parsing a string"

/-- Reads a `\u` escape whose four digits are read, pairing a leading surrogate with the
trailing one that must follow. -/
def readUnicodeEscape (c : Cursor) : Except Fail (Char × Cursor) := do
  let (n, c) ← readHex4 c
  if 0xDC00 ≤ n ∧ n ≤ 0xDFFF then c.fail "lone leading surrogate in hex escape"
  else if n < 0xD800 ∨ 0xDBFF < n then .ok (Char.ofNat n, c)
  else
    match c.peek? with
    | none => c.fail "EOF while parsing a string"
    | some '\\' =>
      let c := c.next
      match c.peek? with
      | none => c.fail "EOF while parsing a string"
      | some 'u' =>
        let (n2, c) ← readHex4 c.next
        if 0xDC00 ≤ n2 ∧ n2 ≤ 0xDFFF then
          .ok (Char.ofNat ((((n - 0xD800) * 1024) ||| (n2 - 0xDC00)) + 0x10000), c)
        else c.fail "lone leading surrogate in hex escape"
      | some _ => c.next.fail "unexpected end of hex escape"
    | some _ => c.next.fail "unexpected end of hex escape"

/-- Reads the body of a string after its opening quote, to and past the closing quote. -/
def readStringBody (c : Cursor) : Except Fail (String × Cursor) :=
  go c.rest.length c []
where
  go : Nat → Cursor → List Char → Except Fail (String × Cursor)
  | 0, c, _ => c.fail "EOF while parsing a string"
  | fuel + 1, c, acc =>
    match c.peek? with
    | none => c.fail "EOF while parsing a string"
    | some '"' => .ok (String.ofList acc.reverse, c.next)
    | some '\\' =>
      let c := c.next
      match c.peek? with
      | none => c.fail "EOF while parsing a string"
      | some e =>
        let simple : Option Char := match e with
          | '"' => some '"' | '\\' => some '\\' | '/' => some '/'
          | 'b' => some '\x08' | 'f' => some '\x0c' | 'n' => some '\n'
          | 'r' => some '\r' | 't' => some '\t' | _ => none
        match simple with
        | some ch => go fuel c.next (ch :: acc)
        | none =>
          if e = 'u' then
            match readUnicodeEscape c.next with
            | .ok (ch, c') => go fuel c' (ch :: acc)
            | .error f => .error f
          else c.next.fail "invalid escape"
    | some ch =>
      if ch.toNat < 0x20 then c.next.fail "control character (\\u0000-\\u001F) found while parsing a string"
      else go fuel c.next (ch :: acc)

/-- Skips the body of a string after its opening quote, to and past the closing quote. The
escapes are checked for their form only: a `\u` escape needs four hexadecimal digits, but
what they stand for is not looked at, since a skipped string is never decoded. -/
def skipStringBody (c : Cursor) : Except Fail Cursor :=
  go c.rest.length c
where
  go : Nat → Cursor → Except Fail Cursor
  | 0, c => c.fail "EOF while parsing a string"
  | fuel + 1, c =>
    match c.peek? with
    | none => c.fail "EOF while parsing a string"
    | some '"' => .ok c.next
    | some '\\' =>
      let c := c.next
      match c.peek? with
      | none => c.fail "EOF while parsing a string"
      | some e =>
        if "\"\\/bfnrt".contains e then go fuel c.next
        else if e = 'u' then
          match readHex4 c.next with
          | .ok (_, c') => go fuel c'
          | .error f => .error f
        else c.next.fail "invalid escape"
    | some ch =>
      if ch.toNat < 0x20 then c.fail "control character (\\u0000-\\u001F) found while parsing a string"
      else go fuel c.next

/-- A number as the reader holds it. -/
inductive Number where
  | unsigned (n : Nat)
  | signed (i : Int)
  | double (x : Binary)
deriving Inhabited

/-- The greatest 64-bit unsigned integer. -/
def maxUnsigned : Nat := Nat.pow 2 64 - 1

/-- Whether `a * 10 + d` would exceed `limit`. -/
def overflows (a d limit : Nat) : Bool :=
  a ≥ limit / 10 && (a > limit / 10 || d > limit % 10)

/-- The double that `10 ^ k` rounds to. -/
def powerOfTen (k : Nat) : Binary :=
  Binary.nearest .double false (Nat.pow 10 k) 1

/-- The double of a significand and a decimal exponent, computed as the decoder does: the
significand rounded to a double, then multiplied or divided by powers of ten rounded to
doubles; a product that overflows is out of range. -/
def doubleOfParts (c : Cursor) (pos : Bool) (sig : Nat) (exp : Int) : Except Fail Binary :=
  let neg := !pos
  let f := Binary.nearest .double neg sig 1
  go 4 f exp
where
  go : Nat → Binary → Int → Except Fail Binary
  | 0, f, _ => .ok f
  | fuel + 1, f, exp =>
    let k := exp.natAbs
    if k ≤ 308 then
      if 0 ≤ exp then
        match Binary.mul .double f (powerOfTen k) with
        | .infinite _ => c.fail "number out of range"
        | r => .ok r
      else .ok (Binary.div .double f (powerOfTen k))
    else
      match f with
      | .finite _ 0 _ => .ok f
      | _ =>
        if 0 ≤ exp then c.fail "number out of range"
        else go fuel (Binary.div .double f (powerOfTen 308)) (exp + 308)

/-- Whether a character is a decimal digit. -/
def isDigit (ch : Char) : Bool := '0' ≤ ch && ch ≤ '9'

/-- The value of a decimal digit. -/
def digitValue (ch : Char) : Nat := ch.toNat - 48

/-- Reads the digits of an exponent after `e` and its sign; `positive` is the sign of the
number, `sig` its significand and `start` the decimal exponent before this one. -/
def readExponent (c : Cursor) (positive : Bool) (sig : Nat) (start : Int) :
    Except Fail (Binary × Cursor) :=
  let c := c.next
  let (posExp, c) := match c.peek? with
    | some '+' => (true, c.next)
    | some '-' => (false, c.next)
    | _ => (true, c)
  match c.peek? with
  | none => c.fail eofValue
  | some ch =>
    if !isDigit ch then c.next.fail "invalid number"
    else
      let rec digits : Nat → Cursor → Nat → Except Fail (Binary × Cursor)
        | 0, c, _ => c.fail "invalid number"
        | fuel + 1, c, e =>
          match c.peek? with
          | some d =>
            if isDigit d then
              if overflows e (digitValue d) (Nat.pow 2 31 - 1) then
                -- an exponent too large to hold: zero, or out of range
                if sig ≠ 0 && posExp then c.next.fail "number out of range"
                else
                  let rec skip : Nat → Cursor → Cursor
                    | 0, c => c
                    | fuel + 1, c => match c.peek? with
                      | some x => if isDigit x then skip fuel c.next else c
                      | none => c
                  .ok (.finite (!positive) 0 0, skip c.rest.length c.next)
              else digits fuel c.next (e * 10 + digitValue d)
            else
              let fin : Int := if posExp then start + e else start - e
              (doubleOfParts c positive sig fin).map (·, c)
          | none =>
            let fin : Int := if posExp then start + e else start - e
            (doubleOfParts c positive sig fin).map (·, c)
      digits c.rest.length c.next (digitValue ch)

/-- Reads the fraction after the point; digits past 64 bits of significand are dropped. -/
def readFraction (c : Cursor) (positive : Bool) (sig : Nat) (before : Int) :
    Except Fail (Binary × Cursor) :=
  go c.rest.length c.next sig 0 false
where
  go : Nat → Cursor → Nat → Int → Bool → Except Fail (Binary × Cursor)
  | 0, c, _, _, _ => c.fail "invalid number"
  | fuel + 1, c, sig, after, dropping =>
    match c.peek? with
    | some d =>
      if isDigit d then
        if dropping || overflows sig (digitValue d) maxUnsigned then go fuel c.next sig after true
        else go fuel c.next (sig * 10 + digitValue d) (after - 1) false
      else if after = 0 && !dropping then c.failPeek "invalid number"
      else if d = 'e' || d = 'E' then readExponent c positive sig (before + after)
      else (doubleOfParts c positive sig (before + after)).map (·, c)
    | none =>
      if after = 0 && !dropping then c.failPeek eofValue
      else (doubleOfParts c positive sig (before + after)).map (·, c)

/-- Reads what follows the integer digits: a fraction, an exponent, or nothing. -/
def readNumberTail (c : Cursor) (positive : Bool) (sig : Nat) : Except Fail (Number × Cursor) :=
  match c.peek? with
  | some '.' => (readFraction c positive sig 0).map fun (x, c) => (.double x, c)
  | some 'e' | some 'E' => (readExponent c positive sig 0).map fun (x, c) => (.double x, c)
  | _ =>
    if positive then .ok (.unsigned sig, c)
    else if sig = 0 ∨ sig > Nat.pow 2 63 then .ok (.double (Binary.nearest .double true sig 1), c)
    else .ok (.signed (-(sig : Int)), c)

/-- Reads the digits of an integer longer than 64 bits: the extra digits only raise the
exponent. -/
def readLongInteger (c : Cursor) (positive : Bool) (sig : Nat) : Except Fail (Number × Cursor) :=
  go c.rest.length c 0
where
  go : Nat → Cursor → Int → Except Fail (Number × Cursor)
  | 0, c, _ => c.fail "invalid number"
  | fuel + 1, c, extra =>
    match c.peek? with
    | some d =>
      if isDigit d then go fuel c.next (extra + 1)
      else if d = '.' then (readFraction c positive sig extra).map fun (x, c) => (.double x, c)
      else if d = 'e' || d = 'E' then (readExponent c positive sig extra).map fun (x, c) => (.double x, c)
      else (doubleOfParts c positive sig extra).map fun x => (.double x, c)
    | none => (doubleOfParts c positive sig extra).map fun x => (.double x, c)

/-- Reads a number after its sign (`positive` tells which). -/
def readNumber (c : Cursor) (positive : Bool) : Except Fail (Number × Cursor) :=
  match c.peek? with
  | none => c.fail eofValue
  | some '0' =>
    let c := c.next
    match c.peek? with
    | some d => if isDigit d then c.failPeek "invalid number" else readNumberTail c positive 0
    | none => readNumberTail c positive 0
  | some ch =>
    if isDigit ch then
      let rec digits : Nat → Cursor → Nat → Except Fail (Number × Cursor)
        | 0, c, _ => c.fail "invalid number"
        | fuel + 1, c, sig =>
          match c.peek? with
          | some d =>
            if isDigit d then
              if overflows sig (digitValue d) maxUnsigned then readLongInteger c positive sig
              else digits fuel c.next (sig * 10 + digitValue d)
            else readNumberTail c positive sig
          | none => readNumberTail c positive sig
      digits c.rest.length c.next (digitValue ch)
    else c.next.fail "invalid number"

/-- The double style of the decoder's messages: positional from `1e-5` up to `1e16`, a plus
sign on a positive exponent. -/
def doubleStyle : DecimalStyle := ⟨16, -5, true⟩

/-- How a number is named in a failure of the value's type. -/
def Number.unexpected : Number → String
  | .unsigned n => "integer `" ++ toString n ++ "`"
  | .signed i => "integer `" ++ toString i ++ "`"
  | .double x => "floating point `" ++ (x.shortest .double).render doubleStyle x.isNeg ++ "`"

/-- Reads the value ahead to name it in a failure of its type: `expected` says what was
wanted. The failure is placed after what was read. -/
def wrongType {α : Type} (c : Cursor) (expected : String) : Except Fail α :=
  let named (what : String) (c' : Cursor) : Except Fail α :=
    .error ⟨"invalid type: " ++ what ++ ", expected " ++ expected, some c'.here⟩
  match c.peek? with
  | some 'n' => match readWord ['u', 'l', 'l'] c.next with
    | .ok c' => named "null" c'
    | .error f => .error f
  | some 't' => match readWord ['r', 'u', 'e'] c.next with
    | .ok c' => named "boolean `true`" c'
    | .error f => .error f
  | some 'f' => match readWord ['a', 'l', 's', 'e'] c.next with
    | .ok c' => named "boolean `false`" c'
    | .error f => .error f
  | some '-' => match readNumber c.next false with
    | .ok (n, c') => named n.unexpected c'
    | .error f => .error f
  | some '"' => match readStringBody c.next with
    | .ok (s, c') => named ("string " ++ Text.debugQuote s) c'
    | .error f => .error f
  | some '[' => named "sequence" c
  | some '{' => named "map" c
  | some ch =>
    if isDigit ch then
      match readNumber c true with
      | .ok (n, c') => named n.unexpected c'
      | .error f => .error f
    else c.failPeek "expected value"
  | none => c.failPeek "expected value"

/-- An open bracket of a value being skipped. -/
inductive Frame where
  | array
  | object
deriving DecidableEq, Inhabited

/-- Skips the digits of a number whose value is not wanted. -/
def skipNumber (c : Cursor) : Except Fail Cursor :=
  let skipDigits (c : Cursor) : Cursor :=
    let rec go : Nat → Cursor → Cursor
      | 0, c => c
      | fuel + 1, c => match c.peek? with
        | some d => if isDigit d then go fuel c.next else c
        | none => c
    go c.rest.length c
  let exponent (c : Cursor) : Except Fail Cursor :=
    let c := c.next
    let c := match c.peek? with | some '+' | some '-' => c.next | _ => c
    match c.peek? with
    | some d => if isDigit d then .ok (skipDigits c.next) else c.next.fail "invalid number"
    | none => c.fail "invalid number"
  let tail (c : Cursor) : Except Fail Cursor :=
    match c.peek? with
    | some '.' =>
      let c := c.next
      match c.peek? with
      | some d =>
        if isDigit d then
          let c := skipDigits c
          match c.peek? with
          | some 'e' | some 'E' => exponent c
          | _ => .ok c
        else c.failPeek "invalid number"
      | none => c.failPeek "invalid number"
    | some 'e' | some 'E' => exponent c
    | _ => .ok c
  match c.peek? with
  | some '0' =>
    let c := c.next
    match c.peek? with
    | some d => if isDigit d then c.failPeek "invalid number" else tail c
    | none => tail c
  | some d => if isDigit d && d ≠ '0' then tail (skipDigits c.next) else c.next.fail "invalid number"
  | none => c.fail "invalid number"

/-- Skips one value ahead, checking that it is well formed. -/
def skipValue (c : Cursor) : Except Fail Cursor :=
  outer (c.rest.length + 1) c []
where
  outer : Nat → Cursor → List Frame → Except Fail Cursor
  | 0, c, _ => c.fail eofValue
  | fuel + 1, c, stack =>
    let c := c.skipBlanks
    match c.peek? with
    | none => c.failPeek eofValue
    | some ch =>
      let scalar : Option (Except Fail Cursor) :=
        match ch with
        | 'n' => some (readWord ['u', 'l', 'l'] c.next)
        | 't' => some (readWord ['r', 'u', 'e'] c.next)
        | 'f' => some (readWord ['a', 'l', 's', 'e'] c.next)
        | '-' => some (skipNumber c.next)
        | '"' => some (skipStringBody c.next)
        | _ => if isDigit ch then some (skipNumber c) else none
      match scalar with
      | some (.error f) => .error f
      | some (.ok c) => closing fuel c stack true
      | none =>
        if ch = '[' then closing fuel c.next (.array :: stack) false
        else if ch = '{' then closing fuel c.next (.object :: stack) false
        else c.failPeek "expected value"
  closing : Nat → Cursor → List Frame → Bool → Except Fail Cursor
  | 0, c, _, _ => c.fail eofValue
  | fuel + 1, c, stack, done =>
    match stack with
    | [] => .ok c
    | frame :: outerFrames =>
      let c := c.skipBlanks
      match c.peek? with
      | none => c.failPeek (if frame = .array then "EOF while parsing a list" else "EOF while parsing an object")
      | some ',' =>
        if done then member fuel c.next stack
        else if frame = .array then outer fuel c stack
        else member fuel c stack
      | some ']' =>
        if frame = .array then closing fuel c.next outerFrames true
        else if done then c.failPeek "expected `,` or `\x7d`" else member fuel c stack
      | some '}' =>
        if frame = .object then closing fuel c.next outerFrames true
        else if done then c.failPeek "expected `,` or `]`" else outer fuel c stack
      | some _ =>
        if done then c.failPeek (if frame = .array then "expected `,` or `]`" else "expected `,` or `\x7d`")
        else if frame = .array then outer fuel c stack else member fuel c stack
  member : Nat → Cursor → List Frame → Except Fail Cursor
  | 0, c, _ => c.fail eofValue
  | fuel + 1, c, stack =>
    match stack with
    | .object :: _ =>
      let c := c.skipBlanks
      match c.peek? with
      | some '"' =>
        match skipStringBody c.next with
        | .error f => .error f
        | .ok c =>
          let c := c.skipBlanks
          match c.peek? with
          | some ':' => outer fuel c.next stack
          | some _ => c.failPeek "expected `:`"
          | none => c.failPeek "EOF while parsing an object"
      | some _ => c.failPeek "key must be a string"
      | none => c.failPeek "EOF while parsing an object"
    | _ => outer fuel c stack

end Thesaurus.Json
