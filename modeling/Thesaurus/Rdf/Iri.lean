/-!
Internationalized resource identifiers. `Iri.parse` checks that a text is an absolute IRI —
a scheme, an optional authority, a path, an optional query and an optional fragment, each
made of the characters RFC 3987 allows or of percent escapes — and `Iri.resolve` resolves a
reference against a base IRI by the algorithm of RFC 3986, section 5.2. Only the paths that
are resolved against the base's authority lose their dot segments: a reference with its own
scheme or authority is kept as written. The checks run from left to right and stop at the
first character that is not allowed, so the error names that character.
-/

namespace Thesaurus.Rdf

/-- Why a text is not an IRI. -/
inductive IriError where
  | noScheme
  | hostChar (c : Char)
  | hostIp
  | portChar (c : Char)
  | codePoint (c : Char)
  | percent (cs : List Char)
deriving DecidableEq, Repr

/-- The text of an IRI error. -/
def IriError.text : IriError → String
  | .noScheme => "No scheme found in an absolute IRI"
  | .hostChar c => "Invalid character '" ++ c.toString ++ "' in host"
  | .hostIp => "Invalid host IP (invalid IPv6 address syntax)"
  | .portChar c => "Invalid character '" ++ c.toString ++ "'"
  | .codePoint c => "Invalid IRI code point '" ++ c.toString ++ "'"
  | .percent cs => "Invalid IRI percent encoding '" ++ String.ofList cs ++ "'"

namespace Iri

/-- Whether a character is an ASCII hexadecimal digit. -/
def isHex (c : Char) : Bool :=
  c.isDigit || ('a' ≤ c && c ≤ 'f') || ('A' ≤ c && c ≤ 'F')

/-- Whether a code point lies in one of the ranges of non-ASCII characters an IRI allows
outside its query (`ucschar`). -/
def isWide (n : Nat) : Bool :=
  (0xA0 ≤ n && n ≤ 0xD7FF) || (0xF900 ≤ n && n ≤ 0xFDCF) || (0xFDF0 ≤ n && n ≤ 0xFFEF) ||
  (0x10000 ≤ n && n < 0xE0000 && n % 0x10000 ≤ 0xFFFD) || (0xE1000 ≤ n && n ≤ 0xEFFFD)

/-- Whether a character may stand unescaped in an IRI outside its query: letters, digits,
the unreserved and reserved marks, and the wide characters. -/
def isIriChar (c : Char) : Bool :=
  c.isAlphanum || "!$&'()*+,-./:;=?@_~".contains c || isWide c.toNat

/-- Whether a character may stand unescaped in a query, which also allows private-use
characters. -/
def isQueryChar (c : Char) : Bool :=
  isIriChar c || (0xE000 ≤ c.toNat && c.toNat ≤ 0xF8FF) ||
    (0xF0000 ≤ c.toNat && c.toNat ≤ 0xFFFFD) || (0x100000 ≤ c.toNat && c.toNat ≤ 0x10FFFD)

/-- Reads characters allowed by `ok`, and percent escapes, up to the first character that
`stop` accepts: the text read and the rest, which starts at that character. -/
def scan (ok stop : Char → Bool) : List Char → Except IriError (List Char × List Char)
  | [] => .ok ([], [])
  | c :: cs =>
    if stop c then .ok ([], c :: cs)
    else if c == '%' then
      match cs with
      | a :: b :: rest =>
        if isHex a && isHex b then
          (scan ok stop rest).map fun r => ('%' :: a :: b :: r.1, r.2)
        else .error (.percent ['%', a, b])
      | [a] => .error (.percent ['%', a])
      | [] => .error (.percent ['%'])
    else if ok c then (scan ok stop cs).map fun r => (c :: r.1, r.2)
    else .error (.codePoint c)

/-- The scheme at the start of a text and the rest after its colon, if the text starts
with a letter followed by letters, digits, `+`, `-` or `.` up to a colon. -/
def scheme? (cs : List Char) : Option (List Char × List Char) :=
  match cs with
  | c :: _ =>
    if c.isAlpha then
      let name := cs.takeWhile fun d => d.isAlphanum || d == '+' || d == '-' || d == '.'
      match cs.drop name.length with
      | ':' :: rest => some (name, rest)
      | _ => none
    else none
  | [] => none

/-- Whether a character is a digit in a radix of at most sixteen. -/
def isDigitIn (radix : Nat) (c : Char) : Bool :=
  if radix == 16 then isHex c else c.isDigit && c.toNat - 48 < radix

/-- Reads a number of at most `width` digits in a radix, at most `bound`: what follows it.
Without `zeros` a number of more than one digit may not start with a zero. -/
def number (radix width bound : Nat) (zeros : Bool) (cs : List Char) : Option (List Char) :=
  let digits := cs.takeWhile (isDigitIn radix)
  let value := digits.foldl (fun v c => radix * v + (if c.isDigit then c.toNat - 48 else c.toLower.toNat - 87)) 0
  if digits.isEmpty || digits.length > width || value > bound then none
  else if !zeros && digits.head? == some '0' && digits.length > 1 then none
  else some (cs.drop digits.length)

/-- Reads an IPv4 address: four decimal bytes separated by dots. -/
def ipv4 (cs : List Char) : Option (List Char) := do
  let byte (cs : List Char) := number 10 3 255 false cs
  let dotByte (cs : List Char) : Option (List Char) :=
    match cs with
    | '.' :: rest => byte rest
    | _ => none
  dotByte (← dotByte (← dotByte (← byte cs)))

/-- Reads the `i`-th piece of a run of IPv6 groups, after a colon unless it is the first. -/
def piece (i : Nat) (read : List Char → Option (List Char)) (cs : List Char) : Option (List Char) :=
  if i == 0 then read cs
  else
    match cs with
    | ':' :: rest => read rest
    | _ => none

/-- Reads up to `limit` colon-separated IPv6 groups of one to four hexadecimal digits, the
last two of which may be an IPv4 address: how many groups were read, whether an IPv4
address ended them, and what follows. -/
def groups (limit : Nat) : Nat → Nat → List Char → Nat × Bool × List Char
  | 0, i, cs => (i, false, cs)
  | fuel + 1, i, cs =>
    if limit ≤ i then (i, false, cs)
    else
      match (if i + 1 < limit then piece i ipv4 cs else none) with
      | some rest => (i + 2, true, rest)
      | none =>
        match piece i (number 16 4 0xFFFF true) cs with
        | some rest => groups limit fuel (i + 1) rest
        | none => (i, false, cs)

/-- Whether a text is an IPv6 address: eight groups, or fewer around one `::` that stands for
at least one group of zeros; an IPv4 address may take the place of the last two groups. -/
def isIpv6 (cs : List Char) : Bool :=
  let (head, withIpv4, rest) := groups 8 9 0 cs
  if head == 8 then rest.isEmpty
  else if withIpv4 then false
  else
    match rest with
    | ':' :: ':' :: more => (groups (8 - (head + 1)) 9 0 more).2.2.isEmpty
    | _ => false

/-- Whether a character is unreserved or a sub-delimiter, in ASCII. -/
def isPlainHostChar (c : Char) : Bool := c.isAlphanum || "-._~!$&'()*+,;=".contains c

/-- Checks a future IP literal, the text between the brackets starting with `v`: a
hexadecimal version, a dot, and a non-empty run of unreserved characters, sub-delimiters and
colons. The fault names the first character out of place, or the closing bracket when the
text ends too early. -/
def ipFuture (cs : List Char) : Except IriError Unit :=
  let version := cs.drop 1 |>.takeWhile isHex
  match cs.drop (1 + version.length) with
  | [] => .error (.hostChar ']')
  | '.' :: rest =>
    if version.isEmpty then .error (.hostChar (rest.headD ']'))
    else if rest.isEmpty then .error (.hostChar ']')
    else
      match rest.find? (fun c => !(isPlainHostChar c || c == ':')) with
      | some c => .error (.hostChar c)
      | none => .ok ()
  | c :: _ => .error (.hostChar c)

/-- The parts of an IRI, without their delimiters. -/
structure Parts where
  scheme : Option String
  authority : Option String
  path : String
  query : Option String
  fragment : Option String
deriving DecidableEq, Repr

/-- The text of an IRI from its parts. -/
def Parts.text (p : Parts) : String :=
  (p.scheme.map (· ++ ":")).getD "" ++ (p.authority.map ("//" ++ ·)).getD "" ++ p.path ++
    (p.query.map ("?" ++ ·)).getD "" ++ (p.fragment.map ("#" ++ ·)).getD ""

/-- Reads the port after a colon: digits up to `/`, `?`, `#` or the end. -/
def port (cs : List Char) : Except IriError (List Char × List Char) :=
  let digits := cs.takeWhile Char.isDigit
  match cs.drop digits.length with
  | [] => .ok (digits, [])
  | c :: rest =>
    if c == '/' || c == '?' || c == '#' then .ok (digits, c :: rest) else .error (.portChar c)

/-- Whether a character ends an authority. -/
def endsAuthority (c : Char) : Bool := c == '/' || c == '?' || c == '#'

/-- Reads the host and port of an authority: the text read and the rest. A host name is made
of unreserved characters, sub-delimiters and percent escapes; an `@` there is out of place. -/
def host (cs : List Char) : Except IriError (List Char × List Char) :=
  match cs with
  | '[' :: inner =>
    let address := inner.takeWhile (· != ']')
    match inner.drop address.length with
    | ']' :: after => do
      if address.head? == some 'v' || address.head? == some 'V' then ipFuture address
      else if !isIpv6 address then .error .hostIp
      let bracketed := '[' :: address ++ [']']
      match after with
      | [] => .ok (bracketed, [])
      | ':' :: rest => (port rest).map fun r => (bracketed ++ ':' :: r.1, r.2)
      | c :: rest =>
        if endsAuthority c then .ok (bracketed, c :: rest) else .error (.hostChar c)
    | _ => .error (.hostChar '[')
  | _ => do
    let (name, rest) ← scan (fun c => isIriChar c && c != '@') (fun c => c == ':' || endsAuthority c) cs
    match rest with
    | ':' :: more =>
      let (digits, after) ← port more
      pure (name ++ ':' :: digits, after)
    | _ => pure (name, rest)

/-- Reads an authority after `//`: an optional user part ending in `@`, then the host and
port. The user part is checked as far as it goes even when no `@` follows. -/
def authority (cs : List Char) : Except IriError (List Char × List Char) := do
  let (user, rest) ← scan isIriChar (fun c => c == '@' || c == '[' || endsAuthority c) cs
  match rest with
  | '@' :: more =>
    let (h, after) ← host more
    pure (user ++ '@' :: h, after)
  | _ => host cs

/-- Reads a path, an optional query and an optional fragment. -/
def tail (cs : List Char) : Except IriError (String × Option String × Option String) := do
  let (path, rest) ← scan isIriChar (fun c => c == '?' || c == '#') cs
  let (query, rest) ← match rest with
    | '?' :: more => do
      let (q, after) ← scan isQueryChar (· == '#') more
      pure (some (String.ofList q), after)
    | _ => pure (none, rest)
  let fragment ← match rest with
    | '#' :: more => do
      let (f, _) ← scan isIriChar (fun _ => false) more
      pure (some (String.ofList f))
    | _ => pure none
  pure (String.ofList path, query, fragment)

/-- Reads what follows a scheme, or a whole relative reference: an optional authority after
`//`, then the path, query and fragment. -/
def hierarchy (cs : List Char) : Except IriError (Option String × String × Option String × Option String) := do
  match cs with
  | '/' :: '/' :: rest =>
    let (auth, after) ← authority rest
    let (path, query, fragment) ← tail after
    pure (some (String.ofList auth), path, query, fragment)
  | _ =>
    let (path, query, fragment) ← tail cs
    pure (none, path, query, fragment)

/-- The parts of a reference, absolute or relative. A reference starting with a colon has
no scheme and is refused. In a relative reference that does not start with a slash, the
first segment may not hold a colon, which would make it read as a scheme. -/
def reference (cs : List Char) : Except IriError Parts :=
  match cs with
  | ':' :: _ => .error .noScheme
  | _ =>
    match scheme? cs with
    | some (name, rest) => do
      let (auth, path, query, fragment) ← hierarchy rest
      pure ⟨some (String.ofList name), auth, path, query, fragment⟩
    | none => do
      if cs.head? != some '/' then
        discard <| scan (fun c => isIriChar c && c != ':') (fun c => c == '/' || c == '?' || c == '#') cs
      let (auth, path, query, fragment) ← hierarchy cs
      pure ⟨none, auth, path, query, fragment⟩

/-- The parts of an absolute IRI. -/
def parts (text : String) : Except IriError Parts := do
  let p ← reference text.toList
  if p.scheme.isNone then .error .noScheme else pure p

/-- Checks that a text is an absolute IRI, and returns it. -/
def parse (text : String) : Except IriError String :=
  (parts text).map fun _ => text

/-- Moves the first segment of `input` (with its leading slash) to the output, or applies
one of the dot-segment rules of RFC 3986, section 5.2.4; `fuel` bounds the steps. -/
def dropDots : Nat → List Char → List Char → List Char
  | 0, _, out => out
  | _, [], out => out
  | fuel + 1, input, out =>
    match input with
    | '.' :: '.' :: '/' :: rest => dropDots fuel rest out
    | '.' :: '/' :: rest => dropDots fuel rest out
    | '/' :: '.' :: '/' :: rest => dropDots fuel ('/' :: rest) out
    | ['/', '.'] => dropDots fuel ['/'] out
    | '/' :: '.' :: '.' :: '/' :: rest => dropDots fuel ('/' :: rest) (popSegment out)
    | ['/', '.', '.'] => dropDots fuel ['/'] (popSegment out)
    | ['.'] => out
    | ['.', '.'] => out
    | [] => out
    | c :: rest =>
      let seg := rest.takeWhile (· != '/')
      dropDots fuel (rest.drop seg.length) (out ++ c :: seg)
where
  popSegment (out : List Char) : List Char :=
    let kept := (out.reverse.dropWhile (· != '/')).drop 1
    kept.reverse

/-- A path with its dot segments removed. -/
def removeDots (path : String) : String :=
  String.ofList (dropDots (path.length + 1) path.toList [])

/-- The path of a relative reference merged with the base path: the base path up to its
last slash, or a single slash when the base has an authority and an empty path. -/
def merge (base : Parts) (path : String) : String :=
  if base.authority.isSome && base.path.isEmpty then "/" ++ path
  else
    let kept := (base.path.toList.reverse.dropWhile (· != '/')).reverse
    String.ofList kept ++ path

/-- A path of a target without an authority does not start with two slashes, which would
read as an authority: the extra slashes are dropped. -/
def rooted (authority : Option String) (path : String) : String :=
  if authority.isNone && path.startsWith "//" then "/" ++ String.ofList (path.toList.dropWhile (· == '/'))
  else path

/-- The target of a reference resolved against a base. A reference with a scheme or an
authority is taken as it is written; a path resolved against the base's authority has its
dot segments removed. -/
def target (base r : Parts) : Parts :=
  if r.scheme.isSome then r
  else if r.authority.isSome then { r with scheme := base.scheme }
  else if r.path.isEmpty then
    ⟨base.scheme, base.authority, base.path, if r.query.isSome then r.query else base.query, r.fragment⟩
  else if r.path.startsWith "/" then
    ⟨base.scheme, base.authority, rooted base.authority (removeDots r.path), r.query, r.fragment⟩
  else ⟨base.scheme, base.authority, rooted base.authority (removeDots (merge base r.path)), r.query, r.fragment⟩

/-- A reference resolved against an absolute base IRI. -/
def resolve (base text : String) : Except IriError String := do
  let b ← parts base
  let r ← reference text.toList
  pure (target b r).text

/-- The path of an absolute IRI, empty if it cannot be read. -/
def pathOf (iri : String) : String :=
  match parts iri with
  | .ok p => p.path
  | .error _ => ""

end Iri

end Thesaurus.Rdf
