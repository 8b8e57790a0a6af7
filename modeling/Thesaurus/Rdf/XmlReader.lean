import Thesaurus.Rdf.Iri
import Thesaurus.Rdf.Language
import Thesaurus.Rdf.Xml
import Thesaurus.Unicode.Blank

/-!
The RDF/XML grammar over the events of `Xml.read`. Elements alternate between node elements,
which name a resource (by `rdf:about`, `rdf:ID`, `rdf:nodeID`, or a fresh blank node) and
may give it a type, and property elements, whose object is a nested node element, a resource
named by `rdf:resource` or `rdf:nodeID`, or the text they hold. A property element's triple
is emitted at its end tag; a node element's type triples and attribute properties at its
start tag. Names are resolved through the XML namespaces in scope, and the language and base
IRI are inherited from the enclosing elements.

The triples of one event are delivered last emitted first, and reading stops at the first
fault.
-/

namespace Thesaurus.Rdf

namespace XmlReader

/-- An IRI of the RDF vocabulary. -/
def rdfName (n : String) : String := Vocab.rdf ++ n

/-- The element names that are neither node nor property elements. -/
def reservedElements : List String :=
  ["about", "aboutEach", "aboutEachPrefix", "bagID", "datatype", "ID", "li", "nodeID",
    "parseType", "RDF", "resource"].map rdfName

/-- The attribute names that may not appear. -/
def reservedAttributes : List String :=
  ["aboutEach", "aboutEachPrefix", "li", "RDF", "resource"].map rdfName

/-- The object of a property element: a node, or the text it holds. -/
inductive Content where
  | node (t : Term)
  | text (s : String)
deriving Inhabited

/-- The element being read, innermost first on the stack. -/
inductive State where
  | doc (base : Option String)
  | rdf (base lang : Option String)
  | node (base lang : Option String) (subject : Term) (li : Nat)
  | property (iri : String) (base lang : Option String) (subject : Term) (object : Option Content)
      (id datatype : Option String)
  | collection (iri : String) (base lang : Option String) (subject : Term) (items : List Term)
      (id : Option String)
  | xmlLiteral (iri : String) (base lang : Option String) (subject : Term) (id : Option String)
      (content : String) (emit : Bool)
deriving Inhabited

/-- The base IRI in effect in a state. -/
def State.base : State → Option String
  | .doc b | .rdf b _ | .node b _ _ _ | .property _ b _ _ _ _ _ | .collection _ b _ _ _ _
  | .xmlLiteral _ b _ _ _ _ _ => b

/-- The language in effect in a state. -/
def State.lang : State → Option String
  | .doc _ => none
  | .rdf _ l | .node _ l _ _ | .property _ _ l _ _ _ _ | .collection _ _ l _ _ _
  | .xmlLiteral _ _ l _ _ _ _ => l

/-- The reader: the elements open, the namespace declarations of each, the entities defined,
the `rdf:ID` values used, how many blank nodes have been made, and how deep inside an XML
literal it is. -/
structure Reader where
  states : List State
  scopes : List (List (String × String))
  entities : List (String × String)
  ids : List String
  fresh : Nat
  literalDepth : Nat
deriving Inhabited

/-- The fault of an IRI that cannot be read. -/
def iriFault (iri : String) (e : IriError) : String :=
  "error while parsing IRI '" ++ iri ++ "': " ++ e.text

/-- An IRI checked as absolute. -/
def parseIri (iri : String) : Except String String :=
  (Iri.parse iri).mapError (iriFault iri)

/-- A reference resolved against the base, or checked as absolute without one. -/
def resolveIri (base : Option String) (iri : String) : Except String String :=
  match base with
  | some b => (Iri.resolve b iri).mapError (iriFault iri)
  | none => parseIri iri

/-- Whether a character may start an XML name. -/
def isNameStart (c : Char) : Bool :=
  let n := c.toNat
  c == ':' || c == '_' || c.isAlpha || (0xC0 ≤ n && n ≤ 0xD6) || (0xD8 ≤ n && n ≤ 0xF6) ||
    (0xF8 ≤ n && n ≤ 0x2FF) || (0x370 ≤ n && n ≤ 0x37D) || (0x37F ≤ n && n ≤ 0x1FFF) ||
    (0x200C ≤ n && n ≤ 0x200D) || (0x2070 ≤ n && n ≤ 0x218F) || (0x2C00 ≤ n && n ≤ 0x2FEF) ||
    (0x3001 ≤ n && n ≤ 0xD7FF) || (0xF900 ≤ n && n ≤ 0xFDCF) || (0xFDF0 ≤ n && n ≤ 0xFFFD) ||
    (0x10000 ≤ n && n ≤ 0xEFFFF)

/-- Whether a character may continue an XML name. -/
def isNameChar (c : Char) : Bool :=
  let n := c.toNat
  isNameStart c || c == '-' || c == '.' || c.isDigit || n == 0xB7 || (0x300 ≤ n && n ≤ 0x36F) ||
    (0x203F ≤ n && n ≤ 0x2040)

/-- Whether a text is an XML name without a colon. -/
def isNcName (s : String) : Bool :=
  match s.toList with
  | c :: cs => isNameStart c && cs.all isNameChar && !s.toList.contains ':'
  | [] => false

/-- The namespace declarations among a start tag's attributes, with their values as written;
the default namespace is declared under the empty prefix. -/
def declarations (attrs : List (String × String)) : List (String × String) :=
  attrs.filterMap fun (k, v) =>
    if k == "xmlns" then some ("", v)
    else if k.startsWith "xmlns:" then some (String.ofList (k.toList.drop 6), v)
    else none

/-- The namespace a prefix is bound to in the scopes, empty when the declaration in force
unbinds it; `xml` and `xmlns` are always bound. -/
def lookupPrefix (scopes : List (List (String × String))) (p : String) : Option String :=
  if p == "xml" then some "http://www.w3.org/XML/1998/namespace"
  else if p == "xmlns" then some "http://www.w3.org/2000/xmlns/"
  else scopes.findSome? (·.lookup p)

/-- The fault of a name that no namespace is bound to. -/
def unboundName : String := "XML namespaces are required in RDF/XML"

/-- The IRI a qualified name stands for: its namespace followed by its local name, with the
references in them decoded. A name without a prefix takes the default namespace when
`useDefault`; a prefix is the text before the first colon, and an empty prefix is never
declared. -/
def resolveName (r : Reader) (qname : String) (useDefault : Bool) : Except String String :=
  let bound (ns localName : String) : Except String String :=
    if ns.isEmpty then .error unboundName else Xml.unescape r.entities (ns ++ localName)
  match qname.splitOn ":" with
  | [localName] =>
    match (if useDefault then lookupPrefix r.scopes "" else none) with
    | some ns => bound ns localName
    | none => .error unboundName
  | p :: rest =>
    match (if p.isEmpty then none else lookupPrefix r.scopes p) with
    | some ns => bound ns (":".intercalate rest)
    | none => .error ("Unknown prefix " ++ p ++ ":")
  | [] => .error unboundName

/-- A new unlabelled blank node. -/
def Reader.freshNode (r : Reader) : Reader × Term :=
  ({ r with fresh := r.fresh + 1 }, .blank (freshLabel r.fresh))

/-- The triples that reify a statement under the IRI `id`. -/
def reify (t : Triple) (id : String) : List Triple :=
  [⟨.iri id, Vocab.type, .iri (rdfName "Statement")⟩, ⟨.iri id, .iri (rdfName "subject"), t.subject⟩,
    ⟨.iri id, .iri (rdfName "predicate"), t.predicate⟩, ⟨.iri id, .iri (rdfName "object"), t.object⟩]

/-- A triple, reified first under `id` if given. -/
def withReification (t : Triple) (id : Option String) : List Triple :=
  (match id with
    | some i => reify t i
    | none => []) ++ [t]

/-- The literal of a text with a language or a datatype; the datatype wins. -/
def literal (text : String) (lang datatype : Option String) : Term :=
  match datatype with
  | some d => .literal text none (some d)
  | none => .literal text lang none

/-- The triples of the attributes that state properties of a subject. -/
def propertyTriples (subject : Term) (props : List (String × String)) (lang : Option String) : List Triple :=
  props.map fun (p, v) => ⟨subject, .iri p, .literal v lang none⟩

/-- What a start tag's attributes say. -/
structure Attributes where
  lang : Option String
  base : Option String
  id : Option String
  nodeId : Option String
  about : Option String
  resource : Option String
  datatype : Option String
  parseType : Option String
  type : Option String
  props : List (String × String)
deriving Inhabited

/-- Reads a start tag's attributes in order. Values are decoded when they are used; the
IRIs of `rdf:about`, `rdf:resource`, `rdf:datatype` and `rdf:type` are kept as written. -/
def readAttributes (r : Reader) : List (String × String) → Attributes → Except String Attributes
  | [], a => .ok { a with props := a.props.reverse }
  | (k, raw) :: rest, a => do
    let decode : Except String String := Xml.unescape r.entities raw
    if k.startsWith "xml" then
      if k == "xml:lang" then
        let tag := (← decode).map Char.toLower
        match Language.check tag with
        | .ok t => readAttributes r rest { a with lang := some t }
        | .error e => .error ("error while parsing language tag '" ++ tag ++ "': " ++ e)
      else if k == "xml:base" then
        let b ← parseIri (← decode)
        readAttributes r rest { a with base := some b }
      else readAttributes r rest a
    else
      let name ← resolveName r k false
      if name == rdfName "ID" then
        let value ← decode
        if !isNcName value then .error (value ++ " is not a valid rdf:ID value")
        else readAttributes r rest { a with id := some ("#" ++ value) }
      else if name == rdfName "bagID" then
        let value ← decode
        if !isNcName value then .error (value ++ " is not a valid rdf:bagID value")
        else readAttributes r rest a
      else if name == rdfName "nodeID" then
        let value ← decode
        if !isNcName value then .error (value ++ " is not a valid rdf:nodeID value")
        else readAttributes r rest { a with nodeId := some value }
      else if name == rdfName "about" then readAttributes r rest { a with about := some raw }
      else if name == rdfName "resource" then readAttributes r rest { a with resource := some raw }
      else if name == rdfName "datatype" then readAttributes r rest { a with datatype := some raw }
      else if name == rdfName "parseType" then readAttributes r rest { a with parseType := some raw }
      else if name == rdfName "type" then readAttributes r rest { a with type := some raw }
      else if reservedAttributes.contains name then .error (name ++ " is not a valid attribute")
      else
        let p ← parseIri name
        let value ← decode
        readAttributes r rest { a with props := (p, value) :: a.props }

/-- An IRI attribute as written, decoded and resolved against the base, if given. -/
def resolveRaw (r : Reader) (base : Option String) : Option String → Except String (Option String)
  | some raw => do
    let v ← Xml.unescape r.entities raw
    (resolveIri base v).map some
  | none => .ok none

/-- A reference after resolution against the base, if given. -/
def resolveOpt (base : Option String) : Option String → Except String (Option String)
  | some v => (resolveIri base v).map some
  | none => .ok none

/-- Opens a node element: its subject, type triples and attribute properties. -/
def nodeElement (r : Reader) (iri : String) (a : Attributes) (id about type : Option String) :
    Except String (Reader × State × List Triple) := do
  let (r, subject) ← match id, a.nodeId, about with
    | some i, none, none => pure (r, Term.iri i)
    | none, some n, none => pure (r, Term.blank n)
    | none, none, some ab => pure (r, Term.iri ab)
    | none, none, none => pure r.freshNode
    | some _, some _, _ => .error "Not both rdf:ID and rdf:nodeID could be set at the same time"
    | _, some _, some _ => .error "Not both rdf:nodeID and rdf:resource could be set at the same time"
    | some _, _, some _ => .error "Not both rdf:ID and rdf:resource could be set at the same time"
  let typeTriples := match type with
    | some t => [⟨subject, Vocab.type, .iri t⟩]
    | none => []
  let elementType := if iri == rdfName "Description" then [] else [⟨subject, Vocab.type, .iri iri⟩]
  pure (r, .node a.base a.lang subject 0, propertyTriples subject a.props a.lang ++ typeTriples ++ elementType)

/-- Reads a start tag inside an XML literal: it is written out as it stands. -/
def literalStart (r : Reader) (qname : String) (attrs : List (String × String)) : Reader :=
  match r.states with
  | .xmlLiteral iri base lang subject id content emit :: rest =>
    let shown := String.join (attrs.map fun (k, v) => " " ++ k ++ "=\"" ++ v ++ "\"")
    let st := State.xmlLiteral iri base lang subject id (content ++ "<" ++ qname ++ shown ++ ">") emit
    { r with states := st :: rest, literalDepth := r.literalDepth + 1 }
  | _ => r

/-- Whether the innermost element holds an XML literal. -/
def inLiteral (r : Reader) : Bool :=
  match r.states with
  | .xmlLiteral .. :: _ => true
  | _ => false

/-- Reads a start tag outside an XML literal. -/
def startTag (r : Reader) (qname : String) (attrs : List (String × String)) :
    Except String (Reader × List Triple) := do
  let tagName ← resolveName r qname true
  let top := r.states.headD (.doc none)
  let a ← readAttributes r attrs ⟨top.lang, top.base, none, none, none, none, none, none, none, []⟩
  let id ← resolveOpt a.base a.id
  let id ← match id with
    | some i =>
      if r.ids.contains i then .error ("<" ++ i ++ "> has already been used as rdf:ID value") else pure (some i)
    | none => pure none
  let r := { r with ids := (id.map ([·])).getD [] ++ r.ids }
  let about ← resolveRaw r a.base a.about
  let resource ← resolveRaw r a.base a.resource
  let datatype ← resolveRaw r a.base a.datatype
  let type ← resolveRaw r a.base a.type
  let push (r : Reader) (s : State) : Reader := { r with states := s :: r.states }
  match r.states with
  | .doc _ :: _ =>
    if tagName == rdfName "RDF" then pure (push r (.rdf a.base a.lang), [])
    else if reservedElements.contains tagName then .error ("Invalid node element tag name: " ++ tagName)
    else
      let iri ← parseIri tagName
      let (r, st, ts) ← nodeElement r iri a id about type
      pure (push r st, ts)
  | .rdf .. :: _ | .property .. :: _ | .collection .. :: _ =>
    if reservedElements.contains tagName then .error ("Invalid property element tag name: " ++ tagName)
    else
      let iri ← parseIri tagName
      let (r, st, ts) ← nodeElement r iri a id about type
      pure (push r st, ts)
  | .node nb nl subject li :: rest =>
    let (r, iri) ← if tagName == rdfName "li" then
        pure ({ r with states := .node nb nl subject (li + 1) :: rest }, rdfName ("_" ++ toString (li + 1)))
      else if reservedElements.contains tagName || tagName == rdfName "Description" then
        .error ("Invalid property element tag name: " ++ tagName)
      else do
        let iri ← parseIri tagName
        pure (r, iri)
    match a.parseType with
    | none =>
      if resource.isSome || a.nodeId.isSome || !a.props.isEmpty then
        let (r, object) ← match resource, a.nodeId with
          | some res, none => pure (r, Term.iri res)
          | none, some n => pure (r, Term.blank n)
          | none, none => pure r.freshNode
          | some _, some _ => .error "Not both rdf:resource and rdf:nodeID could be set at the same time"
        let typeTriples := match type with
          | some t => [⟨object, Vocab.type, .iri t⟩]
          | none => []
        pure (push r (.property iri a.base a.lang subject (some (.node object)) id datatype),
          propertyTriples object a.props a.lang ++ typeTriples)
      else pure (push r (.property iri a.base a.lang subject none id datatype), [])
    | some "Resource" =>
      let (r, object) := r.freshNode
      let t : Triple := ⟨subject, .iri iri, object⟩
      pure (push r (.node a.base a.lang object 0), withReification t id)
    | some "Collection" => pure (push r (.collection iri a.base a.lang subject [] id), [])
    | some "Literal" => pure (push r (.xmlLiteral iri a.base a.lang subject id "" true), [])
    | some _ => pure (push r (.xmlLiteral iri a.base a.lang subject id "" false), [])
  | .xmlLiteral .. :: _ => pure (r, [])
  | [] => .error "No state in the stack: the XML is not balanced"

/-- Reads a start tag: its namespace declarations come into scope first. -/
def openTag (r : Reader) (qname : String) (attrs : List (String × String)) :
    Except String (Reader × List Triple) :=
  let r := { r with scopes := declarations attrs :: r.scopes }
  if inLiteral r then .ok (literalStart r qname attrs, []) else startTag r qname attrs

/-- Closes the innermost element: a property element emits its triple; a node element becomes
the object of the property element around it. An XML literal that holds nothing is a fault. -/
def endTag (r : Reader) (qname : String) : Except String (Reader × List Triple) :=
  let r := { r with scopes := r.scopes.drop 1 }
  if r.literalDepth > 0 then
    match r.states with
    | .xmlLiteral iri base lang subject id content emit :: rest =>
      let st := State.xmlLiteral iri base lang subject id (content ++ "</" ++ qname ++ ">") emit
      .ok ({ r with states := st :: rest, literalDepth := r.literalDepth - 1 }, [])
    | _ => .ok ({ r with literalDepth := r.literalDepth - 1 }, [])
  else
    match r.states with
    | [] => .ok (r, [])
    | st :: rest =>
      let r := { r with states := rest }
      match st with
      | .property iri _ lang subject object id datatype =>
        let o : Term := match object with
          | some (.node t) => t
          | some (.text s) => literal s lang datatype
          | none => literal "" lang datatype
        .ok (r, withReification ⟨subject, .iri iri, o⟩ id)
      | .collection iri _ _ subject items id =>
        let (r, node, ts) := items.reverse.foldl (fun (acc : Reader × Term × List Triple) item =>
            let (r, current, ts) := acc
            let (r, b) := r.freshNode
            (r, b, ts ++ [⟨b, Vocab.first, item⟩, ⟨b, Vocab.rest, current⟩]))
          (r, Vocab.nil, [])
        .ok (r, ts ++ withReification ⟨subject, .iri iri, node⟩ id)
      | .xmlLiteral iri _ _ subject id content emit =>
        if !emit then .ok (r, [])
        else if content.isEmpty then
          .error ("No value found for rdf:XMLLiteral value of property <" ++ iri ++ ">")
        else .ok (r, withReification ⟨subject, .iri iri, .literal content none (some (rdfName "XMLLiteral"))⟩ id)
      | .node _ _ subject _ =>
        match r.states with
        | .property iri b l s _ id d :: outer =>
          .ok ({ r with states := .property iri b l s (some (.node subject)) id d :: outer }, [])
        | .collection iri b l s items id :: outer =>
          .ok ({ r with states := .collection iri b l s (items ++ [subject]) id :: outer }, [])
        | _ => .ok (r, [])
      | _ => .ok (r, [])

/-- The text of a character, escaped as XML text. -/
def escapeText (s : String) : String :=
  String.join (s.toList.map fun c =>
    match c with
    | '<' => "&lt;"
    | '>' => "&gt;"
    | '&' => "&amp;"
    | '\'' => "&apos;"
    | '"' => "&quot;"
    | c => c.toString)

/-- Whether a property element's object is still open to text: it has none yet, or only
blank text. -/
def openToText : Option Content → Bool
  | none => true
  | some (.text t) => t.toList.all Xml.isSpace
  | some (.node _) => false

/-- Reads text: inside a property element whose object is still open to text it becomes the
object, blank or not; elsewhere only blank text is allowed. -/
def textEvent (r : Reader) (raw : String) (decoded : Except String String) : Except String Reader := do
  let text ← decoded
  let blank := raw.toList.all Xml.isSpace
  match r.states with
  | .property iri b l s object id d :: rest =>
    if openToText object then pure { r with states := .property iri b l s (some (.text text)) id d :: rest }
    else if blank then pure r
    else .error ("Unexpected text event: '" ++ text ++ "'")
  | .xmlLiteral iri b l s id content emit :: rest =>
    pure { r with states := .xmlLiteral iri b l s id (content ++ escapeText text) emit :: rest }
  | _ =>
    if blank then pure r else .error ("Unexpected text event: '" ++ text ++ "'")

/-- A text without the white space at its start. -/
def dropBlanks (s : String) : String := String.ofList (s.toList.dropWhile Unicode.isBlank)

/-- Reads one entity declaration, the text after a `<` of a document type declaration. -/
def entity (r : Reader) (part : String) : Except String Reader :=
  if !part.startsWith "!ENTITY" then .ok r
  else
    let input := dropBlanks (String.ofList (part.toList.drop 7))
    let input := dropBlanks (if input.startsWith "%" then String.ofList (input.toList.drop 1) else input)
    let nameChars := input.toList.takeWhile fun c => !(Xml.isSpace c || c == '\x0c')
    if nameChars.length == input.length then
      .error "<!ENTITY declarations should contain both an entity name and an entity value"
    else
      let afterName := dropBlanks (String.ofList (input.toList.drop (nameChars.length + 1)))
      if !afterName.startsWith "\"" then .error "<!ENTITY values should be enclosed in double quotes"
      else
        let afterQuote := afterName.toList.drop 1
        let value := afterQuote.takeWhile (· != '"')
        if value.length == afterQuote.length then
          .error "<!ENTITY declarations values should be enclosed in double quotes"
        else
          let tail := dropBlanks (String.ofList (afterQuote.drop (value.length + 1)))
          if !tail.startsWith ">" then .error "<!ENTITY declarations values should end with >"
          else do
            let v ← Xml.unescape r.entities (String.ofList value)
            pure { r with entities := (String.ofList nameChars, v) :: r.entities }

/-- Reads the entity declarations of a document type declaration. -/
def doctype (r : Reader) (body : String) : Except String Reader :=
  ((body.splitOn "<").drop 1).foldlM entity r

/-- Whether an encoding name is a name of UTF-8. -/
def isUtf8 (name : String) : Bool :=
  ["unicode-1-1-utf-8", "unicode11utf8", "unicode20utf8", "utf-8", "utf8", "x-unicode20utf8"].contains
    (name.map Char.toLower)

/-- Reads one event: the reader after it and the triples it emits. -/
def step (r : Reader) : Xml.Event → Except String (Reader × List Triple)
  | .start name attrs => openTag r name attrs
  | .stop name => endTag r name
  | .text raw => (textEvent r raw (Xml.unescape r.entities raw)).map (·, [])
  | .cdata content => (textEvent r content (.ok content)).map (·, [])
  | .ignorable => .ok (r, [])
  | .decl encoding =>
    match encoding with
    | some e => if isUtf8 e then .ok (r, []) else .error "Only UTF-8 is supported by the RDF/XML parser"
    | none => .ok (r, [])
  | .doctype body => (doctype r body).map (·, [])

/-- Reads events in order, delivering each event's triples last emitted first. -/
def run (r : Reader) (acc : List Triple) : List Xml.Event → Except Fault (List Triple)
  | [] => .ok acc.reverse
  | e :: es =>
    match step r e with
    | .ok (r', ts) => run r' (ts ++ acc) es
    | .error m => .error (.plain m)

/-- The triples of an RDF/XML text, or the first fault. -/
def read (text : String) : Except Fault (List Triple) := do
  let (events, fault) := Xml.read text
  let triples ← run ⟨[.doc none], [], [], [], 0, 0⟩ [] events
  match fault with
  | some m => .error (.plain m)
  | none => pure triples

end XmlReader

end Thesaurus.Rdf
