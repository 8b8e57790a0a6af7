import Thesaurus.Rdf.Grammar

/-!
The Notation3 grammar. Beyond Turtle it has paths (`x!p` and `x^p`), the verbs `has`,
`is … of`, `=`, `=>`, `<=` and `<-`, variables, formulas in braces, and any term in any
place. The terms being read sit on one stack; a triple is emitted when the token after its
object arrives. A triple whose subject or predicate cannot be a plain RDF term is refused
when it is delivered.
-/

namespace Thesaurus.Rdf

namespace Notation3

/-- A predicate, read forwards or backwards. -/
inductive Verb where
  | forward (t : Term)
  | backward (t : Term)
deriving Inhabited

/-- What the machine expects next. -/
inductive Frame where
  | doc
  | docDot
  | baseIri
  | prefixName
  | prefixIri (name : String)
  | triples
  | triplesMiddle
  | triplesEnd
  | predicateObjects
  | predicateObjectsEnd
  | predicateObjectsMore
  | objectList
  | objectListEnd
  | verb
  | afterForward
  | afterBackward
  | afterIs
  | path
  | pathFollow
  | pathStep (backward : Bool)
  | pathItem
  | listMiddle
  | listEnd
  | iriList
  | collection
  | collectionNext
  | literalSuffix (value : String)
  | literalDatatype (value : String)
  | formula
  | formulaDot
deriving Inhabited

/-- The state of the machine. -/
structure Machine where
  stack : List Frame
  terms : List Term
  verbs : List Verb
  formulas : List Term
  base : Option String
  prefixes : List (String × String)
  fresh : Nat
deriving Inhabited

namespace Machine

/-- The machine expecting several more things, the last given first. -/
def pushAll (m : Machine) (fs : List Frame) : Machine :=
  { m with stack := fs.foldl (fun st f => f :: st) m.stack }

/-- A new unlabelled blank node. -/
def freshNode (m : Machine) : Machine × Term :=
  ({ m with fresh := m.fresh + 1 }, .blank (freshLabel m.fresh))

/-- The machine after a fault: everything cleared. -/
def error (m : Machine) (o : Out) (msg : String) : Machine × Out :=
  ({ m with stack := [], terms := [], verbs := [] }, o.fail msg)

/-- The machine with a term pushed. -/
def term (m : Machine) (t : Term) : Machine := { m with terms := t :: m.terms }

/-- A triple in the innermost formula; the graph is not kept. -/
def quad (_m : Machine) (s p o : Term) : Triple := ⟨s, p, o⟩

end Machine

open Machine

/-- `owl:sameAs`, the verb `=`. -/
def sameAs : Term := .iri "http://www.w3.org/2002/07/owl#sameAs"

/-- `log:implies`, the verbs `=>` and `<=`. -/
def implies : Term := .iri "http://www.w3.org/2000/10/swap/log#implies"

/-- Reads one token; `fuel` bounds the frames a token passes through. -/
def advance : Nat → Tok → Machine → Out → Machine × Out
  | 0, _, m, o => (m, o)
  | fuel + 1, tok, m, o =>
    let again := advance fuel tok
    match m.stack with
    | [] => if tok == .punct "." then ({ m with stack := [.doc] }, o) else (m, o)
    | frame :: rest =>
      let m := { m with stack := rest }
      let name (space part : String) (suspect : Bool) (k : Term → Machine × Out) : Machine × Out :=
        match resolveName m.prefixes space part suspect with
        | .ok t => k t
        | .error e => m.error o e
      let directive (m : Machine) (dotted : Frame) (plain : List Frame) (k : Machine → Machine × Out) :
          Machine × Out :=
        match tok with
        | .word w =>
          if isKeyword w "base" then (m.pushAll (plain ++ [.baseIri]), o)
          else if isKeyword w "prefix" then (m.pushAll (plain ++ [.prefixName]), o)
          else k m
        | .langTag "prefix" => (m.pushAll [dotted, .prefixName], o)
        | .langTag "base" => (m.pushAll [dotted, .baseIri], o)
        | _ => k m
      match frame with
      | .doc =>
        directive (m.pushAll [.doc]) .docDot [] fun m => again (m.pushAll [.docDot, .triples]) o
      | .docDot =>
        if tok == .punct "." then (m, o) else again m (o.fail "A dot is expected at the end of N3 statements")
      | .baseIri =>
        match tok with
        | .iri v => ({ m with base := some v }, o)
        | _ => m.error o "The BASE keyword should be followed by an IRI"
      | .prefixName =>
        match tok with
        | .pname space "" _ => (m.pushAll [.prefixIri space], o)
        | _ => m.error o "The PREFIX keyword should be followed by a prefix like 'ex:'"
      | .prefixIri space =>
        match tok with
        | .iri v => ({ m with prefixes := declare m.prefixes space v }, o)
        | _ => m.error o "The PREFIX declaration should be followed by a prefix and its value as an IRI"
      | .triples => again (m.pushAll [.triplesMiddle, .path]) o
      | .triplesMiddle =>
        if tok == .punct "." || tok == .punct "]" || tok == .punct "\x7d" || tok == .punct ")" then again m o
        else again (m.pushAll [.triplesEnd, .predicateObjects]) o
      | .triplesEnd => again { m with terms := m.terms.drop 1 } o
      | .predicateObjects => again (m.pushAll [.predicateObjectsEnd, .objectList, .verb]) o
      | .predicateObjectsEnd =>
        let m := { m with verbs := m.verbs.drop 1 }
        if tok == .punct ";" then (m.pushAll [.predicateObjectsMore], o) else again m o
      | .predicateObjectsMore =>
        if tok == .punct ";" then (m.pushAll [.predicateObjectsMore], o)
        else if tok == .punct "." || tok == .punct "\x7d" || tok == .punct "]" then again m o
        else again (m.pushAll [.predicateObjectsEnd, .objectList, .verb]) o
      | .objectList => again (m.pushAll [.objectListEnd, .path]) o
      | .objectListEnd =>
        let object := m.terms.headD default
        let m := { m with terms := m.terms.drop 1 }
        let subject := m.terms.headD default
        let t := match m.verbs.headD default with
          | .forward p => m.quad subject p object
          | .backward p => m.quad object p subject
        let o := o.emit t
        if tok == .punct "," then (m.pushAll [.objectListEnd, .path], o) else again m o
      | .verb =>
        match tok with
        | .word "a" => ({ m with verbs := .forward Vocab.type :: m.verbs }, o)
        | .word "has" => (m.pushAll [.afterForward, .path], o)
        | .word "is" => (m.pushAll [.afterIs, .path], o)
        | .punct "=" => ({ m with verbs := .forward sameAs :: m.verbs }, o)
        | .punct "=>" => ({ m with verbs := .forward implies :: m.verbs }, o)
        | .punct "<=" => ({ m with verbs := .backward implies :: m.verbs }, o)
        | .punct "<-" => (m.pushAll [.afterBackward, .path], o)
        | _ => again (m.pushAll [.afterForward, .path]) o
      | .afterForward =>
        again { m with verbs := .forward (m.terms.headD default) :: m.verbs, terms := m.terms.drop 1 } o
      | .afterBackward =>
        again { m with verbs := .backward (m.terms.headD default) :: m.verbs, terms := m.terms.drop 1 } o
      | .afterIs =>
        match tok with
        | .word "of" => ({ m with verbs := .backward (m.terms.headD default) :: m.verbs, terms := m.terms.drop 1 }, o)
        | _ => m.error o "The keyword 'is' should be followed by a predicate then by the keyword 'of'"
      | .path => again (m.pushAll [.pathFollow, .pathItem]) o
      | .pathFollow =>
        match tok with
        | .punct "!" => (m.pushAll [.pathStep false, .pathItem], o)
        | .punct "^" => (m.pushAll [.pathStep true, .pathItem], o)
        | _ => again m o
      | .pathStep backward =>
        let predicate := m.terms.headD default
        let previous := (m.terms.drop 1).headD default
        let m := { m with terms := m.terms.drop 2 }
        let (m, current) := m.freshNode
        let t := if backward then m.quad current predicate previous else m.quad previous predicate current
        again ((m.term current).pushAll [.pathFollow]) (o.emit t)
      | .pathItem =>
        match tok with
        | .iri v => (m.term (.iri v), o)
        | .pname space part suspect => name space part suspect fun t => (m.term t, o)
        | .blank l => (m.term (.blank l), o)
        | .var v => (m.term (.var v), o)
        | .punct "[" => (m.pushAll [.listMiddle], o)
        | .punct "(" => (m.pushAll [.collection], o)
        | .str v => (m.pushAll [.literalSuffix v], o)
        | .integer v => (m.term (Vocab.typed v "integer"), o)
        | .decimal v => (m.term (Vocab.typed v "decimal"), o)
        | .double v => (m.term (Vocab.typed v "double"), o)
        | .word "true" => (m.term (Vocab.typed "true" "boolean"), o)
        | .word "false" => (m.term (Vocab.typed "false" "boolean"), o)
        | .punct "\x7b" =>
          let (m, g) := m.freshNode
          ({ m with formulas := g :: m.formulas }.pushAll [.formula], o)
        | _ => m.error o "TOKEN is not a valid RDF value"
      | .listMiddle =>
        match tok with
        | .punct "]" =>
          let (m, b) := m.freshNode
          (m.term b, o)
        | .word "id" => (m.pushAll [.iriList], o)
        | _ =>
          let (m, b) := m.freshNode
          again ((m.term b).pushAll [.listEnd, .predicateObjects]) o
      | .listEnd =>
        if tok == .punct "]" then (m, o)
        else again m (o.fail "blank node property lists should end with a ']'")
      | .iriList =>
        match tok with
        | .iri v => ((m.term (.iri v)).pushAll [.listEnd, .predicateObjects], o)
        | .pname space part suspect =>
          name space part suspect fun t => ((m.term t).pushAll [.listEnd, .predicateObjects], o)
        | _ => m.error o "The '[ id' construction should be followed by an IRI"
      | .collection =>
        if tok == .punct ")" then (m.term Vocab.nil, o)
        else
          let (m, root) := m.freshNode
          again (((m.term root).term root).pushAll [.collectionNext, .path]) o
      | .collectionNext =>
        let value := m.terms.headD default
        let old := (m.terms.drop 1).headD default
        let m := { m with terms := m.terms.drop 2 }
        let o := o.emit (m.quad old Vocab.first value)
        if tok == .punct ")" then (m, o.emit (m.quad old Vocab.rest Vocab.nil))
        else
          let (m, next) := m.freshNode
          again ((m.term next).pushAll [.collectionNext, .path]) (o.emit (m.quad old Vocab.rest next))
      | .literalSuffix v =>
        match tok with
        | .langTag l => (m.term (.literal v (some (l.map Char.toLower)) none), o)
        | .punct "^^" => (m.pushAll [.literalDatatype v], o)
        | _ => again (m.term (.literal v none none)) o
      | .literalDatatype v =>
        match tok with
        | .iri d => (m.term (.literal v none (some d)), o)
        | .pname space part suspect =>
          name space part suspect fun t =>
            match t with
            | .iri d => (m.term (.literal v none (some d)), o)
            | _ => (m.term (.literal v none none), o)
        | _ =>
          let (m, o) := m.error o "Expecting a datatype IRI after '^^, found TOKEN"
          again m o
      | .formula =>
        if tok == .punct "\x7d" then
          ({ m with terms := m.formulas.headD default :: m.terms, formulas := m.formulas.drop 1 }, o)
        else directive m .formulaDot [.formula] fun m => again (m.pushAll [.formulaDot, .triples]) o
      | .formulaDot =>
        if tok == .punct "\x7d" then
          ({ m with terms := m.formulas.headD default :: m.terms, formulas := m.formulas.drop 1 }, o)
        else if tok == .punct "." then (m.pushAll [.formula], o)
        else again (m.pushAll [.formula]) (o.fail "A dot is expected at the end of N3 statements")

/-- Ends the text: complete unless a statement is still open. -/
def finish (m : Machine) : Out :=
  match m.stack with
  | [] | [.doc] => Out.empty
  | _ => Out.empty.fail "Unexpected end"

/-- Why a triple cannot be a plain RDF triple, if it cannot. -/
def refusal (t : Triple) : Option String :=
  match t.subject, t.predicate, t.object with
  | .literal .., _, _ => some "literals are not allowed in regular RDF subjects"
  | .var _, _, _ => some "variables are not allowed in regular RDF subjects"
  | _, .blank _, _ => some "blank nodes are not allowed in regular RDF predicates"
  | _, .literal .., _ => some "literals are not allowed in regular RDF predicates"
  | _, .var _, _ => some "variables are not allowed in regular RDF predicates"
  | _, _, .var _ => some "variables are not allowed in regular RDF objects"
  | _, _, _ => none

/-- The Notation3 grammar. -/
def grammar : Grammar Machine where
  dialect := .n3
  start := ⟨[.doc], [], [], [], none, [], 0⟩
  base := (·.base)
  feed tok m := advance 64 tok m Out.empty
  finish := finish
  refusal := refusal

/-- The triples of a Notation3 text, or the first fault. -/
def read (text : String) : Except Fault (List Triple) := grammar.run text

end Notation3

end Thesaurus.Rdf
