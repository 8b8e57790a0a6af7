import Thesaurus.Rdf.Grammar

/-!
The Turtle grammar, as a pushdown machine over tokens. The stack holds what is expected
next; the subject, predicate and object stacks hold the terms of the statements being read,
innermost on top. A triple is emitted as soon as its object is known — for a string literal,
at the token after it, which may still add a language tag or a datatype.

A fault clears the machine, which then skips tokens up to the next dot. Besides faults that
stop the reading, the machine reports one that lets it go on: a statement not ended by a
dot is reported and the token is read as the start of the next statement.
-/

namespace Thesaurus.Rdf

namespace Turtle

/-- What the machine expects next. -/
inductive Frame where
  | doc
  | expectDot
  | baseIri
  | prefixName
  | prefixIri (name : String)
  | subject
  | predicatesOf (t : Term)
  | anonSubject
  | subjectListEnd
  | subjectListAfter
  | subjectCollection
  | collectionNext
  | predicateObjects
  | predicateObjectsEnd
  | predicateObjectsMore
  | objectList
  | objectListEnd
  | verb
  | object
  | anonObject
  | objectListClose
  | objectCollection
  | literalSuffix (value : String) (emit : Bool)
  | literalDatatype (value : String) (emit : Bool)
deriving Inhabited

/-- The state of the machine. -/
structure Machine where
  stack : List Frame
  subjects : List Term
  predicates : List Term
  objects : List Term
  base : Option String
  prefixes : List (String × String)
  fresh : Nat
deriving Inhabited

namespace Machine

/-- The machine before the first token. -/
def start : Machine := ⟨[.doc], [], [], [], none, [], 0⟩

/-- The machine expecting one more thing first. -/
def push (m : Machine) (f : Frame) : Machine := { m with stack := f :: m.stack }

/-- The machine expecting several more things, the last given first. -/
def pushAll (m : Machine) (fs : List Frame) : Machine := fs.foldl push m

/-- A new unlabelled blank node. -/
def freshNode (m : Machine) : Machine × Term :=
  ({ m with fresh := m.fresh + 1 }, .blank (freshLabel m.fresh))

/-- The machine after a fault: everything cleared. -/
def error (m : Machine) (o : Out) (msg : String) : Machine × Out :=
  ({ m with stack := [], subjects := [], predicates := [], objects := [] }, o.fail msg)

/-- The triple of the innermost subject, predicate and object, emitted. -/
def emitTop (m : Machine) (o : Out) : Out :=
  o.emit ⟨m.subjects.headD default, m.predicates.headD default, m.objects.headD default⟩

/-- The machine with an object added and its triple emitted. -/
def addObject (m : Machine) (o : Out) (t : Term) : Machine × Out :=
  let m := { m with objects := t :: m.objects }
  (m, emitTop m o)

end Machine

open Machine

/-- Reads one token. A frame that does not consume the token passes it on to the frames it
pushes; `fuel` bounds these passes. -/
def advance : Nat → Tok → Machine → Out → Machine × Out
  | 0, _, m, o => (m, o)
  | fuel + 1, tok, m, o =>
    let again := advance fuel tok
    match m.stack with
    | [] =>
      if tok == .punct "." || tok == .punct "\x7d" then ({ m with stack := [.doc] }, o) else (m, o)
    | frame :: rest =>
      let m := { m with stack := rest }
      let name (space part : String) (suspect : Bool) (k : Term → Machine × Out) : Machine × Out :=
        match resolveName m.prefixes space part suspect with
        | .ok t => k t
        | .error e => m.error o e
      match frame with
      | .doc =>
        let m := m.push .doc
        match tok with
        | .word w =>
          if isKeyword w "base" then (m.push .baseIri, o)
          else if isKeyword w "prefix" then (m.push .prefixName, o)
          else again (m.push .subject) o
        | .langTag "prefix" => (m.pushAll [.expectDot, .prefixName], o)
        | .langTag "base" => (m.pushAll [.expectDot, .baseIri], o)
        | _ => again (m.push .subject) o
      | .expectDot =>
        let m := { m with subjects := m.subjects.drop 1 }
        if tok == .punct "." then (m, o) else again m (o.fail "A dot is expected at the end of statements")
      | .baseIri =>
        match tok with
        | .iri v => ({ m with base := some v }, o)
        | _ => m.error o "The BASE keyword should be followed by an IRI"
      | .prefixName =>
        match tok with
        | .pname space "" _ => (m.push (.prefixIri space), o)
        | _ => m.error o "The PREFIX keyword should be followed by a prefix like 'ex:'"
      | .prefixIri space =>
        match tok with
        | .iri v => ({ m with prefixes := declare m.prefixes space v }, o)
        | _ => m.error o "The PREFIX declaration should be followed by a prefix and its value as an IRI"
      | .subject =>
        match tok with
        | .iri v => (m.push (.predicatesOf (.iri v)), o)
        | .pname space part suspect => name space part suspect fun t => (m.push (.predicatesOf t), o)
        | .blank l => (m.push (.predicatesOf (.blank l)), o)
        | .punct "[" => (m.push .anonSubject, o)
        | .punct "(" => (m.pushAll [.expectDot, .predicateObjects, .subjectCollection], o)
        | _ => m.error o "TOKEN is not a valid subject or graph name"
      | .predicatesOf t =>
        again ({ m with subjects := t :: m.subjects }.pushAll [.expectDot, .predicateObjects]) o
      | .anonSubject =>
        let (m, b) := m.freshNode
        if tok == .punct "]" then (m.push (.predicatesOf b), o)
        else
          again ({ m with subjects := b :: m.subjects }.pushAll
            [.expectDot, .subjectListEnd, .predicateObjects]) o
      | .subjectListEnd =>
        if tok == .punct "]" then (m.push .subjectListAfter, o)
        else again (m.push .subjectListAfter) (o.fail "blank node property lists should end with a ']'")
      | .subjectListAfter =>
        if tok == .punct "." || tok == .punct "\x7d" then again m o
        else again (m.push .predicateObjects) o
      | .subjectCollection =>
        if tok == .punct ")" then ({ m with subjects := Vocab.nil :: m.subjects }, o)
        else
          let (m, root) := m.freshNode
          again ({ m with subjects := root :: root :: m.subjects,
                          predicates := Vocab.first :: m.predicates }.pushAll [.collectionNext, .object]) o
      | .collectionNext =>
        let old := m.subjects.headD default
        let m := { m with subjects := m.subjects.drop 1, objects := m.objects.drop 1 }
        if tok == .punct ")" then
          ({ m with predicates := m.predicates.drop 1 }, o.emit ⟨old, Vocab.rest, Vocab.nil⟩)
        else
          let (m, next) := m.freshNode
          again ({ m with subjects := next :: m.subjects }.pushAll [.collectionNext, .object])
            (o.emit ⟨old, Vocab.rest, next⟩)
      | .predicateObjects =>
        again (m.pushAll [.predicateObjectsEnd, .objectList, .verb]) o
      | .predicateObjectsEnd =>
        let m := { m with predicates := m.predicates.drop 1 }
        if tok == .punct ";" then (m.push .predicateObjectsMore, o) else again m o
      | .predicateObjectsMore =>
        if tok == .punct ";" then (m.push .predicateObjectsMore, o)
        else if tok == .punct "." || tok == .punct "\x7d" || tok == .punct "]" then again m o
        else again (m.pushAll [.predicateObjectsEnd, .objectList, .verb]) o
      | .objectList =>
        again (m.pushAll [.objectListEnd, .object]) o
      | .objectListEnd =>
        let m := { m with objects := m.objects.drop 1 }
        if tok == .punct "," then (m.pushAll [.objectListEnd, .object], o) else again m o
      | .verb =>
        match tok with
        | .word "a" => ({ m with predicates := Vocab.type :: m.predicates }, o)
        | .iri v => ({ m with predicates := .iri v :: m.predicates }, o)
        | .pname space part suspect =>
          name space part suspect fun t => ({ m with predicates := t :: m.predicates }, o)
        | _ => m.error o "TOKEN is not a valid predicate"
      | .object =>
        match tok with
        | .iri v => m.addObject o (.iri v)
        | .pname space part suspect => name space part suspect fun t => m.addObject o t
        | .blank l => m.addObject o (.blank l)
        | .punct "[" => (m.push .anonObject, o)
        | .punct "(" => (m.push .objectCollection, o)
        | .str v => (m.push (.literalSuffix v true), o)
        | .integer v => m.addObject o (Vocab.typed v "integer")
        | .decimal v => m.addObject o (Vocab.typed v "decimal")
        | .double v => m.addObject o (Vocab.typed v "double")
        | .word "true" => m.addObject o (Vocab.typed "true" "boolean")
        | .word "false" => m.addObject o (Vocab.typed "false" "boolean")
        | _ => m.error o "TOKEN is not a valid RDF object"
      | .anonObject =>
        let (m, b) := m.freshNode
        if tok == .punct "]" then m.addObject o b
        else again ({ m with subjects := b :: m.subjects }.pushAll [.objectListClose, .predicateObjects]) o
      | .objectListClose =>
        if tok == .punct "]" then
          let inner := m.subjects.headD default
          { m with subjects := m.subjects.drop 1 }.addObject o inner
        else m.error o "blank node property lists should end with a ']'"
      | .objectCollection =>
        if tok == .punct ")" then m.addObject o Vocab.nil
        else
          let (m, root) := m.freshNode
          let (m, o) := m.addObject o root
          again ({ m with subjects := root :: m.subjects,
                          predicates := Vocab.first :: m.predicates }.pushAll [.collectionNext, .object]) o
      | .literalSuffix v emit =>
        match tok with
        | .langTag l =>
          let lit := Term.literal v (some (l.map Char.toLower)) none
          if emit then m.addObject o lit else ({ m with objects := lit :: m.objects }, o)
        | .punct "^^" => (m.push (.literalDatatype v emit), o)
        | _ =>
          let lit := Term.literal v none none
          let (m, o) := if emit then m.addObject o lit else ({ m with objects := lit :: m.objects }, o)
          again m o
      | .literalDatatype v emit =>
        let typed (t : Term) : Machine × Out :=
          let lit := match t with
            | .iri d => Term.literal v none (some d)
            | _ => Term.literal v none none
          if emit then m.addObject o lit else ({ m with objects := lit :: m.objects }, o)
        match tok with
        | .iri d => typed (.iri d)
        | .pname space part suspect => name space part suspect typed
        | _ =>
          let (m, o) := m.error o "Expecting a datatype IRI after ^^, found TOKEN"
          again m o

/-- Ends the text: complete unless a statement is still open. A string at the very end is
kept as an object, and the missing dot reported. -/
def finish (m : Machine) : Out :=
  match m.stack with
  | [] | [.doc] => Out.empty
  | .literalSuffix v true :: _ =>
    let m := { m with objects := Term.literal v none none :: m.objects }
    (emitTop m Out.empty).fail "Triples should be followed by a dot"
  | _ => Out.empty.fail "Unexpected end"

/-- The Turtle grammar. -/
def grammar : Grammar Machine where
  dialect := .turtle
  start := Machine.start
  base := (·.base)
  feed tok m := advance 64 tok m Out.empty
  finish := finish
  refusal _ := none

/-- The triples of a Turtle text, or the first fault. -/
def read (text : String) : Except Fault (List Triple) := grammar.run text

end Turtle

end Thesaurus.Rdf
