import Thesaurus.Rdf.Grammar

/-!
The N-Triples grammar: each statement is a subject (an IRI or a blank node), a predicate (an
IRI) and an object (an IRI, a blank node or a literal), ended by a dot, on a line of its own.
A line break inside a statement is a fault, and so is a token after the dot on the same line.
A missing dot is reported and the token read as the next subject, on the same line or not.
-/

namespace Thesaurus.Rdf

namespace NTriples

/-- What the machine expects next. -/
inductive Frame where
  | subject
  | predicate
  | object
  | complete
  | dot
  | lineEnd
  | literalSuffix (value : String)
  | literalDatatype (value : String)
deriving Inhabited

/-- The state of the machine: what it expects, and the terms of the statement read so far. -/
structure Machine where
  stack : List Frame
  subjects : List Term
  predicates : List Term
  objects : List Term
deriving Inhabited

namespace Machine

/-- The machine after a fault: everything cleared. -/
def error (m : Machine) (o : Out) (msg : String) : Machine × Out :=
  (⟨[], [], [], []⟩, o.fail msg)

/-- Emits the statement read and forgets it. -/
def emitQuad (m : Machine) (o : Out) : Machine × Out :=
  ({ m with subjects := m.subjects.drop 1, predicates := m.predicates.drop 1, objects := m.objects.drop 1 },
    o.emit ⟨m.subjects.headD default, m.predicates.headD default, m.objects.headD default⟩)

end Machine

/-- The fault of a line break inside a statement. -/
def jumpInside : String := "line jumps are not allowed in the middle of triples"

/-- Reads one token; `fuel` bounds the frames a token passes through. -/
def advance : Nat → Tok → Machine → Out → Machine × Out
  | 0, _, m, o => (m, o)
  | fuel + 1, tok, m, o =>
    match m.stack with
    | [] => if tok == .punct "." || tok == .lineJump then ({ m with stack := [.subject] }, o) else (m, o)
    | frame :: rest =>
      let m := { m with stack := rest }
      let expect (f : Frame) (m : Machine) : Machine := { m with stack := f :: m.stack }
      match frame with
      | .subject =>
        match tok with
        | .iri v => (expect .predicate { m with subjects := .iri v :: m.subjects }, o)
        | .blank l => (expect .predicate { m with subjects := .blank l :: m.subjects }, o)
        | .lineJump => if rest.isEmpty then (expect .subject m, o) else m.error o jumpInside
        | _ => m.error o "The subject of a triple must be an IRI or a blank node"
      | .predicate =>
        match tok with
        | .iri v => (expect .object { m with predicates := .iri v :: m.predicates }, o)
        | .lineJump => m.error o jumpInside
        | _ => m.error o "The predicate of a triple must be an IRI"
      | .object =>
        match tok with
        | .iri v => (expect .complete { m with objects := .iri v :: m.objects }, o)
        | .blank l => (expect .complete { m with objects := .blank l :: m.objects }, o)
        | .str v => (expect (.literalSuffix v) m, o)
        | .lineJump => m.error o jumpInside
        | _ => m.error o "The object of a triple must be an IRI, a blank node or a literal"
      | .literalSuffix v =>
        match tok with
        | .langTag l =>
          (expect .complete { m with objects := .literal v (some (l.map Char.toLower)) none :: m.objects }, o)
        | .punct "^^" => (expect (.literalDatatype v) m, o)
        | _ => advance fuel tok (expect .complete { m with objects := .literal v none none :: m.objects }) o
      | .literalDatatype v =>
        match tok with
        | .iri d => (expect .complete { m with objects := .literal v none (some d) :: m.objects }, o)
        | .lineJump => m.error o jumpInside
        | _ => m.error o "A literal datatype must be an IRI"
      | .complete =>
        let (m, o) := m.emitQuad o
        advance fuel tok (expect .dot m) o
      | .dot =>
        if tok == .punct "." then (expect .lineEnd m, o)
        else advance fuel tok (expect .subject m) (o.fail "Quads must be followed by a dot")
      | .lineEnd =>
        if tok == .lineJump then (expect .subject m, o)
        else
          advance fuel tok (expect .subject m)
            (o.fail ("Only a single triple or quad can be written in a line, found " ++ tok.debug))

/-- Ends the text: a statement missing only its dot is kept and the dot reported. -/
def finish (m : Machine) : Out :=
  match m.stack with
  | [] | [.subject] | [.lineEnd] => Out.empty
  | [.dot] => Out.empty.fail "Triples must be followed by a dot"
  | [.complete] => (m.emitQuad Out.empty).2.fail "Triples must be followed by a dot"
  | [.literalSuffix v] =>
    (Machine.emitQuad { m with objects := .literal v none none :: m.objects } Out.empty).2.fail
      "Triples must be followed by a dot"
  | _ => Out.empty.fail "Unexpected end"

/-- The N-Triples grammar. -/
def grammar : Grammar Machine where
  dialect := .nTriples
  start := ⟨[.subject], [], [], []⟩
  base _ := none
  feed tok m := advance 16 tok m Out.empty
  finish := finish
  refusal _ := none

/-- The triples of an N-Triples text, or the first fault. -/
def read (text : String) : Except Fault (List Triple) := grammar.run text

end NTriples

end Thesaurus.Rdf
