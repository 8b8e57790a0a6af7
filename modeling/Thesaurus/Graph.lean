import Thesaurus.Kind

/-!
The statements of a thesaurus. A statement ties a subject resource, by a label or relation
predicate, to a literal or a resource. The concepts of a graph are the subjects of label
statements with a literal object, each once, in order of first appearance.
-/

namespace Thesaurus

/-- A resource: a node named by an IRI, or a blank node with a local name. -/
inductive Resource where
  | iri (name : String)
  | blank (id : String)
deriving DecidableEq, Repr, Inhabited

/-- The key of a resource in a store: its IRI, or `_:` and the blank node's name. -/
def Resource.key : Resource → String
  | .iri name => name
  | .blank id => "_:" ++ id

/-- A literal: a text with an optional language tag. -/
structure Literal where
  value : String
  language : Option String
deriving DecidableEq, Repr, Inhabited

/-- The object of a statement. -/
inductive Object where
  | resource (r : Resource)
  | literal (l : Literal)
deriving DecidableEq, Repr, Inhabited

/-- The thesaurus predicates: a label of a kind, or a relation of a kind. -/
inductive Predicate where
  | label (kind : LabelKind)
  | relation (kind : RelationKind)
deriving DecidableEq, Repr, Inhabited

/-- The namespace of the thesaurus vocabulary. -/
def skosNamespace : String := "http://www.w3.org/2004/02/skos/core#"

namespace Predicate

/-- Every predicate, in order. -/
def all : List Predicate :=
  (LabelKind.all.map .label) ++ (RelationKind.all.map .relation)

/-- The local name of a predicate in the vocabulary namespace. -/
def localName : Predicate → String
  | .label k => k.name ++ "Label"
  | .relation r => r.name

/-- The predicate an IRI names: the namespace followed by exactly one of the local names. -/
def ofIri? (iri : String) : Option Predicate :=
  if skosNamespace.isPrefixOf iri then
    let rest := String.ofList (iri.toList.drop skosNamespace.length)
    all.find? (·.localName == rest)
  else none

end Predicate

/-- A statement: subject, predicate, object. -/
structure Statement where
  subject : Resource
  predicate : Predicate
  object : Object
deriving DecidableEq, Repr, Inhabited

/-- A graph: statements in the order they were read. -/
structure Graph where
  statements : List Statement
deriving Repr, Inhabited

namespace Graph

/-- The empty graph. -/
def empty : Graph := ⟨[]⟩

/-- The graph with one more statement at the end. -/
def push (g : Graph) (s : Statement) : Graph := ⟨g.statements ++ [s]⟩

/-- The number of statements. -/
def size (g : Graph) : Nat := g.statements.length

/-- Whether a statement labels its subject with a literal. -/
def Statement.labelsSubject (s : Statement) : Bool :=
  match s.predicate, s.object with
  | .label _, .literal _ => true
  | _, _ => false

/-- The keys of the concepts of a graph: the subjects of label statements with a literal
object, each once, in order of first appearance. -/
def concepts (g : Graph) : List String :=
  ((g.statements.filter Statement.labelsSubject).map (·.subject.key)).foldl
    (fun acc k => if acc.contains k then acc else acc ++ [k]) []

end Graph

end Thesaurus
