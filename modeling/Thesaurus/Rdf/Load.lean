import Thesaurus.Graph
import Thesaurus.Error
import Thesaurus.Rdf.Format
import Thesaurus.Rdf.NTriples
import Thesaurus.Rdf.Turtle
import Thesaurus.Rdf.Notation3
import Thesaurus.Rdf.XmlReader

/-!
Loading a vocabulary from RDF text. The text is read in its format into triples; the triples
whose predicate is one of the thesaurus predicates become statements, in the order read,
and the others are counted and dropped. A text that cannot be read fails as a whole with
the reader's first fault.
-/

namespace Thesaurus.Rdf

/-- The triples of a text in a format, or the first fault. -/
def triplesOf (format : Format) (text : String) : Except Fault (List Triple) :=
  match format with
  | .nTriples => NTriples.read text
  | .turtle => Turtle.read text
  | .n3 => Notation3.read text
  | .rdfXml => XmlReader.read text

/-- The resource a term names, if it names one. -/
def resourceOf : Term → Option Resource
  | .iri v => some (.iri v)
  | .blank l => some (.blank l)
  | _ => none

/-- The object a term stands for: a resource, or a literal keeping its language tag. -/
def objectOf : Term → Option Object
  | .iri v => some (.resource (.iri v))
  | .blank l => some (.resource (.blank l))
  | .literal v lang _ => some (.literal ⟨v, lang⟩)
  | .var _ => none

/-- The statement a triple makes, if its predicate is a thesaurus predicate. -/
def statementOf (t : Triple) : Option Statement :=
  match t.predicate with
  | .iri p => do
    let predicate ← Predicate.ofIri? p
    let subject ← resourceOf t.subject
    let object ← objectOf t.object
    pure ⟨subject, predicate, object⟩
  | _ => none

/-- A vocabulary loaded from RDF text: its statements, and how many other triples were
dropped. -/
structure Loaded where
  graph : Graph
  skipped : Nat
deriving Inhabited

/-- Sorts triples into statements and dropped ones. -/
def sortTriples (ts : List Triple) : Loaded :=
  let kept := ts.filterMap statementOf
  ⟨⟨kept⟩, ts.length - kept.length⟩

/-- Loads a vocabulary from text in a format; `source` describes where the text came from,
for the error of a text that cannot be read. -/
def load (format : Format) (source text : String) : Except Error Loaded :=
  match triplesOf format text with
  | .ok ts => .ok (sortTriples ts)
  | .error f => .error (.malformed format.name source f.text)

/-- The description of text held in memory: its size in bytes. -/
def describeBytes (text : String) : String :=
  "<" ++ toString text.utf8ByteSize ++ " bytes in memory>"

/-- The description of a file. -/
def describePath (path : String) : String := "'" ++ path ++ "'"

/-- The note a load leaves: how many statements were kept and how many dropped. -/
def Loaded.note (l : Loaded) (source : String) : String :=
  "loaded " ++ toString l.graph.size ++ " SKOS statements from " ++ source ++ " (" ++
    toString l.skipped ++ " other statements ignored)"

end Thesaurus.Rdf
