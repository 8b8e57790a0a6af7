import Thesaurus.Error
import Thesaurus.Text.Trim

/-!
The RDF serializations a vocabulary may come in, their names, and the serialization that a
file's extension stands for.
-/

namespace Thesaurus.Rdf

/-- An RDF serialization. -/
inductive Format where
  | nTriples
  | turtle
  | n3
  | rdfXml
deriving DecidableEq, Repr, Inhabited

namespace Format

/-- The display name of a serialization. -/
def name : Format → String
  | .nTriples => "N-TRIPLES"
  | .turtle => "TURTLE"
  | .n3 => "N3"
  | .rdfXml => "RDF/XML"

/-- Reads a serialization's name: blanks around it ignored, ASCII letters in any case. -/
def parse (s : String) : Except Error Format :=
  let t := (Text.trim s).toUpper
  if t == "N-TRIPLES" || t == "NTRIPLES" || t == "NT" then .ok .nTriples
  else if t == "TURTLE" || t == "TTL" then .ok .turtle
  else if t == "N3" then .ok .n3
  else if t == "RDF/XML" || t == "RDFXML" || t == "XML" then .ok .rdfXml
  else .error (.unknownFormat s)

/-- The last name of a path: its last part after dropping empty parts and `.` parts; none
when that is `..` or when nothing is left. -/
def fileName? (path : String) : Option String :=
  match ((path.splitOn "/").filter (fun p => p != "" && p != ".")).getLast? with
  | some ".." => none
  | some n => some n
  | none => none

/-- The extension of a path: what follows the last dot of its last name, when that dot is not
the name's first character. -/
def extension? (path : String) : Option String :=
  match fileName? path with
  | none => none
  | some n =>
    let cs := n.toList
    let before := (cs.reverse.dropWhile (· != '.')).reverse
    match before with
    | [] => none
    | [_] => none
    | _ => some (String.ofList (cs.drop before.length))

/-- The serialization a path's extension stands for, ASCII letters in any case: `nt`, `ttl`,
`n3`, and `rdf`, `xml` or `owl` for RDF/XML. -/
def ofPath (path : String) : Except Error Format :=
  match (extension? path).map String.toLower with
  | some "nt" => .ok .nTriples
  | some "ttl" => .ok .turtle
  | some "n3" => .ok .n3
  | some "rdf" | some "xml" | some "owl" => .ok .rdfXml
  | _ => .error (.unknownExtension path)

end Format

end Thesaurus.Rdf
