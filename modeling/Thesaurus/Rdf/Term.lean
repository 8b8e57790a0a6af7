/-!
RDF terms and triples as the readers produce them, and the places and syntax errors they
report. A term is an IRI, a blank node with its label, a literal with an optional language
tag or datatype, or — in Notation3 only — a variable. Blank nodes written without a label
get a fresh label made from a counter.
-/

namespace Thesaurus.Rdf

/-- An RDF term. -/
inductive Term where
  | iri (value : String)
  | blank (label : String)
  | literal (value : String) (language : Option String) (datatype : Option String)
  | var (name : String)
deriving DecidableEq, Repr, Inhabited

/-- A triple. Notation3 may put any term in any place; the other syntaxes put an IRI or a
blank node first and an IRI second. -/
structure Triple where
  subject : Term
  predicate : Term
  object : Term
deriving DecidableEq, Repr, Inhabited

namespace Vocab

/-- The namespace of the RDF vocabulary. -/
def rdf : String := "http://www.w3.org/1999/02/22-rdf-syntax-ns#"

/-- The namespace of the XML Schema datatypes. -/
def xsd : String := "http://www.w3.org/2001/XMLSchema#"

/-- `rdf:type`. -/
def type : Term := .iri (rdf ++ "type")

/-- `rdf:first`. -/
def first : Term := .iri (rdf ++ "first")

/-- `rdf:rest`. -/
def rest : Term := .iri (rdf ++ "rest")

/-- `rdf:nil`. -/
def nil : Term := .iri (rdf ++ "nil")

/-- A literal of an XML Schema datatype. -/
def typed (value name : String) : Term := .literal value none (some (xsd ++ name))

end Vocab

/-- The lowercase hexadecimal digits of a number, at least one. -/
def hexDigits (n : Nat) : String :=
  String.ofList (Nat.toDigits 16 n)

/-- The label of the `n`-th blank node written without a label: 32 hexadecimal digits. -/
def freshLabel (n : Nat) : String :=
  let digits := hexDigits (n + 1)
  String.ofList (List.replicate (32 - digits.length) '0') ++ digits

/-- A place in a text: the line and the column in characters, both counted from zero, and
the offset in bytes. -/
structure Place where
  line : Nat
  column : Nat
  offset : Nat
deriving DecidableEq, Repr, Inhabited

/-- The place after a line break. -/
def Place.newline (p : Place) (bytes : Nat) : Place := ⟨p.line + 1, 0, p.offset + bytes⟩

/-- The place after reading characters. A line break is `\n`, `\r\n` or a lone `\r`. -/
def Place.over : Place → List Char → Place
  | p, [] => p
  | p, '\r' :: '\n' :: rest => Place.over (p.newline 2) rest
  | p, '\r' :: rest => Place.over (p.newline 1) rest
  | p, '\n' :: rest => Place.over (p.newline 1) rest
  | p, c :: rest => Place.over ⟨p.line, p.column + 1, p.offset + c.utf8Size⟩ rest

/-- An error with the span of text it is about. -/
structure TextError where
  message : String
  start : Place
  stop : Place
deriving DecidableEq, Repr, Inhabited

/-- The text of an error at a place. A span of at most one byte is shown as its start; lines and
columns are shown counted from one. -/
def TextError.text (e : TextError) : String :=
  let line (p : Place) := toString (p.line + 1)
  let column (p : Place) := toString (p.column + 1)
  if e.start.offset + 1 ≥ e.stop.offset then
    "Parser error at line " ++ line e.start ++ " column " ++ column e.start ++ ": " ++ e.message
  else if e.start.line == e.stop.line then
    "Parser error at line " ++ line e.start ++ " between columns " ++ column e.start ++ " and " ++
      column e.stop ++ ": " ++ e.message
  else
    "Parser error between line " ++ line e.start ++ " column " ++ column e.start ++ " and line " ++
      line e.stop ++ " column " ++ column e.stop ++ ": " ++ e.message

/-- Why a text could not be read as RDF: an error at a place in the text, or a fault with no place. -/
inductive Fault where
  | located (e : TextError)
  | plain (message : String)
deriving DecidableEq, Repr, Inhabited

/-- The text of a fault. -/
def Fault.text : Fault → String
  | .located e => e.text
  | .plain m => m

end Thesaurus.Rdf
