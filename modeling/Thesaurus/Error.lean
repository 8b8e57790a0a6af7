/-!
Errors, by cause. Each cause has one message, written by `Error.message`; `Error.chain` lists
the message followed by the messages of the causes behind it, as a command line reports them.
-/

namespace Thesaurus

/-- Why a set of expansion settings is refused. -/
inductive ConfigIssue where
  | unknownLabelKind (name : String)
  | unknownExpansionKind (name : String)
  | windowZero
  | noExpansionKinds
  | noMatchKinds
  | uriWindow
deriving DecidableEq, Repr, Inhabited

/-- The text of a configuration issue. -/
def ConfigIssue.text : ConfigIssue → String
  | .unknownLabelKind name => "unknown label kind '" ++ name ++ "'"
  | .unknownExpansionKind name => "unknown expansion kind '" ++ name ++ "'"
  | .windowZero => "windowSize must be at least 1"
  | .noExpansionKinds => "expansionKinds must name at least one kind"
  | .noMatchKinds => "matchLabelKinds must name at least one label kind"
  | .uriWindow => "windowSize is fixed at 1 in uri mode"

/-- What a file is read for. -/
inductive FileRole where
  | configuration
  | vocabulary
deriving DecidableEq, Repr, Inhabited

/-- The word for a file role in messages. -/
def FileRole.word : FileRole → String
  | .configuration => "configuration"
  | .vocabulary => "vocabulary"

/-- A failure, by cause. -/
inductive Error where
  | unreadable (role : FileRole) (path : String) (reason : String)
  | unknownFormat (name : String)
  | unknownExtension (path : String)
  | malformed (format : String) (source : String) (reason : String)
  | lookupFailed (token : String) (position : Nat) (cause : Error)
  | store (reason : String)
  | config (issue : ConfigIssue)
  | json (reason : String) (place : Option (Nat × Nat))
deriving Repr, Inhabited

namespace Error

/-- The text of a JSON decoding failure, with its place. -/
def jsonText (reason : String) : Option (Nat × Nat) → String
  | some (line, column) => reason ++ " at line " ++ toString line ++ " column " ++ toString column
  | none => reason

/-- The message of an error. -/
def message : Error → String
  | .unreadable role path reason =>
    "I/O error: cannot read " ++ role.word ++ " '" ++ path ++ "': " ++ reason
  | .unknownFormat name =>
    "Format error: invalid RDF serialization format '" ++ name ++
      "' (expected N-TRIPLES, TURTLE, N3 or RDF/XML)"
  | .unknownExtension path => "Format error: cannot determine RDF serialization of '" ++ path ++ "'"
  | .malformed format source reason =>
    "Parse error: failed to parse " ++ format ++ " vocabulary " ++ source ++ ": " ++ reason
  | .lookupFailed token position cause =>
    "Analysis error: concept lookup failed for token '" ++ token ++ "' at position " ++
      toString position ++ ": " ++ cause.message
  | .store reason => "Store error: " ++ reason
  | .config issue => "Configuration error: " ++ issue.text
  | .json reason place => "JSON error: " ++ jsonText reason place

/-- The message of an error followed by those of the causes behind it: the system's text of a
file that could not be read, the decoder's text of a JSON failure. -/
def chain (e : Error) : List String :=
  match e with
  | .unreadable role path reason =>
    [e.message, "cannot read " ++ role.word ++ " '" ++ path ++ "': " ++ reason]
  | .json reason place => [e.message, jsonText reason place]
  | _ => [e.message]

end Error

end Thesaurus
