import Thesaurus.Kind
import Thesaurus.Json.Value

/-!
The record of a concept in a store: its URI, its labels of each kind (normalized, each once,
in order of first appearance) and its related URIs of each kind.
-/

namespace Thesaurus

/-- A concept: its URI, labels and relations. -/
structure Concept where
  uri : String
  prefLabels : List String
  altLabels : List String
  hiddenLabels : List String
  broader : List String
  broaderTransitive : List String
  narrower : List String
  narrowerTransitive : List String
  related : List String
deriving DecidableEq, Repr, Inhabited

namespace Concept

/-- A concept with no labels and no relations. -/
def new (uri : String) : Concept := ⟨uri, [], [], [], [], [], [], [], []⟩

/-- The labels of a kind. -/
def labels (c : Concept) : LabelKind → List String
  | .pref => c.prefLabels
  | .alt => c.altLabels
  | .hidden => c.hiddenLabels

/-- The related URIs of a kind. -/
def relatedBy (c : Concept) : RelationKind → List String
  | .broader => c.broader
  | .broaderTransitive => c.broaderTransitive
  | .narrower => c.narrower
  | .narrowerTransitive => c.narrowerTransitive
  | .related => c.related

/-- A list with one more value at the end, unless it holds it already. -/
def pushNew (xs : List String) (x : String) : List String :=
  if xs.contains x then xs else xs ++ [x]

/-- The concept with one more label of a kind, unless it has it already. -/
def addLabel (c : Concept) (k : LabelKind) (label : String) : Concept :=
  match k with
  | .pref => { c with prefLabels := pushNew c.prefLabels label }
  | .alt => { c with altLabels := pushNew c.altLabels label }
  | .hidden => { c with hiddenLabels := pushNew c.hiddenLabels label }

/-- The concept with one more related URI of a kind, unless it has it already. -/
def addRelated (c : Concept) (r : RelationKind) (target : String) : Concept :=
  match r with
  | .broader => { c with broader := pushNew c.broader target }
  | .broaderTransitive => { c with broaderTransitive := pushNew c.broaderTransitive target }
  | .narrower => { c with narrower := pushNew c.narrower target }
  | .narrowerTransitive => { c with narrowerTransitive := pushNew c.narrowerTransitive target }
  | .related => { c with related := pushNew c.related target }

/-- Every label with its kind: preferred, then alternative, then hidden. -/
def allLabels (c : Concept) : List (LabelKind × String) :=
  LabelKind.all.flatMap fun k => (c.labels k).map (k, ·)

/-- The record as a JSON object, its fields in order. -/
def toJson (c : Concept) : Json :=
  .obj [("uri", .str c.uri), ("pref_labels", Json.strs c.prefLabels),
    ("alt_labels", Json.strs c.altLabels), ("hidden_labels", Json.strs c.hiddenLabels),
    ("broader", Json.strs c.broader), ("broader_transitive", Json.strs c.broaderTransitive),
    ("narrower", Json.strs c.narrower), ("narrower_transitive", Json.strs c.narrowerTransitive),
    ("related", Json.strs c.related)]

end Concept

end Thesaurus
