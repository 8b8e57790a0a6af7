import Thesaurus.Error
import Thesaurus.Text.Trim

/-!
The kinds of a thesaurus: label kinds (preferred, alternative, hidden), relation kinds
(broader and narrower, direct or transitive, and related) and the expansion kinds, which emit
the labels of a kind, the labels of related concepts, or the concept's URI.
-/

namespace Thesaurus

/-- The kinds of labels of a concept. -/
inductive LabelKind where
  | pref
  | alt
  | hidden
deriving DecidableEq, Repr, Inhabited

namespace LabelKind

/-- Every label kind, in order. -/
def all : List LabelKind := [.pref, .alt, .hidden]

/-- The short name of a label kind. -/
def name : LabelKind → String
  | .pref => "pref"
  | .alt => "alt"
  | .hidden => "hidden"

/-- The name of a label kind in the program's debug texts. -/
def title : LabelKind → String
  | .pref => "Pref"
  | .alt => "Alt"
  | .hidden => "Hidden"

/-- Reads a label kind: its short name or its property name (`prefLabel`), ASCII letters in
any case, with no blank around it. -/
def parse (s : String) : Except Error LabelKind :=
  let low := s.toLower
  if low == "pref" || low == "preflabel" then .ok .pref
  else if low == "alt" || low == "altlabel" then .ok .alt
  else if low == "hidden" || low == "hiddenlabel" then .ok .hidden
  else .error (.config (.unknownLabelKind low))

end LabelKind

/-- The kinds of relations between concepts. -/
inductive RelationKind where
  | broader
  | broaderTransitive
  | narrower
  | narrowerTransitive
  | related
deriving DecidableEq, Repr, Inhabited

namespace RelationKind

/-- Every relation kind, in order. -/
def all : List RelationKind := [.broader, .broaderTransitive, .narrower, .narrowerTransitive, .related]

/-- The property name of a relation kind. -/
def name : RelationKind → String
  | .broader => "broader"
  | .broaderTransitive => "broaderTransitive"
  | .narrower => "narrower"
  | .narrowerTransitive => "narrowerTransitive"
  | .related => "related"

/-- The name of a relation kind in the program's debug texts. -/
def title : RelationKind → String
  | .broader => "Broader"
  | .broaderTransitive => "BroaderTransitive"
  | .narrower => "Narrower"
  | .narrowerTransitive => "NarrowerTransitive"
  | .related => "Related"

/-- The relation kind of a property name, exactly as written. -/
def ofName? (s : String) : Option RelationKind :=
  all.find? (·.name == s)

end RelationKind

/-- What an expansion emits for a matched concept. -/
inductive ExpansionKind where
  | labels (kind : LabelKind)
  | relation (kind : RelationKind)
  | uri
deriving DecidableEq, Repr, Inhabited

namespace ExpansionKind

/-- Every expansion kind, in order. -/
def all : List ExpansionKind :=
  (LabelKind.all.map .labels) ++ (RelationKind.all.map .relation) ++ [.uri]

/-- The name of an expansion kind. -/
def name : ExpansionKind → String
  | .labels k => k.name ++ "Label"
  | .relation r => r.name
  | .uri => "uri"

/-- The name of an expansion kind in the program's debug texts. -/
def title : ExpansionKind → String
  | .labels k => k.title ++ "Label"
  | .relation r => r.title
  | .uri => "Uri"

/-- Reads an expansion kind: its name or the short name of a label kind, in any case of ASCII
letters, blanks around it ignored. -/
def parse (s : String) : Except Error ExpansionKind :=
  let t := Text.trim s
  match all.find? (fun k => k.name.toLower == t.toLower) with
  | some k => .ok k
  | none =>
    match (LabelKind.all.find? (fun k => k.name == t.toLower)) with
    | some k => .ok (.labels k)
    | none => .error (.config (.unknownExpansionKind s))

/-- The expansion kind of an exact name, or of one of the short names `pref`, `alt`, `hidden`. -/
def ofWire? (s : String) : Option ExpansionKind :=
  match all.find? (·.name == s) with
  | some k => some k
  | none => (LabelKind.all.find? (·.name == s)).map .labels

end ExpansionKind

end Thesaurus
