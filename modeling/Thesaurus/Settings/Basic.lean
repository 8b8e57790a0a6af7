import Thesaurus.Kind
import Thesaurus.Json.Value

/-!
Expansion settings: the mode (label windows or URIs), the kinds of expansion to emit, the
longest window of tokens matched as one label, the languages of the labels kept, and the label
kinds a window may match. `Settings.validate` refuses settings by the first failing check, in
the order: a window of no tokens, no expansion kind, no label kind to match, and a window
other than one token in URI mode.
-/

namespace Thesaurus

/-- What an expansion matches: windows of tokens against labels, or whole tokens as URIs. -/
inductive Mode where
  | label
  | uri
deriving DecidableEq, Repr, Inhabited

/-- The name of a mode. -/
def Mode.name : Mode → String
  | .label => "label"
  | .uri => "uri"

/-- The name of a mode in the program's debug texts. -/
def Mode.title : Mode → String
  | .label => "Label"
  | .uri => "Uri"

/-- Which labels a store keeps: every label, or those whose language tag is listed (an
untagged label counts as tagged with the empty string). -/
structure LanguageFilter where
  tags : Option (List String)
deriving DecidableEq, Repr, Inhabited

/-- Whether a filter keeps a label with the given tag. -/
def LanguageFilter.accepts (f : LanguageFilter) (tag : Option String) : Bool :=
  match f.tags with
  | none => true
  | some tags => tags.contains (tag.getD "")

/-- The settings of an expansion. -/
structure Settings where
  mode : Mode
  kinds : List ExpansionKind
  window : Nat
  languages : Option (List String)
  matchKinds : List LabelKind
deriving DecidableEq, Repr, Inhabited

namespace Settings

/-- Settings of a mode and kinds, with a window of one token, every language and every label
kind to match. -/
def new (mode : Mode) (kinds : List ExpansionKind) : Settings :=
  ⟨mode, kinds, 1, none, LabelKind.all⟩

/-- The default settings: label mode, emitting preferred and alternative labels. -/
def default : Settings :=
  new .label [.labels .pref, .labels .alt]

/-- Checks the settings, reporting the first check that fails. -/
def validate (s : Settings) : Except Error Unit :=
  if s.window = 0 then .error (.config .windowZero)
  else if s.kinds.isEmpty then .error (.config .noExpansionKinds)
  else if s.matchKinds.isEmpty then .error (.config .noMatchKinds)
  else if s.mode = .uri ∧ s.window ≠ 1 then .error (.config .uriWindow)
  else .ok ()

/-- Strings in increasing order, each once. -/
def sortedSet (xs : List String) : List String :=
  let sorted := xs.mergeSort (fun a b => decide (a ≤ b))
  sorted.foldr (fun x acc => match acc with
    | y :: _ => if x = y then acc else x :: acc
    | [] => [x]) []

/-- The language tags a store keeps under these settings, in increasing order, each once. -/
def storeLanguages (s : Settings) : Option (List String) :=
  s.languages.map sortedSet

/-- The language filter of a store built for these settings. -/
def filter (s : Settings) : LanguageFilter :=
  ⟨s.storeLanguages⟩

/-- The settings as a JSON object: `mode`, `expansionKinds`, `windowSize`, `languages` when
set, and `matchLabelKinds`. -/
def toJson (s : Settings) : Json :=
  .obj ([("mode", .str s.mode.name),
    ("expansionKinds", Json.strs (s.kinds.map ExpansionKind.name)),
    ("windowSize", .nat s.window)] ++
    (match s.languages with
      | some ls => [("languages", Json.strs ls)]
      | none => []) ++
    [("matchLabelKinds", Json.strs (s.matchKinds.map LabelKind.name))])

end Settings

end Thesaurus
