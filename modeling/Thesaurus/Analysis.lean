import Thesaurus.Tokenizer
import Thesaurus.Text.Quote
import Thesaurus.Settings.Basic
import Thesaurus.Expansion.Window
import Thesaurus.Expansion.Uri

/-!
Analysis: a pipeline runs a tokenizer and then its filters in order. The filters lowercase
the tokens that are not expansions, expand label windows, or expand URIs. The thesaurus
analyzer of a set of settings is, in label mode, the word tokenizer, lowercasing and label
expansion; in URI mode, the whole-text tokenizer and URI expansion. Each part also has a debug
text that names it and its settings.
-/

namespace Thesaurus

open Thesaurus.Expansion

/-- A token filter. -/
inductive Filter where
  | lowercase
  | label (src : Source) (kinds : List ExpansionKind) (matchKinds : List LabelKind) (window : Nat)
  | uri (src : Source) (kinds : List ExpansionKind)

/-- The debug text of a list of names: `[a, b]`. -/
def debugList (xs : List String) : String :=
  "[" ++ ", ".intercalate xs ++ "]"

namespace Filter

/-- A label filter with windows of one token, matching every label kind. -/
def labelWith (src : Source) (kinds : List ExpansionKind) : Filter :=
  .label src kinds LabelKind.all 1

/-- The label filter of checked settings: their kinds, label kinds and window. -/
def labelOf (src : Source) (s : Settings) : Except Error Filter := do
  s.validate
  pure (.label src s.kinds s.matchKinds (max s.window 1))

/-- The URI filter of checked settings. -/
def uriOf (src : Source) (s : Settings) : Except Error Filter := do
  s.validate
  pure (.uri src s.kinds)

/-- The name of a filter. -/
def name : Filter → String
  | .lowercase => "lowercase"
  | .label .. => "skos_label"
  | .uri .. => "skos_uri"

/-- The debug text of a filter. -/
def debug : Filter → String
  | .lowercase => "LowercaseFilter"
  | .label _ kinds matchKinds window =>
    "SkosLabelFilter \x7b kinds: " ++ debugList (kinds.map ExpansionKind.title) ++
      ", match_kinds: " ++ debugList (matchKinds.map LabelKind.title) ++
      ", window_size: " ++ toString window ++ " \x7d"
  | .uri _ kinds => "SkosUriFilter \x7b kinds: " ++ debugList (kinds.map ExpansionKind.title) ++ " \x7d"

/-- Runs a filter over a token stream. -/
def apply : Filter → List Token → Except Error (List Token)
  | .lowercase, ts =>
    .ok (ts.map fun t => if t.isExpansion then t else t.withText (Text.lowerString t.text))
  | .label src kinds matchKinds window, ts =>
    Window.drain src (((Window.new ts kinds).withSize window).withMatchKinds matchKinds)
  | .uri src kinds, ts => UriStream.drain src (UriStream.new ts kinds)

end Filter

/-- A pipeline: a tokenizer, filters in order, and a name. -/
structure Pipeline where
  tokenizer : Tokenizer
  filters : List Filter
  name : String

namespace Pipeline

/-- A pipeline of a tokenizer alone, named after it. -/
def new (t : Tokenizer) : Pipeline := ⟨t, [], "pipeline_" ++ t.name⟩

/-- The pipeline with one more filter at the end. -/
def addFilter (p : Pipeline) (f : Filter) : Pipeline := { p with filters := p.filters ++ [f] }

/-- The pipeline under another name. -/
def withName (p : Pipeline) (n : String) : Pipeline := { p with name := n }

/-- The tokens of a text: the tokenizer's, passed through each filter in order. -/
def analyze (p : Pipeline) (text : String) : Except Error (List Token) :=
  p.filters.foldlM (fun ts f => f.apply ts) (p.tokenizer.tokenize text)

/-- The debug text of a pipeline. -/
def debug (p : Pipeline) : String :=
  "PipelineAnalyzer \x7b name: " ++ Text.debugQuote p.name ++ ", tokenizer: " ++
    Text.debugQuote p.tokenizer.name ++ ", filters: " ++
    debugList (p.filters.map fun f => Text.debugQuote f.name) ++ " \x7d"

end Pipeline

/-- The thesaurus analyzer: a pipeline built from settings, and their mode. -/
structure Analyzer where
  inner : Pipeline
  mode : Mode

namespace Analyzer

/-- The analyzer of settings over a source: word tokens, lowercased, label windows expanded
(label mode), or the whole text with its URI expanded (URI mode). The settings are checked. -/
def ofSettings (src : Source) (s : Settings) : Except Error Analyzer :=
  match s.mode with
  | .label => do
    let f ← Filter.labelOf src s
    pure ⟨(((Pipeline.new .unicodeWord).addFilter .lowercase).addFilter f).withName "skos_label", .label⟩
  | .uri => do
    let f ← Filter.uriOf src s
    pure ⟨((Pipeline.new .whole).addFilter f).withName "skos_uri", .uri⟩

/-- The tokens of a text. -/
def analyze (a : Analyzer) (text : String) : Except Error (List Token) :=
  a.inner.analyze text

/-- The debug text of an analyzer. -/
def debug (a : Analyzer) : String :=
  "SkosAnalyzer \x7b inner: " ++ a.inner.debug ++ ", mode: " ++ a.mode.title ++ " \x7d"

end Analyzer

end Thesaurus
