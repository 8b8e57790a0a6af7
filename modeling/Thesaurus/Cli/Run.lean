import Thesaurus.Cli.Report
import Thesaurus.Vocabulary
import Thesaurus.Analysis
import Thesaurus.Store.Source

/-!
Running a command line. A run reads its files and its clock through a `Host`, collects the
notes of its way, and ends with an exit code and the texts of its two streams: the result on
the standard output; on the error stream, the notes at or above the run's level, then the
failure if there is one. A misused command line exits with 2, a failed command with 1.
-/

namespace Thesaurus.Cli

/-- How a run ends: its exit code and the texts it wrote. -/
structure Outcome where
  code : Nat
  stdout : String
  stderr : String
deriving Repr, Inhabited

/-- A step of a command: it may fail, and it collects notes. -/
abbrev Step (m : Type → Type) := ExceptT Error (StateT (List Note) m)

section Steps

variable {m : Type → Type} [Monad m]

/-- Leaves a note. -/
def say (n : Note) : Step m Unit :=
  modify fun ns => ns ++ [n]

/-- Goes on with a value, or fails with an error. -/
def check {α : Type} (r : Except Error α) : Step m α :=
  match r with
  | .ok a => pure a
  | .error e => throw e

/-- The language filter of the languages given on the command line. -/
def filterOf (v : VocabularyArgs) : LanguageFilter :=
  if v.languages.isEmpty then ⟨none⟩ else ⟨some (Settings.sortedSet v.languages)⟩

/-- Builds the store of the vocabulary file, in the serialization named or guessed. -/
def loadStore (sys : Host m) (v : VocabularyArgs) (f : LanguageFilter) : Step m Store := do
  let file ← match v.rdfFormat with
    | some name => do pure (⟨v.vocab, ← check (Rdf.Format.parse name)⟩ : VocabularyFile)
    | none => check (VocabularyFile.guess v.vocab)
  say ⟨.debug, "loading " ++ file.format.name ++ " vocabulary " ++ v.vocab⟩
  let (notes, r) ← (file.build sys f : m _)
  for n in notes do say n
  check r

/-- The expansion settings: those of the configuration file or the default ones, then the
kinds, the window, URI mode (with a window of one) and the languages given; then checked. -/
def settingsOf (sys : Host m) (config : Option String) (kinds : List String) (window : Option Nat)
    (uri : Bool) (languages : List String) : Step m Settings := do
  let base ← match config with
    | some path => do check (← (Settings.ofFile sys path : m _))
    | none => pure Settings.default
  let s ← if kinds.isEmpty then pure base
    else do pure { base with kinds := ← check (kinds.mapM ExpansionKind.parse) }
  let s := match window with
    | some w => { s with window := w }
    | none => s
  let s := if uri then { s with mode := .uri, window := 1 } else s
  let s := if languages.isEmpty then s else { s with languages := some languages }
  check s.validate
  pure s

/-- The number of labels of a kind over all concepts. -/
def labelTotal (s : Store) (k : LabelKind) : Nat :=
  s.concepts.foldl (fun n c => n + (c.labels k).length) 0

/-- The number of direct broader, narrower and related links over all concepts. -/
def relationTotal (s : Store) : Nat :=
  s.concepts.foldl (fun n c => n + c.broader.length + c.narrower.length + c.related.length) 0

/-- Runs a command to its result. -/
def execute (sys : Host m) : Command → Step m Report
  | .expand v config kinds window uri text => do
    let s ← settingsOf sys config kinds window uri v.languages
    let store ← loadStore sys v s.filter
    let analyzer ← check (Analyzer.ofSettings store.source s)
    pure (.expansion text s.mode (← check (analyzer.analyze text)))
  | .lookup v labelKinds label => do
    let kinds ← check (labelKinds.mapM LabelKind.parse)
    let store ← loadStore sys v (filterOf v)
    pure (.lookup label (Label.normalize label) kinds (store.lookup label kinds))
  | .concept v uri => do
    let store ← loadStore sys v (filterOf v)
    pure (.concept uri (store.concept? uri))
  | .stats v => do
    let started ← (sys.clock : m _)
    let store ← loadStore sys v (filterOf v)
    let stopped ← (sys.clock : m _)
    pure (.stats ⟨v.vocab, store.size, store.labelCount, labelTotal store .pref, labelTotal store .alt,
      labelTotal store .hidden, relationTotal store, store.maxLabelTokens, (stopped - started) / 1000000⟩)

end Steps

/-- The rank of the least urgent level a verbosity shows: errors when quiet, warnings by
default, progress at 2, detail from 3. -/
def shownRank (verbosity : Nat) : Nat :=
  min verbosity 3

/-- The text of a result in the output format asked for; text for people is preceded by the
result's title when the run reports progress. -/
def render (i : Invocation) (r : Report) : String :=
  match i.format with
  | .human => (if 1 < i.verbosity then r.title ++ "\n\n" else "") ++ r.human
  | .json => (if i.pretty then r.toJson.pretty else r.toJson.compact) ++ "\n"

/-- Runs a command line, the program's name left out. -/
def run {m : Type → Type} [Monad m] (sys : Host m) (args : List String) : m Outcome := do
  match parse args with
  | .usage message usage =>
    pure ⟨2, "", "error: " ++ message ++ "\n\nUsage: " ++ usage ++ "\n\nFor more information, try '--help'.\n"⟩
  | .help text => pure ⟨0, text, ""⟩
  | .version => pure ⟨0, programName ++ " " ++ version ++ "\n", ""⟩
  | .run i =>
    let (r, notes) ← ((execute sys i.command).run).run []
    let log := String.join ((notes.filter (·.level.rank ≤ shownRank i.verbosity)).map (·.line ++ "\n"))
    match r with
    | .ok report => pure ⟨0, render i report, log⟩
    | .error e =>
      pure ⟨1, "", log ++ "Error: " ++ i.command.name ++ " failed: " ++ ": ".intercalate e.chain ++ "\n"⟩

end Thesaurus.Cli
