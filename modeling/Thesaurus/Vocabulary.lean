import Thesaurus.Host
import Thesaurus.Log
import Thesaurus.Rdf.Load
import Thesaurus.Settings.Decode
import Thesaurus.Store.Basic

/-!
Vocabularies and settings read from files. A vocabulary file is read in a serialization that
is given or guessed from the file's extension; building a store from it leaves notes — the
load's count of statements, what the store skipped, and the build's summary with its duration.
A file that cannot be read fails with the system's reason, naming what the file was read for.
-/

namespace Thesaurus

/-- A vocabulary file and the serialization it is read in. -/
structure VocabularyFile where
  path : String
  format : Rdf.Format
deriving Inhabited

namespace VocabularyFile

/-- A file whose serialization is guessed from its extension. -/
def guess (path : String) : Except Error VocabularyFile := do
  pure ⟨path, ← Rdf.Format.ofPath path⟩

/-- How messages name the file: its path in quotes. -/
def describe (v : VocabularyFile) : String := Rdf.describePath v.path

/-- Reads the file and loads its statements. -/
def load {m : Type → Type} [Monad m] (sys : Host m) (v : VocabularyFile) :
    m (Except Error Rdf.Loaded) := do
  match ← sys.read v.path with
  | .error reason => pure (.error (.unreadable .vocabulary v.path reason))
  | .ok text => pure (Rdf.load v.format v.describe text)

/-- The summary a build leaves: the source, the numbers of concepts and of labels, and the
time the build took. -/
def summary (v : VocabularyFile) (s : Store) (nanos : Nat) : String :=
  "built concept store from " ++ v.describe ++ ": " ++ toString s.size ++ " concepts, " ++
    toString s.labelCount ++ " distinct labels in " ++ durationText nanos

/-- Builds a store from the file, keeping the labels the filter accepts: the notes the build
leaves, in order, and the store or the failure. -/
def build {m : Type → Type} [Monad m] (sys : Host m) (v : VocabularyFile) (f : LanguageFilter) :
    m (List Note × Except Error Store) := do
  let started ← sys.clock
  match ← v.load sys with
  | .error e => pure ([], .error e)
  | .ok loaded =>
    let store := Store.ofGraph loaded.graph f
    let stopped ← sys.clock
    let notes := ⟨.debug, loaded.note v.describe⟩ :: Store.notes loaded.graph f
    pure (notes ++ [⟨.info, v.summary store (stopped - started)⟩], .ok store)

end VocabularyFile

/-- Reads expansion settings from a JSON file and checks them. -/
def Settings.ofFile {m : Type → Type} [Monad m] (sys : Host m) (path : String) :
    m (Except Error Settings) := do
  match ← sys.read path with
  | .error reason => pure (.error (.unreadable .configuration path reason))
  | .ok text => pure (Settings.ofJson text)

end Thesaurus
