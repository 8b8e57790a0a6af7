import Thesaurus.Store.Basic

/-!
Concept sources: where an expansion looks concepts up. A source answers three questions, each
of which may fail: the concepts a text labels, whether a URI is a concept, and what a concept
expands to for an expansion kind. A store is a source that never fails.
-/

namespace Thesaurus

/-- A concept source. -/
structure Source where
  conceptsForLabel : String → List LabelKind → Except Error (List String)
  containsConcept : String → Except Error Bool
  expansions : String → ExpansionKind → Except Error (List String)

namespace Store

/-- The texts a concept expands to: its labels of a kind, the labels of its related concepts
of a kind, or its URI when it is a concept. -/
def expand (s : Store) (uri : String) : ExpansionKind → List String
  | .labels k => s.labelsOf uri k
  | .relation r => s.relationLabels uri r
  | .uri => if s.contains uri then [uri] else []

/-- The store as a concept source. -/
def source (s : Store) : Source where
  conceptsForLabel text kinds := .ok (s.lookup text kinds)
  containsConcept uri := .ok (s.contains uri)
  expansions uri kind := .ok (s.expand uri kind)

end Store

end Thesaurus
