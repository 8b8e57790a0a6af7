import Std.Data.TreeMap
import Thesaurus.Graph
import Thesaurus.Label
import Thesaurus.Log
import Thesaurus.Settings.Basic
import Thesaurus.Store.Concept
import Thesaurus.Store.Closure

/-!
The concept store. It is built once from a graph: its concepts are the graph's concepts in
order; each label statement whose language the store keeps adds the label's normal form to its
subject (once, and not when it is empty); each relation statement with a resource object adds
the object's key; other statements are skipped. The transitive lists are computed by
breadth-first search over the stated and the transitive links. A label index maps each normal
label to the concepts that carry it, by kind; the store keeps it as a map from the bytes of each
label to the label's number in increasing order, and a table of the postings by number.
-/

namespace Thesaurus

/-- The concepts that carry one label: their indices, one list per label kind. -/
structure Posting where
  pref : List Nat
  alt : List Nat
  hidden : List Nat
deriving DecidableEq, Repr, Inhabited

namespace Posting

/-- No concept. -/
def empty : Posting := ⟨[], [], []⟩

/-- The concepts of a kind. -/
def get (p : Posting) : LabelKind → List Nat
  | .pref => p.pref
  | .alt => p.alt
  | .hidden => p.hidden

/-- The posting with one more concept of a kind, at the end. -/
def add (p : Posting) (k : LabelKind) (i : Nat) : Posting :=
  match k with
  | .pref => { p with pref := p.pref ++ [i] }
  | .alt => { p with alt := p.alt ++ [i] }
  | .hidden => { p with hidden := p.hidden ++ [i] }

end Posting

/-- A finite state transducer map from byte strings to numbers, as the store reads it: the number
of a key (none for a key it does not hold), and the number of keys. -/
structure LabelMap where
  get : List UInt8 → Option Nat
  size : Nat

/-- The map that holds the keys of a list, each with its number there. -/
def LabelMap.ofEntries (kvs : List (List UInt8 × Nat)) : LabelMap :=
  ⟨fun key => kvs.lookup key, kvs.length⟩

/-- A built concept store: the concepts in order, the position of each by its URI, the label map
from the UTF-8 bytes of each normal label to the label's number, the posting table by those
numbers, the greatest number of words of a label, and which labels it keeps. -/
structure Store where
  concepts : Array Concept
  ids : Std.TreeMap String Nat compare
  labels : LabelMap
  postings : Array Posting
  maxLabelTokens : Nat
  filter : LanguageFilter

namespace Store

/-- The concept record of a statement's effect: a kept label adds its normal form, a relation
to a resource adds the resource's key; anything else changes nothing. -/
def absorb (f : LanguageFilter) (c : Concept) (s : Statement) : Concept :=
  match s.predicate, s.object with
  | .label k, .literal l =>
    if f.accepts l.language then
      let label := Label.normalize l.value
      if label.isEmpty then c else c.addLabel k label
    else c
  | .relation r, .resource t => c.addRelated r t.key
  | _, _ => c

/-- The concepts of a graph with their labels and stated relations. -/
def records (g : Graph) (f : LanguageFilter) : Array Concept × Std.TreeMap String Nat compare :=
  let uris := g.concepts
  let ids : Std.TreeMap String Nat compare :=
    (uris.zipIdx).foldl (fun m (u, i) => m.insert u i) {}
  let start : Array Concept := (uris.map Concept.new).toArray
  let filled := g.statements.foldl (fun (acc : Array Concept) s =>
    match ids.get? s.subject.key with
    | some i => acc.modify i (fun c => absorb f c s)
    | none => acc) start
  (filled, ids)

/-- The successors of a concept in a closure: its stated links of kind `direct`, then its
links of kind `explicit`. -/
def successors (concepts : Array Concept) (ids : Std.TreeMap String Nat compare)
    (direct explicit : RelationKind) (u : String) : Option (List String) :=
  (ids.get? u).bind fun i => concepts[i]?.map fun c => c.relatedBy direct ++ c.relatedBy explicit

/-- The closure of each concept under a direct and an explicit transitive relation. -/
def closures (concepts : Array Concept) (ids : Std.TreeMap String Nat compare)
    (direct explicit : RelationKind) : Array (List String) :=
  let succ := successors concepts ids direct explicit
  let links := concepts.foldl (fun n c => n + (c.relatedBy direct).length +
    (c.relatedBy explicit).length) 0
  concepts.map fun c => Closure.reach succ (2 * links) c.uri

/-- The label index of the concepts and the greatest number of words of a label. -/
def indexOf (concepts : Array Concept) : Std.TreeMap String Posting compare × Nat :=
  concepts.toList.zipIdx.foldl (fun (m, most) (c, i) =>
    c.allLabels.foldl (fun (m, most) (k, label) =>
      (m.insert label ((m.getD label Posting.empty).add k i), max most (Label.wordCount label)))
      (m, most)) ({}, 0)

/-- The entries of the label map of a label index: the UTF-8 bytes of each label, in increasing
order, with the label's number in that order. -/
def labelEntries (index : Std.TreeMap String Posting compare) : List (List UInt8 × Nat) :=
  index.toList.zipIdx.map fun p => (p.1.1.toUTF8.data.toList, p.2)

/-- Builds the store of a graph, keeping the labels that the filter accepts. The label map
numbers the labels in increasing order, and the posting table holds each label's posting at
its number. -/
def ofGraph (g : Graph) (f : LanguageFilter) : Store :=
  let (records, ids) := records g f
  let broader := closures records ids .broader .broaderTransitive
  let narrower := closures records ids .narrower .narrowerTransitive
  let concepts := records.zipIdx.map fun (c, i) =>
    { c with broaderTransitive := broader.getD i [], narrowerTransitive := narrower.getD i [] }
  let (index, most) := indexOf concepts
  ⟨concepts, ids, .ofEntries (labelEntries index), (index.toList.map Prod.snd).toArray, most, f⟩

/-- The label index of the store's concepts, from which its label map and posting table are
written. -/
def index (s : Store) : Std.TreeMap String Posting compare := (indexOf s.concepts).1

/-- The store with no concept, keeping every label. -/
def empty : Store := ofGraph Graph.empty ⟨none⟩

/-- The record of a URI, if it is a concept. -/
def concept? (s : Store) (uri : String) : Option Concept :=
  (s.ids.get? uri).bind fun i => s.concepts[i]?

/-- Whether a URI is a concept. -/
def contains (s : Store) (uri : String) : Bool :=
  s.ids.contains uri

/-- The number of concepts. -/
def size (s : Store) : Nat := s.concepts.size

/-- The number of distinct normal labels. -/
def labelCount (s : Store) : Nat := s.labels.size

/-- The URIs of the concepts that carry the normal form of `text` as a label of one of the
kinds, each once, in store order; none when the normal form is empty. The label map gives the
label's number and the posting table its posting there. A number past the table, or a concept
id past the concepts, is where the program stops; no built store holds one. -/
def lookup (s : Store) (text : String) (kinds : List LabelKind) : List String :=
  let key := Label.normalize text
  if key.isEmpty then []
  else
    match s.labels.get key.toUTF8.data.toList with
    | none => []
    | some n =>
      match s.postings[n]? with
      | none => []
      | some p =>
        let ids := (kinds.flatMap p.get).mergeSort (fun a b => decide (a ≤ b))
        let ids := ids.foldr (fun x acc => match acc with
          | y :: _ => if x = y then acc else x :: acc
          | [] => [x]) []
        ids.filterMap fun i => s.concepts[i]?.map (·.uri)

/-- The related URIs of a kind of a concept; none for a URI that is no concept. -/
def relatedOf (s : Store) (uri : String) (r : RelationKind) : List String :=
  ((s.concept? uri).map (·.relatedBy r)).getD []

/-- The labels of a kind of a concept; none for a URI that is no concept. -/
def labelsOf (s : Store) (uri : String) (k : LabelKind) : List String :=
  ((s.concept? uri).map (·.labels k)).getD []

/-- The preferred then alternative labels of each related concept of a kind, in order; related
URIs that are no concepts give nothing. -/
def relationLabels (s : Store) (uri : String) (r : RelationKind) : List String :=
  (s.relatedOf uri r).flatMap fun t => match s.concept? t with
    | some c => c.prefLabels ++ c.altLabels
    | none => []

/-- The notes of building a store from a graph: statements about no concept and empty labels
in detail, labels with a resource object and relations with a literal object as warnings. -/
def notes (g : Graph) (f : LanguageFilter) : List Note :=
  let concepts := g.concepts
  g.statements.filterMap fun st =>
    let subject := st.subject.key
    if !concepts.contains subject then
      some ⟨.debug, "ignoring statement about non-concept " ++ subject⟩
    else
      match st.predicate, st.object with
      | .label k, .literal l =>
        if f.accepts l.language && (Label.normalize l.value).isEmpty then
          some ⟨.debug, "ignoring empty " ++ k.name ++ " label of " ++ subject⟩
        else none
      | .label k, .resource t =>
        some ⟨.warn, "skipping " ++ k.name ++ " label of " ++ subject ++ ": object " ++ t.key ++
          " is not a literal"⟩
      | .relation r, .literal l =>
        some ⟨.warn, "skipping " ++ r.name ++ " relation of " ++ subject ++ ": object \"" ++
          l.value ++ "\" is not a resource"⟩
      | .relation _, .resource _ => none

end Store

end Thesaurus
