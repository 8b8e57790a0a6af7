import Mathlib
import Thesaurus.Proofs.Store.Closure

/-!
What building a store makes of the statements of a graph. The store holds one record per
concept key of the graph, in order of first appearance (`ofGraph_uris`), and finds the record of
a key by its URI (`concept?_ofGraph`). Each record carries, for every label kind, the normal
forms its kept label statements give, each once and in order (`Graph.labels`,
`records_labels`), and for every relation kind the targets its relation statements name
(`records_relatedBy`); the transitive closures filled in afterwards touch neither
(`ofGraph_record`). Statements about no concept, labels with a resource object and relations
with a literal object leave the whole store as it is (`ofGraph_filter_ignores`).
-/

set_option autoImplicit false
set_option relaxedAutoImplicit false

namespace Thesaurus

/-- The label a statement gives its subject for the kind `k`: the normal form of its literal,
when it is a label statement of that kind whose language the filter keeps and whose normal
form is not empty. -/
def Statement.labelText (f : LanguageFilter) (k : LabelKind) (s : Statement) : Option String :=
  match s.predicate, s.object with
  | .label k', .literal l =>
    if k' = k ∧ f.accepts l.language = true ∧ Label.normalize l.value ≠ "" then
      some (Label.normalize l.value)
    else none
  | _, _ => none

namespace Graph

/-- The labels of a key for a kind: what the statements about it give, each once, in order of
first appearance. -/
def labels (g : Graph) (f : LanguageFilter) (k : LabelKind) (u : String) : List String :=
  ((g.statements.filter (·.subject.key == u)).filterMap (Statement.labelText f k)).eraseDups

/-- Whether building a store skips a statement whole: its subject is no concept, or it is a
label statement with a resource object, or a relation statement with a literal object. -/
def ignores (g : Graph) (s : Statement) : Bool :=
  !g.concepts.contains s.subject.key ||
    match s.predicate, s.object with
    | .label _, .resource _ => true
    | .relation _, .literal _ => true
    | _, _ => false

theorem concepts_eq_eraseDups (g : Graph) :
    g.concepts = ((g.statements.filter Statement.labelsSubject).map (·.subject.key)).eraseDups :=
  Concept.foldl_pushNew _

theorem concepts_filter_ignores (g : Graph) :
    (⟨g.statements.filter (!g.ignores ·)⟩ : Graph).concepts = g.concepts := by
  -- a label statement with a literal object names a concept and has no ignored shape
  have hkeep : ∀ s ∈ g.statements, Statement.labelsSubject s = true → g.ignores s = false := by
    intro s hs hl
    have hmem : s.subject.key ∈ g.concepts := (mem_concepts g _).2 ⟨s, hs, hl, rfl⟩
    unfold Statement.labelsSubject at hl
    unfold ignores
    split at hl <;> simp_all
  rw [concepts_eq_eraseDups, concepts_eq_eraseDups, List.filter_filter]
  congr 2
  refine List.filter_congr fun s hs => ?_
  cases hl : Statement.labelsSubject s with
  | false => simp
  | true => simp [hkeep s hs hl]

end Graph

namespace Concept

theorem labels_addLabel (c : Concept) (k' k : LabelKind) (l : String) :
    (c.addLabel k' l).labels k = if k' = k then pushNew (c.labels k) l else c.labels k := by
  cases k' <;> cases k <;> rfl

end Concept

namespace Store

section Absorb

variable (f : LanguageFilter)

theorem labels_absorb (c : Concept) (s : Statement) (k : LabelKind) :
    (absorb f c s).labels k = match s.labelText f k with
      | some l => Concept.pushNew (c.labels k) l
      | none => c.labels k := by
  unfold absorb Statement.labelText
  obtain ⟨subject, predicate, object⟩ := s
  cases predicate with
  | label k' =>
    cases object with
    | resource t => rfl
    | literal lit =>
      dsimp only
      by_cases hacc : f.accepts lit.language = true
      · by_cases hempty : Label.normalize lit.value = ""
        · simp [hacc, hempty]
        · have hfull : (Label.normalize lit.value).isEmpty = false := by
            simpa [String.isEmpty_iff] using hempty
          by_cases hk : k' = k <;> simp [hacc, hempty, hfull, hk, Concept.labels_addLabel]
      · simp [hacc]
  | relation r =>
    cases object with
    | resource t => exact Concept.labels_addRelated _ _ _ _
    | literal lit => rfl

theorem absorb_of_shape (c : Concept) (s : Statement)
    (h : (match s.predicate, s.object with
      | .label _, .resource _ => true
      | .relation _, .literal _ => true
      | _, _ => false) = true) : absorb f c s = c := by
  unfold absorb
  split at h <;> simp_all

end Absorb

section Records

variable (g : Graph) (f : LanguageFilter)

/-- The record of a concept lists, for each label kind, the concept's labels. -/
theorem records_labels (i : Nat) (u : String) (hu : g.concepts[i]? = some u) (c : Concept)
    (hc : (records g f).1[i]? = some c) (k : LabelKind) : c.labels k = g.labels f k u := by
  rw [records_getElem?, hu, Option.map_some, Option.some.injEq] at hc
  rw [← hc, foldl_absorb_view f (·.labels k) (Statement.labelText f k)
    (fun c s => labels_absorb f c s k), Concept.labels_new, Concept.foldl_pushNew]
  rfl

theorem ofGraph_getElem?_records (i : Nat) :
    (ofGraph g f).concepts[i]? = (records g f).1[i]?.map fun c => { c with
      broaderTransitive :=
        (closures (records g f).1 (records g f).2 .broader .broaderTransitive).getD i [],
      narrowerTransitive :=
        (closures (records g f).1 (records g f).2 .narrower .narrowerTransitive).getD i [] } := by
  cases hc : (records g f).1[i]? with
  | none => simp [ofGraph, Array.getElem?_zipIdx, hc]
  | some c => simp only [ofGraph, Array.getElem?_map, Array.getElem?_zipIdx, hc, Option.map_some,
      Nat.zero_add]

/-- The record at position `i` of the store of a graph is that of the concept key there: its
labels of every kind and its stated relations are what the statements about the key give. -/
theorem ofGraph_record (i : Nat) (c : Concept) (hc : (ofGraph g f).concepts[i]? = some c) :
    g.concepts[i]? = some c.uri ∧ (∀ k, c.labels k = g.labels f k c.uri) ∧
      ∀ r, r ≠ .broaderTransitive → r ≠ .narrowerTransitive →
        c.relatedBy r = g.targets r c.uri := by
  rw [ofGraph_getElem?_records] at hc
  obtain ⟨c₀, hc₀, rfl⟩ := Option.map_eq_some_iff.1 hc
  obtain ⟨u, hu⟩ : ∃ u, g.concepts[i]? = some u := by
    cases hu : g.concepts[i]? with
    | none => simp [records_getElem?, hu] at hc₀
    | some u => exact ⟨u, rfl⟩
  have huri : c₀.uri = u := by
    have h := records_getElem? g f i
    rw [hc₀, hu, Option.map_some, Option.some.injEq] at h
    rw [h, foldl_absorb_uri]
    rfl
  refine ⟨by rw [hu, ← huri], fun k => ?_, fun r hb hn => ?_⟩
  · have := records_labels g f i u hu c₀ hc₀ k
    rw [← huri] at this
    cases k <;> exact this
  · have := records_relatedBy g f i u hu c₀ hc₀ r
    rw [← huri] at this
    cases r <;> first | exact this | contradiction

/-- The store of a graph lists the graph's concept keys, in order. -/
theorem ofGraph_uris : (ofGraph g f).concepts.toList.map (·.uri) = g.concepts :=
  List.ext_getElem? fun i => by rw [List.getElem?_map, Array.getElem?_toList, ofGraph_uri]

/-- The store of a graph finds by its URI the record at the position of a concept key. -/
theorem concept?_ofGraph (u : String) (c : Concept) :
    (ofGraph g f).concept? u = some c ↔
      ∃ i : Nat, g.concepts[i]? = some u ∧ (ofGraph g f).concepts[i]? = some c := by
  unfold concept?
  rw [Std.TreeMap.get?_eq_getElem?, Option.bind_eq_some_iff]
  constructor
  · rintro ⟨i, hi, hc⟩
    exact ⟨i, (records_ids g f u i).1 hi, hc⟩
  · rintro ⟨i, hu, hc⟩
    exact ⟨i, (records_ids g f u i).2 hu, hc⟩

theorem absorb_of_ignores {s : Statement} (hs : g.ignores s = true) (hmem : s.subject.key ∈ g.concepts)
    (c : Concept) : absorb f c s = c := by
  have hshape := hs
  rw [Graph.ignores, List.contains_iff_mem.2 hmem, Bool.not_true, Bool.false_or] at hshape
  exact absorb_of_shape f c s hshape

theorem records_filter_ignores : records ⟨g.statements.filter (!g.ignores ·)⟩ f = records g f := by
  -- an ignored statement about a concept leaves the record it modifies as it is
  have hstep : ∀ (acc : Array Concept) (s : Statement) (i : Nat), g.ignores s = true →
      s.subject.key ∈ g.concepts → acc.modify i (fun c => absorb f c s) = acc := by
    intro acc s i hs hmem
    refine Array.ext_getElem? fun j => ?_
    rw [Array.getElem?_modify]
    split
    · cases (acc[j]?) <;> simp [absorb_of_ignores g f hs hmem]
    · rfl
  have hids : ∀ u i, (records g f).2[u]? = some i → u ∈ g.concepts :=
    fun u i hi => List.mem_of_getElem? ((records_ids g f u i).1 hi)
  unfold records
  simp only [Graph.concepts_filter_ignores, List.foldl_filter]
  congr 1
  refine List.foldl_ext _ _ _ fun acc s _ => ?_
  cases hs : g.ignores s with
  | false => rfl
  | true =>
    simp only [Bool.not_true, Bool.false_eq_true, ↓reduceIte]
    -- an ignored statement about no concept finds no record
    split
    · rename_i i hi
      rw [Std.TreeMap.get?_eq_getElem?] at hi
      exact (hstep acc s i hs (hids _ i hi)).symm
    · rfl

/-- Statements about no concept, labels with a resource object and relations with a literal
object leave the store of a graph as it is. -/
theorem ofGraph_filter_ignores : ofGraph ⟨g.statements.filter (!g.ignores ·)⟩ f = ofGraph g f := by
  unfold ofGraph
  rw [records_filter_ignores]

end Records

/-- The store of a graph has one record per concept key of the graph, in order of first
appearance among the subjects of label statements with a literal object, and finds a record by
a URI exactly when the URI is such a key, the record then being the key's. Each record's labels
of a kind are the normal forms its kept, non-empty label statements of that kind give, and its
broader, narrower and related URIs are the keys its relation statements with a resource object
name, each once in order of first appearance. Statements about no concept, labels with a
resource object and relations with a literal object change nothing. -/
theorem ofGraph_spec (g : Graph) (f : LanguageFilter) :
    (ofGraph g f).concepts.toList.map (·.uri) =
        ((g.statements.filter Graph.Statement.labelsSubject).map (·.subject.key)).eraseDups ∧
      (∀ u, ((ofGraph g f).concept? u).isSome ↔
        u ∈ (g.statements.filter Graph.Statement.labelsSubject).map (·.subject.key)) ∧
      (∀ u c, (ofGraph g f).concept? u = some c → c ∈ (ofGraph g f).concepts ∧ c.uri = u) ∧
      (∀ c ∈ (ofGraph g f).concepts, ∀ k, c.labels k = g.labels f k c.uri) ∧
      (∀ c ∈ (ofGraph g f).concepts, ∀ r ∈ [RelationKind.broader, .narrower, .related],
        c.relatedBy r = g.targets r c.uri) ∧
      ofGraph ⟨g.statements.filter (!g.ignores ·)⟩ f = ofGraph g f := by
  -- a record of the store is the record at some position, which the position's key names
  have hrecord : ∀ c ∈ (ofGraph g f).concepts, ∃ i, (ofGraph g f).concepts[i]? = some c :=
    fun c hc => Array.mem_iff_getElem?.1 hc
  refine ⟨by rw [ofGraph_uris, Graph.concepts_eq_eraseDups], fun u => ?_, fun u c hc => ?_,
    fun c hc k => ?_, fun c hc r hr => ?_, ofGraph_filter_ignores g f⟩
  · rw [← List.mem_eraseDups, ← Graph.concepts_eq_eraseDups, Option.isSome_iff_exists]
    constructor
    · rintro ⟨c, hc⟩
      obtain ⟨i, hu, -⟩ := (concept?_ofGraph g f u c).1 hc
      exact List.mem_of_getElem? hu
    · intro hu
      obtain ⟨i, hi⟩ := List.mem_iff_getElem?.1 hu
      obtain ⟨c, hc⟩ : ∃ c, (ofGraph g f).concepts[i]? = some c := by
        have := ofGraph_uri g f i
        rw [hi] at this
        cases hc : (ofGraph g f).concepts[i]? with
        | none => simp [hc] at this
        | some c => exact ⟨c, rfl⟩
      exact ⟨c, (concept?_ofGraph g f u c).2 ⟨i, hi, hc⟩⟩
  · obtain ⟨i, hu, hci⟩ := (concept?_ofGraph g f u c).1 hc
    have huri := (ofGraph_record g f i c hci).1
    rw [hu, Option.some.injEq] at huri
    exact ⟨Array.mem_iff_getElem?.2 ⟨i, hci⟩, huri.symm⟩
  · obtain ⟨i, hi⟩ := hrecord c hc
    exact (ofGraph_record g f i c hi).2.1 k
  · obtain ⟨i, hi⟩ := hrecord c hc
    simp only [List.mem_cons, List.not_mem_nil, or_false] at hr
    exact (ofGraph_record g f i c hi).2.2 r (by rcases hr with rfl | rfl | rfl <;> decide)
      (by rcases hr with rfl | rfl | rfl <;> decide)

end Store

end Thesaurus
