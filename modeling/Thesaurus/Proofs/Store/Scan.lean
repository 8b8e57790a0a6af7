import Mathlib.Data.List.Sort
import Thesaurus.Proofs.Store.Checked

/-!
A label lookup is a scan of the concepts. The store answers a lookup through its label map and
posting table: the posting at the number the map gives the text's normal form, under the asked
kinds, sorted with repeats dropped, read back as URIs. That list is the positions, in increasing
order, of the concepts that carry the normal form as a label of an asked kind
(`dropRepeats_postings`), so the lookup returns, in store order and each once, the URIs of exactly
those concepts (`ofGraph_lookup_eq_scan`). Every number the map gives is a place of the table
(`lt_size_of_labels_get`), and every id of the table a place of the concepts
(`lt_size_of_mem_postings`), so a lookup never reads past either. A store built with a map
builder that behaves as its library documents is the store of the graph, so all of this holds of
every built store (`lookup_eq_scan`).
-/

set_option autoImplicit false
set_option relaxedAutoImplicit false

namespace Thesaurus.Store

theorem filterMap_range_filter {α β : Type} (l : List α) (p : α → Bool) (f : α → β) :
    ((List.range l.length).filter fun i => l[i]?.any p).filterMap (fun i => l[i]?.map f) =
      (l.filter p).map f := by
  induction l using List.reverseRecOn with
  | nil => rfl
  | append_singleton l x ih =>
    -- positions below the old length read the old list; the last one reads `x`
    have hold : ∀ i ∈ List.range l.length, (l ++ [x])[i]? = l[i]? := fun i hi =>
      List.getElem?_append_left (List.mem_range.1 hi)
    rw [List.length_append, List.length_singleton, List.range_succ, List.filter_append,
      List.filter_congr (fun i hi => by rw [hold i hi]), List.filterMap_append,
      List.filterMap_congr (fun i hi => by rw [hold i (List.mem_of_mem_filter hi)]), ih,
      List.filter_append, List.map_append]
    by_cases hx : p x = true <;> simp [hx]

section Built

variable (g : Graph) (f : LanguageFilter)

theorem ne_empty_of_mem_labels (i : Nat) (c : Concept) (hc : (ofGraph g f).concepts[i]? = some c)
    (k : LabelKind) (l : String) (hl : l ∈ c.labels k) : l ≠ "" := by
  obtain ⟨-, -, -, -, -, -, -, -, hne⟩ := (ofGraph_labels g f i c hc k l).1 hl
  exact hne

theorem lt_length_of_lookup_labelEntries (M : Std.TreeMap String Posting compare)
    {key : List UInt8} {n : Nat} (h : (labelEntries M).lookup key = some n) :
    n < M.toList.length := by
  obtain ⟨l₁, l₂, hsplit, -⟩ := List.lookup_eq_some_iff.1 h
  have hmem : (key, n) ∈ labelEntries M := by
    rw [hsplit]
    exact List.mem_append_right _ List.mem_cons_self
  obtain ⟨⟨p, i⟩, hp, hpi⟩ := List.mem_map.1 hmem
  rw [← (Prod.mk.inj hpi).2]
  exact (List.getElem?_eq_some_iff.1 (List.mk_mem_zipIdx_iff_getElem?.1 hp)).1

/-- Every number the label map of the store of a graph gives is a place of its posting table. -/
theorem lt_size_of_labels_get (key : List UInt8) (n : Nat)
    (h : (ofGraph g f).labels.get key = some n) : n < (ofGraph g f).postings.size := by
  rw [ofGraph_labelMap] at h
  rw [ofGraph_postings, List.size_toArray, List.length_map]
  exact lt_length_of_lookup_labelEntries _ h

/-- Every concept id in the posting table of the store of a graph holds a concept. -/
theorem lt_size_of_mem_postings (n : Nat) (p : Posting) (k : LabelKind) (i : Nat)
    (hp : (ofGraph g f).postings[n]? = some p) (hi : i ∈ p.get k) :
    i < (ofGraph g f).concepts.size := by
  rw [ofGraph_postings, List.getElem?_toArray, List.getElem?_map] at hp
  obtain ⟨⟨key, p'⟩, hkp, rfl⟩ := Option.map_eq_some_iff.1 hp
  -- the table holds at `n` the posting the index gives the label at `n`
  have hget := Std.TreeMap.mem_toList_iff_getElem?_eq_some.1 (List.mem_of_getElem? hkp)
  refine lt_size_of_mem_posting g f key k i ?_
  rw [Std.TreeMap.getD_eq_getD_getElem?, hget]
  exact hi

/-- The postings of a key under some kinds, sorted with repeats dropped, are the positions, in
increasing order, of the concepts that carry the key as a label of one of the kinds. -/
theorem dropRepeats_postings (key : String) (ks : List LabelKind) :
    dropRepeats ((ks.flatMap ((ofGraph g f).index.getD key Posting.empty).get).mergeSort
        (fun a b => decide (a ≤ b))) =
      (List.range (ofGraph g f).concepts.toList.length).filter fun i =>
        (ofGraph g f).concepts.toList[i]?.any fun c => ks.any fun k => (c.labels k).contains key := by
  have hsorted : ((ks.flatMap ((ofGraph g f).index.getD key Posting.empty).get).mergeSort
      (fun a b => decide (a ≤ b))).Pairwise (· ≤ ·) := by
    simpa using @List.pairwise_mergeSort Nat (fun a b => decide (a ≤ b))
      (fun a b c hab hbc => by simp only [decide_eq_true_eq] at *; omega)
      (fun a b => by simp only [Bool.or_eq_true, decide_eq_true_eq]; omega) _
  refine List.Pairwise.eq_of_mem_iff (pairwise_dropRepeats _ hsorted)
    ((List.pairwise_lt_range).filter _) fun i => ?_
  simp only [mem_dropRepeats, List.mem_mergeSort, List.mem_flatMap, List.mem_filter,
    List.mem_range, Array.length_toList, Array.getElem?_toList]
  constructor
  · rintro ⟨k, hk, hi⟩
    refine ⟨lt_size_of_mem_posting g f key k i hi, ?_⟩
    rw [ofGraph_index, mem_indexOf] at hi
    obtain ⟨c, hc, hl⟩ := hi
    simp only [hc, Option.any_some, List.any_eq_true, List.contains_iff_mem]
    exact ⟨k, hk, hl⟩
  · rintro ⟨-, hany⟩
    cases hc : (ofGraph g f).concepts[i]? with
    | none => simp [hc] at hany
    | some c =>
      rw [hc, Option.any_some] at hany
      obtain ⟨k, hk, hl⟩ := List.any_eq_true.1 hany
      refine ⟨k, hk, ?_⟩
      rw [ofGraph_index, mem_indexOf]
      exact ⟨c, hc, List.contains_iff_mem.1 hl⟩

/-- Looking a text up in the store of a graph returns the URIs of the store's concepts, in store
order, that carry the text's normal form as a label of one of the asked kinds (so none when the
normal form is empty). The URIs are distinct. Every number the label map gives is a place of the
posting table, and every id in the table a place of the concepts. -/
theorem ofGraph_lookup_eq_scan (text : String) (kinds : List LabelKind) :
    (ofGraph g f).lookup text kinds =
        ((ofGraph g f).concepts.toList.filter fun c =>
          kinds.any fun k => (c.labels k).contains (Label.normalize text)).map (·.uri) ∧
      (Label.normalize text = "" → (ofGraph g f).lookup text kinds = []) ∧
      ((ofGraph g f).lookup text kinds).Nodup ∧
      (∀ (key : List UInt8) (n : Nat), (ofGraph g f).labels.get key = some n →
        n < (ofGraph g f).postings.size) ∧
      ∀ (n : Nat) (p : Posting) (k : LabelKind) (i : Nat), (ofGraph g f).postings[n]? = some p →
        i ∈ p.get k → i < (ofGraph g f).concepts.size := by
  have hempty : Label.normalize text = "" → (ofGraph g f).lookup text kinds = [] := by
    intro h
    simp [lookup, h]
  -- the lookup reads the sorted postings of the normal form
  have hscan : (ofGraph g f).lookup text kinds =
      ((ofGraph g f).concepts.toList.filter fun c =>
        kinds.any fun k => (c.labels k).contains (Label.normalize text)).map (·.uri) := by
    by_cases hkey : Label.normalize text = ""
    · -- no stored label is empty, so no concept passes the scan
      rw [hempty hkey, hkey]
      symm
      refine List.map_eq_nil_iff.2 (List.filter_eq_nil_iff.2 fun c hc hany => ?_)
      obtain ⟨i, hi⟩ := List.mem_iff_getElem?.1 hc
      rw [Array.getElem?_toList] at hi
      obtain ⟨k, -, hl⟩ := List.any_eq_true.1 hany
      exact ne_empty_of_mem_labels g f i c hi k "" (List.contains_iff_mem.1 hl) rfl
    · rw [lookup_of_ne _ text kinds hkey, readPosting_getD_ofGraph, dropRepeats_postings,
        ← filterMap_range_filter]
      simp only [Array.getElem?_toList]
  refine ⟨hscan, hempty, ?_, lt_size_of_labels_get g f, lt_size_of_mem_postings g f⟩
  -- the store's URIs are the graph's concepts, which are distinct
  have huris : (ofGraph g f).concepts.toList.map (·.uri) = g.concepts := by
    refine List.ext_getElem? fun i => ?_
    rw [List.getElem?_map, Array.getElem?_toList, ofGraph_uri]
  rw [hscan]
  exact (g.nodup_concepts).sublist (huris ▸ (List.filter_sublist).map _)

end Built

/-- Looking a text up in a store built with a map builder that behaves as its library documents
returns the URIs of the store's concepts, in store order, that carry the text's normal form as a
label of one of the asked kinds (so none when the normal form is empty), each once. Every number
the store's label map gives is a place of its posting table, and every id in the table a place of
its concepts. -/
theorem lookup_eq_scan {β μ : Type} (B : MapBuilder β μ) (hB : B.Lawful) (g : Graph)
    (f : LanguageFilter) (s : Store) (hs : fromGraph B g f = .ok s) (text : String)
    (kinds : List LabelKind) :
    s.lookup text kinds =
        (s.concepts.toList.filter fun c =>
          kinds.any fun k => (c.labels k).contains (Label.normalize text)).map (·.uri) ∧
      (Label.normalize text = "" → s.lookup text kinds = []) ∧
      (s.lookup text kinds).Nodup ∧
      (∀ (key : List UInt8) (n : Nat), s.labels.get key = some n → n < s.postings.size) ∧
      ∀ (n : Nat) (p : Posting) (k : LabelKind) (i : Nat), s.postings[n]? = some p →
        i ∈ p.get k → i < s.concepts.size := by
  -- a build that succeeds gives the store of the graph
  have hstore : s = ofGraph g f := by
    rw [fromGraph_eq hB] at hs
    split at hs
    · exact (Except.ok.inj hs).symm
    · cases hs
  subst hstore
  exact ofGraph_lookup_eq_scan g f text kinds

theorem lookup_eq_scan_small :
    MapBuilder.sorted.Lawful ∧
      fromGraph MapBuilder.sorted smallGraph ⟨none⟩ = .ok (ofGraph smallGraph ⟨none⟩) ∧
      (ofGraph smallGraph ⟨none⟩).lookup "Leaps" [.alt, .pref, .alt] =
          ((ofGraph smallGraph ⟨none⟩).concepts.toList.filter fun c =>
            [LabelKind.alt, .pref, .alt].any fun k =>
              (c.labels k).contains (Label.normalize "Leaps")).map (·.uri) ∧
        (Label.normalize "Leaps" = "" →
          (ofGraph smallGraph ⟨none⟩).lookup "Leaps" [.alt, .pref, .alt] = []) ∧
        ((ofGraph smallGraph ⟨none⟩).lookup "Leaps" [.alt, .pref, .alt]).Nodup ∧
        (∀ (key : List UInt8) (n : Nat), (ofGraph smallGraph ⟨none⟩).labels.get key = some n →
          n < (ofGraph smallGraph ⟨none⟩).postings.size) ∧
        ∀ (n : Nat) (p : Posting) (k : LabelKind) (i : Nat),
          (ofGraph smallGraph ⟨none⟩).postings[n]? = some p → i ∈ p.get k →
            i < (ofGraph smallGraph ⟨none⟩).concepts.size := by
  have hs : fromGraph MapBuilder.sorted smallGraph ⟨none⟩ = .ok (ofGraph smallGraph ⟨none⟩) := by
    rw [fromGraph_eq MapBuilder.sorted_lawful, if_pos (by decide)]
  exact ⟨MapBuilder.sorted_lawful, hs,
    lookup_eq_scan MapBuilder.sorted MapBuilder.sorted_lawful smallGraph ⟨none⟩ _ hs "Leaps"
      [.alt, .pref, .alt]⟩

end Thesaurus.Store
