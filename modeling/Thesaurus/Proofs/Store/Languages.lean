import Mathlib
import Thesaurus.Proofs.Store.Build
import Thesaurus.Proofs.Analysis.WindowSize

/-!
What the language filter of a store changes. The filter decides only which label statements a
record takes in, so the concepts, their stated relations and their transitive closures are the
same under every filter (`relatedOf_ofGraph_filter`). A filter that keeps every label another
keeps gives each concept at least the other's labels (`labelsOf_subset_of_accepts`), finds at
least the other's concepts for every text (`lookup_subset_of_accepts`) and has a longest label
at least as long (`maxLabelTokens_le_of_accepts`). Label order is not kept: a label the wider
filter keeps may come first.
-/

set_option autoImplicit false
set_option relaxedAutoImplicit false

namespace Thesaurus

namespace Closure

theorem IsClosure.eq {succ : String → List String} {start : String} {out out' : List String}
    (h : IsClosure succ start out) (h' : IsClosure succ start out') : out = out' :=
  (h'.bfs out).1 ((h.bfs out).2 rfl)

end Closure

namespace Store

/-! ## The largest word count of the label index -/

theorem foldl_attained {α β : Type} (step : β → α → β) (count : β → Nat)
    (attains : α → Nat → Prop)
    (hstep : ∀ b x, count (step b x) = count b ∨ attains x (count (step b x)))
    (L : List α) (b : β) :
    count (L.foldl step b) = count b ∨ ∃ x ∈ L, attains x (count (L.foldl step b)) := by
  induction L generalizing b with
  | nil => exact .inl rfl
  | cons x L ih =>
    rw [List.foldl_cons]
    rcases ih (step b x) with hkeep | ⟨y, hy, hya⟩
    · rcases hstep b x with hsame | hx
      · exact .inl (hkeep.trans hsame)
      · exact .inr ⟨x, List.mem_cons_self, hkeep ▸ hx⟩
    · exact .inr ⟨y, List.mem_cons_of_mem _ hy, hya⟩

theorem indexOf_attained (cs : Array Concept) :
    (indexOf cs).2 = 0 ∨
      ∃ (j : Nat) (c : Concept), cs[j]? = some c ∧
        ∃ k, ∃ l ∈ c.labels k, Label.wordCount l = (indexOf cs).2 := by
  -- indexing a label keeps the count or raises it to the label's word count
  have hlabels := fun i => foldl_attained
    (fun (acc : Std.TreeMap String Posting compare × Nat) (kl : LabelKind × String) =>
      (acc.1.insert kl.2 ((acc.1.getD kl.2 Posting.empty).add kl.1 i),
        max acc.2 (Label.wordCount kl.2)))
    Prod.snd (fun kl n => Label.wordCount kl.2 = n)
    (fun acc kl => by
      rcases Nat.le_total acc.2 (Label.wordCount kl.2) with hle | hle
      · exact .inr (Nat.max_eq_right hle).symm
      · exact .inl (Nat.max_eq_left hle))
  -- so indexing a concept keeps it or sets it to the word count of one of its labels
  have hconcepts := foldl_attained
    (fun acc (ci : Concept × Nat) => ci.1.allLabels.foldl
      (fun (acc : Std.TreeMap String Posting compare × Nat) (kl : LabelKind × String) =>
        (acc.1.insert kl.2 ((acc.1.getD kl.2 Posting.empty).add kl.1 ci.2),
          max acc.2 (Label.wordCount kl.2))) acc)
    Prod.snd (fun ci n => ∃ kl ∈ ci.1.allLabels, Label.wordCount kl.2 = n)
    (fun acc ci => hlabels ci.2 ci.1.allLabels acc)
  rcases hconcepts cs.toList.zipIdx (∅, 0) with
    hzero | ⟨⟨c, j⟩, hmem, ⟨k, l⟩, hkl, hcount⟩
  · exact .inl hzero
  · have hc : cs[j]? = some c := by simpa [List.mem_zipIdx_iff_getElem?] using hmem
    have hl : l ∈ c.labels k := by simpa [Concept.allLabels] using hkl
    exact .inr ⟨j, c, hc, k, l, hl, hcount⟩

/-! ## Relations under any filter -/

section Relations

variable (g : Graph) (f : LanguageFilter)

theorem relatedOf_of_not_mem {u : String} (hu : u ∉ g.concepts) (r : RelationKind) :
    (ofGraph g f).relatedOf u r = [] := by
  have hnone : (ofGraph g f).concept? u = none := by
    cases hc : (ofGraph g f).concept? u with
    | none => rfl
    | some c =>
      obtain ⟨i, hi, -⟩ := (concept?_ofGraph g f u c).1 hc
      exact absurd (List.mem_of_getElem? hi) hu
  simp [relatedOf, hnone]

theorem relatedOf_of_mem {u : String} (hu : u ∈ g.concepts) (r : RelationKind)
    (hb : r ≠ .broaderTransitive) (hn : r ≠ .narrowerTransitive) :
    (ofGraph g f).relatedOf u r = g.targets r u := by
  obtain ⟨i, hi⟩ := List.mem_iff_getElem?.1 hu
  obtain ⟨c, hc, huri⟩ := Option.map_eq_some_iff.1 ((ofGraph_uri g f i).trans hi)
  have hcon : (ofGraph g f).concept? u = some c := (concept?_ofGraph g f u c).2 ⟨i, hi, hc⟩
  obtain ⟨-, -, hrel⟩ := ofGraph_record g f i c hc
  simp [relatedOf, hcon, hrel r hb hn, huri]

end Relations

/-- The relations of every kind, transitive ones included, are the same under every language
filter. -/
theorem relatedOf_ofGraph_filter (g : Graph) (f₁ f₂ : LanguageFilter) (u : String)
    (r : RelationKind) : (ofGraph g f₁).relatedOf u r = (ofGraph g f₂).relatedOf u r := by
  by_cases hu : u ∈ g.concepts
  · -- a stated relation is the graph's targets; a transitive one is the unique closure
    cases r with
    | broaderTransitive =>
      exact (transitive_closure_bfs g f₁ u hu).1.eq (transitive_closure_bfs g f₂ u hu).1
    | narrowerTransitive =>
      exact (transitive_closure_bfs g f₁ u hu).2.eq (transitive_closure_bfs g f₂ u hu).2
    | broader | narrower | related =>
      rw [relatedOf_of_mem g f₁ hu _ (by decide) (by decide),
        relatedOf_of_mem g f₂ hu _ (by decide) (by decide)]
  · rw [relatedOf_of_not_mem g f₁ hu, relatedOf_of_not_mem g f₂ hu]

/-! ## Labels under a wider filter -/

section Wider

variable {f₁ f₂ : LanguageFilter}
  (hf : ∀ tag, f₁.accepts tag = true → f₂.accepts tag = true)
include hf

theorem Gives.of_accepts {k : LabelKind} {l : String} {s : Statement} (h : Gives f₁ k l s) :
    Gives f₂ k l s := by
  obtain ⟨hp, lit, ho, hacc, hnorm, hne⟩ := h
  exact ⟨hp, lit, ho, hf _ hacc, hnorm, hne⟩

variable (g : Graph)

/-- A wider filter keeps every label of every key that a narrower one keeps. -/
theorem labelsOf_subset_of_accepts (u : String) (k : LabelKind) :
    (ofGraph g f₁).labelsOf u k ⊆ (ofGraph g f₂).labelsOf u k := by
  intro l hl
  obtain ⟨s, hs, hsu, hgive⟩ := (mem_labelsOf g f₁ u l k).1 hl
  exact (mem_labelsOf g f₂ u l k).2 ⟨s, hs, hsu, hgive.of_accepts hf⟩

/-- A wider filter finds every concept for a text that a narrower one finds. -/
theorem lookup_subset_of_accepts (text : String) (kinds : List LabelKind) :
    (ofGraph g f₁).lookup text kinds ⊆ (ofGraph g f₂).lookup text kinds := by
  intro u hu
  obtain ⟨k, hk, hl⟩ := (mem_lookup g f₁ text u kinds).1 hu
  exact (mem_lookup g f₂ text u kinds).2 ⟨k, hk, labelsOf_subset_of_accepts hf g u k hl⟩

/-- A wider filter has a longest label at least as long as a narrower one. -/
theorem maxLabelTokens_le_of_accepts :
    (ofGraph g f₁).maxLabelTokens ≤ (ofGraph g f₂).maxLabelTokens := by
  rcases indexOf_attained (ofGraph g f₁).concepts with hzero | ⟨i, c, hc, k, l, hl, hcount⟩
  · have hmax : (ofGraph g f₁).maxLabelTokens = 0 := hzero
    omega
  · -- the longest label of the narrower store is kept by the wider one, for the same key
    have hkept : l ∈ (ofGraph g f₁).labelsOf c.uri k := by
      have hcon : (ofGraph g f₁).concept? c.uri = some c := by
        have huri := (ofGraph_record g f₁ i c hc).1
        exact (concept?_ofGraph g f₁ c.uri c).2 ⟨i, huri, hc⟩
      simp [labelsOf, hcon, hl]
    obtain ⟨j, c₂, -, hc₂, hl₂⟩ :=
      (mem_labelsOf_iff _ _ _ _).1 (labelsOf_subset_of_accepts hf g c.uri k hkept)
    calc (ofGraph g f₁).maxLabelTokens = Label.wordCount l := hcount.symm
      _ ≤ (ofGraph g f₂).maxLabelTokens :=
        wordCount_le_maxLabelTokens g f₂ j c₂ hc₂ k l hl₂

end Wider

/-- Building a store of a graph under a filter that keeps every label another keeps gives the
same concepts, in the same order, with the same stated and transitive relations; each concept
keeps at least the other's labels of every kind, every text finds at least the other's
concepts, and the longest label has at least as many words. -/
theorem ofGraph_languages_mono (g : Graph) (f₁ f₂ : LanguageFilter)
    (hf : ∀ tag, f₁.accepts tag = true → f₂.accepts tag = true) :
    (ofGraph g f₁).concepts.toList.map (·.uri) = (ofGraph g f₂).concepts.toList.map (·.uri) ∧
      (∀ u r, (ofGraph g f₁).relatedOf u r = (ofGraph g f₂).relatedOf u r) ∧
      (∀ u k, (ofGraph g f₁).labelsOf u k ⊆ (ofGraph g f₂).labelsOf u k) ∧
      (∀ text kinds, (ofGraph g f₁).lookup text kinds ⊆ (ofGraph g f₂).lookup text kinds) ∧
      (ofGraph g f₁).maxLabelTokens ≤ (ofGraph g f₂).maxLabelTokens :=
  ⟨(ofGraph_uris g f₁).trans (ofGraph_uris g f₂).symm, relatedOf_ofGraph_filter g f₁ f₂,
    labelsOf_subset_of_accepts hf g, lookup_subset_of_accepts hf g,
    maxLabelTokens_le_of_accepts hf g⟩

/-- A concept labelled in English, German and no language, broader than another. -/
def bilingualGraph : Graph :=
  ⟨[⟨.iri "ex:1", .label .pref, .literal ⟨"jumps", some "en"⟩⟩,
    ⟨.iri "ex:1", .label .pref, .literal ⟨"springt hoch", some "de"⟩⟩,
    ⟨.iri "ex:1", .label .hidden, .literal ⟨"jmps", none⟩⟩,
    ⟨.iri "ex:2", .label .pref, .literal ⟨"leaps", some "de"⟩⟩,
    ⟨.iri "ex:1", .relation .broader, .resource (.iri "ex:2")⟩]⟩

theorem ofGraph_languages_mono_bilingual :
    (∀ tag, (⟨some ["en"]⟩ : LanguageFilter).accepts tag = true →
        (⟨some ["", "de", "en"]⟩ : LanguageFilter).accepts tag = true) ∧
      ((ofGraph bilingualGraph ⟨some ["en"]⟩).concepts.toList.map (·.uri) =
          (ofGraph bilingualGraph ⟨some ["", "de", "en"]⟩).concepts.toList.map (·.uri) ∧
        (∀ u r, (ofGraph bilingualGraph ⟨some ["en"]⟩).relatedOf u r =
          (ofGraph bilingualGraph ⟨some ["", "de", "en"]⟩).relatedOf u r) ∧
        (∀ u k, (ofGraph bilingualGraph ⟨some ["en"]⟩).labelsOf u k ⊆
          (ofGraph bilingualGraph ⟨some ["", "de", "en"]⟩).labelsOf u k) ∧
        (∀ text kinds, (ofGraph bilingualGraph ⟨some ["en"]⟩).lookup text kinds ⊆
          (ofGraph bilingualGraph ⟨some ["", "de", "en"]⟩).lookup text kinds) ∧
        (ofGraph bilingualGraph ⟨some ["en"]⟩).maxLabelTokens ≤
          (ofGraph bilingualGraph ⟨some ["", "de", "en"]⟩).maxLabelTokens) := by
  have hf : ∀ tag, (⟨some ["en"]⟩ : LanguageFilter).accepts tag = true →
      (⟨some ["", "de", "en"]⟩ : LanguageFilter).accepts tag = true := by
    intro tag h
    simp only [LanguageFilter.accepts, List.contains_iff_mem, List.mem_singleton] at h
    simp [LanguageFilter.accepts, h]
  exact ⟨hf, ofGraph_languages_mono bilingualGraph _ _ hf⟩

end Store

end Thesaurus
