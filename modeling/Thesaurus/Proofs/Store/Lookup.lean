import Mathlib.Data.List.Induction
import Thesaurus.Store.Basic
import Thesaurus.Proofs.Text.Bytes

/-!
Looking a label up in the store of a graph. The store numbers the graph's concepts by position
(`records_ids`); the record at a position has absorbed, in order, the statements about its key
(`records_getElem?`), so it carries exactly the labels that those statements give
(`ofGraph_labels`, `mem_labelsOf`); the label index puts a position in the posting of each of its
record's labels (`mem_indexOf`). The store keeps the index as a label map, which gives each label
its position among the index's entries, and a posting table read at that position; reading the
two in turn gives back the label's posting (`readPosting_ofGraph`). Together: a lookup finds a key
exactly when the normal form of the text is one of the key's stored labels of an asked kind
(`mem_lookup`).
-/

set_option autoImplicit false
set_option relaxedAutoImplicit false

namespace Thesaurus

namespace Graph

theorem foldl_once_spec (l acc : List String) (hacc : acc.Nodup) :
    (l.foldl (fun acc k => if acc.contains k then acc else acc ++ [k]) acc).Nodup ∧
      ∀ x, x ∈ l.foldl (fun acc k => if acc.contains k then acc else acc ++ [k]) acc ↔
        x ∈ acc ∨ x ∈ l := by
  induction l generalizing acc with
  | nil => simp [hacc]
  | cons y l ih =>
    rw [List.foldl_cons]
    by_cases hy : y ∈ acc
    · have hstep : (if acc.contains y then acc else acc ++ [y]) = acc := by simp [hy]
      obtain ⟨hnd, hmem⟩ := ih acc hacc
      rw [hstep]
      refine ⟨hnd, fun x => ?_⟩
      rw [hmem, List.mem_cons]
      constructor
      · rintro (h | h)
        · exact .inl h
        · exact .inr (.inr h)
      · rintro (h | rfl | h)
        · exact .inl h
        · exact .inl hy
        · exact .inr h
    · have hstep : (if acc.contains y then acc else acc ++ [y]) = acc ++ [y] := by simp [hy]
      have hnd' : (acc ++ [y]).Nodup := by
        simp only [List.nodup_append, hacc, List.nodup_cons, List.not_mem_nil, not_false_eq_true,
          List.nodup_nil, and_self, List.mem_singleton, true_and]
        rintro a ha _ rfl rfl
        exact hy ha
      obtain ⟨hnd, hmem⟩ := ih (acc ++ [y]) hnd'
      rw [hstep]
      refine ⟨hnd, fun x => ?_⟩
      rw [hmem]
      simp only [List.mem_append, List.mem_cons, List.not_mem_nil, or_false, or_assoc]

theorem nodup_concepts (g : Graph) : g.concepts.Nodup :=
  (foldl_once_spec _ [] List.nodup_nil).1

theorem mem_concepts (g : Graph) (u : String) :
    u ∈ g.concepts ↔
      ∃ st ∈ g.statements, Statement.labelsSubject st = true ∧ st.subject.key = u := by
  rw [concepts, (foldl_once_spec _ [] List.nodup_nil).2]
  simp only [List.mem_nil_iff, List.mem_map, List.mem_filter, false_or]
  constructor
  · rintro ⟨st, ⟨hst, hl⟩, hk⟩
    exact ⟨st, hst, hl, hk⟩
  · rintro ⟨st, hst, hl, hk⟩
    exact ⟨st, ⟨hst, hl⟩, hk⟩

end Graph

@[simp] theorem LabelKind.mem_all (k : LabelKind) : k ∈ LabelKind.all := by
  cases k <;> decide

@[simp] theorem Posting.get_empty (k : LabelKind) : Posting.empty.get k = [] := by
  cases k <;> rfl

namespace Concept

@[simp] theorem uri_new (u : String) : (new u).uri = u := rfl

@[simp] theorem labels_new (u : String) (k : LabelKind) : (new u).labels k = [] := by
  cases k <;> rfl

@[simp] theorem mem_pushNew (xs : List String) (x l : String) :
    l ∈ pushNew xs x ↔ l ∈ xs ∨ l = x := by
  unfold pushNew
  by_cases hx : x ∈ xs
  · simp only [List.contains_iff_mem, hx, ↓reduceIte, iff_self_or]
    rintro rfl
    exact hx
  · simp [hx]

@[simp] theorem addLabel_uri (c : Concept) (k : LabelKind) (label : String) :
    (c.addLabel k label).uri = c.uri := by
  cases k <;> rfl

@[simp] theorem addRelated_uri (c : Concept) (r : RelationKind) (t : String) :
    (c.addRelated r t).uri = c.uri := by
  cases r <;> rfl

theorem mem_labels_addLabel (c : Concept) (k k' : LabelKind) (label l : String) :
    l ∈ (c.addLabel k' label).labels k ↔ l ∈ c.labels k ∨ (k' = k ∧ l = label) := by
  cases k <;> cases k' <;> simp [addLabel, labels]

@[simp] theorem labels_addRelated (c : Concept) (r : RelationKind) (t : String) (k : LabelKind) :
    (c.addRelated r t).labels k = c.labels k := by
  cases r <;> cases k <;> rfl

end Concept

namespace Store

/-- A statement gives its subject the label `l` of kind `k`: it is a label statement of that
kind whose literal the filter keeps, and `l` is the literal's normal form, which is not empty. -/
def Gives (f : LanguageFilter) (k : LabelKind) (l : String) (s : Statement) : Prop :=
  s.predicate = .label k ∧ ∃ lit, s.object = .literal lit ∧ f.accepts lit.language = true ∧
    Label.normalize lit.value = l ∧ l ≠ ""

theorem Gives.labelsSubject {f : LanguageFilter} {k : LabelKind} {l : String} {s : Statement}
    (h : Gives f k l s) : Graph.Statement.labelsSubject s = true := by
  obtain ⟨hp, lit, ho, -⟩ := h
  simp [Graph.Statement.labelsSubject, hp, ho]

section Absorb

variable (f : LanguageFilter)

@[simp] theorem absorb_uri (c : Concept) (s : Statement) : (absorb f c s).uri = c.uri := by
  unfold absorb
  split
  · split
    · dsimp only
      split <;> simp
    · rfl
  · simp
  · rfl

theorem mem_labels_absorb (c : Concept) (s : Statement) (k : LabelKind) (l : String) :
    l ∈ (absorb f c s).labels k ↔ l ∈ c.labels k ∨ Gives f k l s := by
  unfold absorb Gives
  split
  · rename_i k' lit hp ho
    simp only [hp, ho, Predicate.label.injEq, Object.literal.injEq, exists_eq_left']
    by_cases hacc : f.accepts lit.language = true
    · by_cases hempty : (Label.normalize lit.value).isEmpty = true
      · have hnil : Label.normalize lit.value = "" := String.isEmpty_iff.1 hempty
        simp [hacc, hnil]
      · have hne : Label.normalize lit.value ≠ "" := fun h => hempty (String.isEmpty_iff.2 h)
        have hfull : (Label.normalize lit.value).isEmpty = false := by simpa using hempty
        simp only [hacc, hfull, Bool.false_eq_true, ↓reduceIte, Concept.mem_labels_addLabel,
          eq_comm, true_and]
        constructor
        · rintro (h | ⟨rfl, rfl⟩)
          · exact .inl h
          · exact .inr ⟨rfl, rfl, hne⟩
        · rintro (h | ⟨rfl, rfl, -⟩)
          · exact .inl h
          · exact .inr ⟨rfl, rfl⟩
    · simp [hacc]
  · rename_i r t hp ho
    simp [hp]
  · rename_i hlab _
    refine ⟨.inl, ?_⟩
    rintro (h | ⟨hp, lit, ho, -⟩)
    · exact h
    · exact (hlab k lit hp ho).elim

@[simp] theorem foldl_absorb_uri (ss : List Statement) (c : Concept) :
    (ss.foldl (absorb f) c).uri = c.uri := by
  induction ss generalizing c with
  | nil => rfl
  | cons s ss ih => rw [List.foldl_cons, ih, absorb_uri]

theorem mem_labels_foldl_absorb (ss : List Statement) (c : Concept) (k : LabelKind)
    (l : String) :
    l ∈ (ss.foldl (absorb f) c).labels k ↔ l ∈ c.labels k ∨ ∃ s ∈ ss, Gives f k l s := by
  induction ss generalizing c with
  | nil => simp
  | cons s ss ih =>
    rw [List.foldl_cons, ih, mem_labels_absorb, or_assoc]
    simp only [List.mem_cons, exists_eq_or_imp]

end Absorb

section Records

variable (g : Graph) (f : LanguageFilter)

theorem numbered_keys (uris : List String) (hnd : uris.Nodup) (u : String) (i : Nat) :
    ((uris.zipIdx).foldl (fun (m : Std.TreeMap String Nat compare) (p : String × Nat) =>
      m.insert p.1 p.2) {})[u]? = some i ↔ uris[i]? = some u := by
  induction uris using List.reverseRecOn generalizing i with
  | nil => simp
  | append_singleton xs x ih =>
    have hnd' := List.nodup_append.1 hnd
    have hx : x ∉ xs := fun hm => hnd'.2.2 x hm x (List.mem_singleton_self x) rfl
    -- the last key sits at the old length; earlier positions are read in the old list
    have hlast : (xs ++ [x])[i]? = some u ↔ xs[i]? = some u ∨ (i = xs.length ∧ x = u) := by
      rcases Nat.lt_or_ge i xs.length with hi | hi
      · simp [List.getElem?_append_left hi, Nat.ne_of_lt hi]
      · rw [List.getElem?_append_right hi, List.getElem?_eq_none_iff.2 hi]
        cases hk : i - xs.length with
        | zero => simp; omega
        | succ n => simp; omega
    rw [List.zipIdx_append, List.foldl_append, List.zipIdx_singleton, List.foldl_cons,
      List.foldl_nil, Std.TreeMap.getElem?_insert, hlast]
    simp only [Std.LawfulEqOrd.compare_eq_iff_eq, Nat.zero_add]
    by_cases hu : x = u
    · subst hu
      have hnot : xs[i]? ≠ some x := fun h => hx (List.mem_of_getElem? h)
      simp [hnot, eq_comm]
    · simp [hu, ih hnd'.1]

/-- The store numbers the concepts of a graph by their position. -/
theorem records_ids (u : String) (i : Nat) :
    (records g f).2[u]? = some i ↔ g.concepts[i]? = some u :=
  numbered_keys g.concepts g.nodup_concepts u i

theorem foldl_absorb (ids : Std.TreeMap String Nat compare) (j : Nat) (l : List Statement)
    (acc : Array Concept) :
    (l.foldl (fun (acc : Array Concept) s =>
      match ids.get? s.subject.key with
      | some i => acc.modify i (fun c => absorb f c s)
      | none => acc) acc)[j]? =
      acc[j]?.map fun c =>
        (l.filter fun s => ids[s.subject.key]? == some j).foldl (absorb f) c := by
  induction l generalizing acc with
  | nil => simp
  | cons s l ih =>
    rw [List.foldl_cons, ih, List.filter_cons]
    cases hs : ids[s.subject.key]? with
    | none => simp [hs]
    | some i =>
      by_cases hij : i = j
      · subst hij
        simp [hs, Array.getElem?_modify, Function.comp_def]
      · simp [hs, Array.getElem?_modify, hij]

/-- The record of the concept at position `j`: a new concept that has absorbed, in order, the
statements about it. -/
theorem records_getElem? (j : Nat) :
    (records g f).1[j]? = g.concepts[j]?.map fun u =>
      (g.statements.filter fun s => s.subject.key == u).foldl (absorb f) (Concept.new u) := by
  have hfold :=
    foldl_absorb f (records g f).2 j g.statements ((g.concepts.map Concept.new).toArray)
  refine hfold.trans ?_
  cases hu : g.concepts[j]? with
  | none => simp [hu]
  | some u =>
    -- a statement is about concept `j` exactly when its subject is the key at position `j`
    have hsame : ∀ s : Statement,
        ((records g f).2[s.subject.key]? == some j) = (s.subject.key == u) := by
      intro s
      have := records_ids g f s.subject.key j
      rw [hu] at this
      rw [Bool.eq_iff_iff, beq_iff_eq, beq_iff_eq, this, Option.some.injEq, eq_comm]
    simp [hu, List.filter_congr (fun s _ => hsame s)]

end Records

section Built

variable (g : Graph) (f : LanguageFilter)

theorem ofGraph_index : (ofGraph g f).index = (indexOf (ofGraph g f).concepts).1 := rfl

theorem ofGraph_labelMap : (ofGraph g f).labels = .ofEntries (labelEntries (ofGraph g f).index) :=
  rfl

theorem ofGraph_postings :
    (ofGraph g f).postings = ((ofGraph g f).index.toList.map Prod.snd).toArray := rfl

theorem ofGraph_getElem? (i : Nat) :
    ((ofGraph g f).concepts[i]?).map (fun c => (c.uri, c.labels)) =
      ((records g f).1[i]?).map (fun c => (c.uri, c.labels)) := by
  -- the update touches only the transitive relations
  simp only [ofGraph, Array.getElem?_map, Array.getElem?_zipIdx, Option.map_map]
  rfl

theorem ofGraph_uri (i : Nat) : ((ofGraph g f).concepts[i]?).map (·.uri) = g.concepts[i]? := by
  have h := congrArg (Option.map Prod.fst) (ofGraph_getElem? g f i)
  simp only [Option.map_map, records_getElem?] at h
  cases hu : g.concepts[i]? <;> simp_all [Function.comp_def]

/-- The store of a graph finds each key at the position that holds its record. -/
theorem ofGraph_ids_iff (u : String) (i : Nat) :
    (ofGraph g f).ids[u]? = some i ↔ ((ofGraph g f).concepts[i]?).map (·.uri) = some u := by
  rw [ofGraph_uri]
  exact records_ids g f u i

/-- The record at position `i` of the store of a graph carries exactly the labels that the
statements about its URI give. -/
theorem ofGraph_labels (i : Nat) (c : Concept) (hc : (ofGraph g f).concepts[i]? = some c)
    (k : LabelKind) (l : String) :
    l ∈ c.labels k ↔ ∃ s ∈ g.statements, s.subject.key = c.uri ∧ Gives f k l s := by
  have h := ofGraph_getElem? g f i
  rw [hc, records_getElem?] at h
  cases hu : g.concepts[i]? with
  | none => simp [hu] at h
  | some u =>
    simp only [hu, Option.map_some, Option.some.injEq, Prod.mk.injEq, foldl_absorb_uri] at h
    obtain ⟨huri, hlabels⟩ := h
    rw [hlabels, mem_labels_foldl_absorb, huri]
    simp [and_assoc]

end Built

section Index

theorem mem_get_add (p : Posting) (k k' : LabelKind) (i j : Nat) :
    j ∈ (p.add k' i).get k ↔ j ∈ p.get k ∨ (k' = k ∧ j = i) := by
  cases k <;> cases k' <;> simp [Posting.add, Posting.get]

theorem mem_postings_labels (key : String) (k : LabelKind) (i j : Nat)
    (labels : List (LabelKind × String)) (m : Std.TreeMap String Posting compare) (most : Nat) :
    j ∈ ((labels.foldl (fun (acc : Std.TreeMap String Posting compare × Nat)
      (kl : LabelKind × String) =>
      (acc.1.insert kl.2 ((acc.1.getD kl.2 Posting.empty).add kl.1 i),
        max acc.2 (Label.wordCount kl.2)))
      (m, most)).1.getD key Posting.empty).get k ↔
      j ∈ (m.getD key Posting.empty).get k ∨ (j = i ∧ (k, key) ∈ labels) := by
  induction labels generalizing m most with
  | nil => simp
  | cons kl labels ih =>
    obtain ⟨k', label⟩ := kl
    rw [List.foldl_cons]
    refine (ih _ _).trans ?_
    rw [Std.TreeMap.getD_insert]
    simp only [Std.LawfulEqOrd.compare_eq_iff_eq]
    by_cases hl : label = key
    · subst hl
      simp only [↓reduceIte, mem_get_add, List.mem_cons, Prod.mk.injEq, and_true]
      constructor
      · rintro ((h | ⟨rfl, rfl⟩) | ⟨rfl, h⟩)
        · exact .inl h
        · exact .inr ⟨rfl, .inl rfl⟩
        · exact .inr ⟨rfl, .inr h⟩
      · rintro (h | ⟨rfl, rfl | h⟩)
        · exact .inl (.inl h)
        · exact .inl (.inr ⟨rfl, rfl⟩)
        · exact .inr ⟨rfl, h⟩
    · simp [hl, Ne.symm hl]

/-- The label index of a concept array: position `j` is in the posting of `key` under kind `k`
exactly when concept `j` carries `key` as a label of kind `k`. -/
theorem mem_indexOf (cs : Array Concept) (key : String) (k : LabelKind) (j : Nat) :
    j ∈ ((indexOf cs).1.getD key Posting.empty).get k ↔
      ∃ c, cs[j]? = some c ∧ key ∈ c.labels k := by
  unfold indexOf
  -- the fold over the numbered concepts, from any index
  suffices hs : ∀ (l : List (Concept × Nat)) (m : Std.TreeMap String Posting compare)
      (most : Nat),
      j ∈ ((l.foldl (fun (acc : Std.TreeMap String Posting compare × Nat) (ci : Concept × Nat) =>
        ci.1.allLabels.foldl (fun (acc : Std.TreeMap String Posting compare × Nat)
          (kl : LabelKind × String) =>
          (acc.1.insert kl.2 ((acc.1.getD kl.2 Posting.empty).add kl.1 ci.2),
            max acc.2 (Label.wordCount kl.2)))
          acc) (m, most)).1.getD key Posting.empty).get k ↔
        j ∈ (m.getD key Posting.empty).get k ∨ ∃ c, (c, j) ∈ l ∧ (k, key) ∈ c.allLabels by
    refine (hs _ _ _).trans ?_
    simp [List.mem_zipIdx_iff_getElem?, Concept.allLabels]
  intro l
  induction l with
  | nil => simp
  | cons ci l ih =>
    obtain ⟨c, i⟩ := ci
    intro m most
    rw [List.foldl_cons]
    refine (ih _ _).trans ?_
    rw [mem_postings_labels]
    simp only [List.mem_cons, Prod.mk.injEq]
    constructor
    · rintro ((h | ⟨rfl, h⟩) | ⟨c', h, hl⟩)
      · exact .inl h
      · exact .inr ⟨c, .inl ⟨rfl, rfl⟩, h⟩
      · exact .inr ⟨c', .inr h, hl⟩
    · rintro (h | ⟨c', ⟨rfl, rfl⟩ | h, hl⟩)
      · exact .inl (.inl h)
      · exact .inl (.inr ⟨rfl, hl⟩)
      · exact .inr ⟨c', h, hl⟩

end Index

section LabelMap

theorem lookup_eq_some_iff_mem {α β : Type} [BEq α] [LawfulBEq α] (kvs : List (α × β))
    (hkvs : (kvs.map Prod.fst).Nodup) (k : α) (v : β) :
    kvs.lookup k = some v ↔ (k, v) ∈ kvs := by
  induction kvs with
  | nil => simp
  | cons p kvs ih =>
    obtain ⟨k', w⟩ := p
    rw [List.map_cons, List.nodup_cons] at hkvs
    rw [List.lookup_cons, List.mem_cons, ← ih hkvs.2]
    by_cases hk : k = k'
    · subst hk
      -- the first key is no later key, so the first pair decides
      have hlater : kvs.lookup k = none := List.lookup_eq_none_iff.2 fun q hq =>
        bne_iff_ne.2 fun h => hkvs.1 (List.mem_map.2 ⟨q, hq, h.symm⟩)
      simp [hlater, eq_comm]
    · simp [beq_eq_false_iff_ne.2 hk, hk]

variable (M : Std.TreeMap String Posting compare)

theorem map_fst_labelEntries :
    (labelEntries M).map Prod.fst = M.keys.map fun k => k.toUTF8.data.toList := by
  rw [← Std.TreeMap.map_fst_toList_eq_keys, labelEntries, List.map_map, List.map_map]
  conv_rhs => rw [← List.zipIdx_map_fst 0 M.toList, List.map_map]
  rfl

theorem nodup_labelEntries : ((labelEntries M).map Prod.fst).Nodup := by
  rw [map_fst_labelEntries]
  exact M.nodup_keys.map fun _ _ h => Text.utf8Bytes_inj h

theorem labelEntries_lookup_eq_some (key : String) (n : Nat) :
    (labelEntries M).lookup key.toUTF8.data.toList = some n ↔
      (M.toList[n]?).map Prod.fst = some key := by
  rw [lookup_eq_some_iff_mem _ (nodup_labelEntries M), labelEntries, List.mem_map]
  constructor
  · rintro ⟨⟨p, i⟩, hp, hpi⟩
    simp only [Prod.mk.injEq] at hpi
    obtain ⟨hbytes, rfl⟩ := hpi
    rw [List.mk_mem_zipIdx_iff_getElem?.1 hp, Option.map_some, Text.utf8Bytes_inj hbytes]
  · intro h
    obtain ⟨p, hp, rfl⟩ := Option.map_eq_some_iff.1 h
    exact ⟨(p, n), List.mk_mem_zipIdx_iff_getElem?.2 hp, rfl⟩

theorem readPosting_labelEntries (key : String) :
    ((labelEntries M).lookup key.toUTF8.data.toList).bind
      (fun n => (M.toList.map Prod.snd).toArray[n]?) = M.get? key := by
  cases hget : M.get? key with
  | some p =>
    have hmem : (key, p) ∈ M.toList := by
      rw [Std.TreeMap.mem_toList_iff_getElem?_eq_some, ← Std.TreeMap.get?_eq_getElem?]
      exact hget
    obtain ⟨n, hn⟩ := List.mem_iff_getElem?.1 hmem
    have hlookup := (labelEntries_lookup_eq_some M key n).2 (by rw [hn]; rfl)
    rw [hlookup, Option.bind_some, List.getElem?_toArray, List.getElem?_map, hn]
    rfl
  | none =>
    cases hlookup : (labelEntries M).lookup key.toUTF8.data.toList with
    | none => rfl
    | some n =>
      -- the entry at the label's number would give the label a posting
      obtain ⟨p, hp, rfl⟩ := Option.map_eq_some_iff.1 ((labelEntries_lookup_eq_some M key n).1 hlookup)
      have hmem := Std.TreeMap.mem_toList_iff_getElem?_eq_some.1 (List.mem_of_getElem? hp)
      rw [← Std.TreeMap.get?_eq_getElem?, hget] at hmem
      cases hmem

end LabelMap

/-- What a lookup reads for a normal label: the posting at the number the label map gives it. -/
def readPosting (s : Store) (key : String) : Option Posting :=
  (s.labels.get key.toUTF8.data.toList).bind fun n => s.postings[n]?

theorem readPosting_ofGraph (g : Graph) (f : LanguageFilter) (key : String) :
    (ofGraph g f).readPosting key = (ofGraph g f).index.get? key := by
  rw [readPosting, ofGraph_labelMap, ofGraph_postings]
  exact readPosting_labelEntries _ key

theorem readPosting_getD_ofGraph (g : Graph) (f : LanguageFilter) (key : String) :
    ((ofGraph g f).readPosting key).getD Posting.empty =
      (ofGraph g f).index.getD key Posting.empty := by
  rw [readPosting_ofGraph, Std.TreeMap.get?_eq_getElem?, Std.TreeMap.getD_eq_getD_getElem?]

section Lookup

/-- A list with each run of equal neighbours kept once, as a lookup keeps the sorted positions
of its postings. -/
def dropRepeats (l : List Nat) : List Nat :=
  l.foldr (fun x acc => match acc with
    | y :: _ => if x = y then acc else x :: acc
    | [] => [x]) []

@[simp] theorem dropRepeats_nil : dropRepeats [] = [] := rfl

theorem dropRepeats_cons (x : Nat) (l : List Nat) :
    dropRepeats (x :: l) = match dropRepeats l with
      | y :: _ => if x = y then dropRepeats l else x :: dropRepeats l
      | [] => [x] := rfl

@[simp] theorem mem_dropRepeats (l : List Nat) (a : Nat) : a ∈ dropRepeats l ↔ a ∈ l := by
  induction l with
  | nil => simp
  | cons x l ih =>
    rw [dropRepeats_cons, List.mem_cons, ← ih]
    cases dropRepeats l with
    | nil => simp
    | cons y tail =>
      dsimp only
      split
      · rename_i hxy
        subst hxy
        simp
      · simp

theorem pairwise_dropRepeats (l : List Nat) (h : l.Pairwise (· ≤ ·)) :
    (dropRepeats l).Pairwise (· < ·) := by
  induction l with
  | nil => simp
  | cons x l ih =>
    have hx := (List.pairwise_cons.1 h).1
    have hl := ih (List.pairwise_cons.1 h).2
    rw [dropRepeats_cons]
    cases hd : dropRepeats l with
    | nil => simp
    | cons y tail =>
      dsimp only
      split
      · rw [← hd]
        exact hl
      · rename_i hxy
        -- `y` heads the rest, so it is at least `x`, and every later member at least `y`
        have hy : y ∈ l := (mem_dropRepeats l y).1 (hd ▸ List.mem_cons_self)
        have hxy' : x < y := Nat.lt_of_le_of_ne (hx y hy) hxy
        rw [hd] at hl
        refine List.pairwise_cons.2 ⟨fun z hz => ?_, hl⟩
        rcases List.mem_cons.1 hz with rfl | hz
        · exact hxy'
        · exact Nat.lt_trans hxy' ((List.pairwise_cons.1 hl).1 z hz)

/-- A lookup of a text with a normal form reads the posting the label map and the posting table
give that form, and returns the concepts at its sorted positions under the asked kinds, each
once; a form with no posting reads as the empty posting. -/
theorem lookup_of_ne (s : Store) (text : String) (ks : List LabelKind)
    (hne : Label.normalize text ≠ "") :
    s.lookup text ks =
      (dropRepeats ((ks.flatMap ((s.readPosting (Label.normalize text)).getD Posting.empty).get
        |>.mergeSort fun a b => decide (a ≤ b)))).filterMap
        fun i => (s.concepts[i]?).map (·.uri) := by
  have hkey : (Label.normalize text).isEmpty = false := by
    rw [Bool.eq_false_iff]
    exact fun h => hne (String.isEmpty_iff.1 h)
  unfold lookup readPosting
  simp only [hkey, Bool.false_eq_true, if_false]
  -- a missing number and a number past the table both read as the empty posting
  cases s.labels.get (Label.normalize text).toUTF8.data.toList with
  | none => simp
  | some n =>
    dsimp only [Option.bind_some]
    cases s.postings[n]? with
    | none => simp
    | some p => rfl

/-- A lookup returns the URIs of the concepts in the posting of the query's normal form under
the asked kinds; none when the normal form is empty. -/
theorem mem_lookup_iff (s : Store) (text : String) (ks : List LabelKind) (u : String) :
    u ∈ s.lookup text ks ↔ Label.normalize text ≠ "" ∧
      ∃ k ∈ ks, ∃ i ∈ ((s.readPosting (Label.normalize text)).getD Posting.empty).get k,
        (s.concepts[i]?).map (·.uri) = some u := by
  by_cases hne : Label.normalize text = ""
  · have hkey : (Label.normalize text).isEmpty = true := String.isEmpty_iff.2 hne
    simp [lookup, hne]
  · rw [lookup_of_ne s text ks hne]
    simp only [List.mem_filterMap, mem_dropRepeats, List.mem_mergeSort, List.mem_flatMap, ne_eq,
      hne, not_false_eq_true, true_and]
    constructor
    · rintro ⟨i, ⟨k, hk, hi⟩, hu⟩
      exact ⟨k, hk, i, hi, hu⟩
    · rintro ⟨k, hk, i, hi, hu⟩
      exact ⟨i, ⟨k, hk, hi⟩, hu⟩

/-- The labels of a key are those of the record at the key's position. -/
theorem mem_labelsOf_iff (s : Store) (u l : String) (k : LabelKind) :
    l ∈ s.labelsOf u k ↔
      ∃ i c, s.ids[u]? = some i ∧ s.concepts[i]? = some c ∧ l ∈ c.labels k := by
  unfold labelsOf concept?
  cases hi : s.ids[u]? with
  | none => simp [hi]
  | some i =>
    cases hc : s.concepts[i]? with
    | none => simp [hi, hc]
    | some c => simp [hi, hc]

variable (g : Graph) (f : LanguageFilter)

/-- The labels of a kind that the store of a graph keeps for a key are exactly those that the
statements about the key give. -/
theorem mem_labelsOf (u l : String) (k : LabelKind) :
    l ∈ (ofGraph g f).labelsOf u k ↔
      ∃ s ∈ g.statements, s.subject.key = u ∧ Gives f k l s := by
  rw [mem_labelsOf_iff]
  constructor
  · rintro ⟨i, c, hi, hc, hl⟩
    -- the key's position holds the key's record
    have huri : c.uri = u := by
      have h := (ofGraph_ids_iff g f u i).1 hi
      rw [hc] at h
      exact Option.some.inj h
    rw [← huri]
    exact (ofGraph_labels g f i c hc k l).1 hl
  · rintro ⟨s, hs, rfl, hgive⟩
    -- the subject of a label statement is a concept, so it has a position and a record
    have hmem : s.subject.key ∈ g.concepts :=
      (g.mem_concepts _).2 ⟨s, hs, hgive.labelsSubject, rfl⟩
    obtain ⟨i, hi⟩ := List.mem_iff_getElem?.1 hmem
    have hc := ofGraph_uri g f i
    rw [hi] at hc
    obtain ⟨c, hc', huri⟩ := Option.map_eq_some_iff.1 hc
    refine ⟨i, c, ?_, hc', ?_⟩
    · rw [ofGraph_ids_iff, hc]
    · exact (ofGraph_labels g f i c hc' k l).2 ⟨s, hs, huri.symm ▸ rfl, hgive⟩

/-- Looking a text up in the store of a graph finds a key exactly when the text's normal form is
a label, of one of the asked kinds, that the store keeps for the key. -/
theorem mem_lookup (text u : String) (ks : List LabelKind) :
    u ∈ (ofGraph g f).lookup text ks ↔
      ∃ k ∈ ks, Label.normalize text ∈ (ofGraph g f).labelsOf u k := by
  rw [mem_lookup_iff, readPosting_getD_ofGraph, ofGraph_index]
  simp only [mem_indexOf]
  constructor
  · rintro ⟨-, k, hk, i, ⟨c, hc, hl⟩, hu⟩
    exact ⟨k, hk, (mem_labelsOf_iff _ u _ k).2 ⟨i, c, (ofGraph_ids_iff g f u i).2 hu, hc, hl⟩⟩
  · rintro ⟨k, hk, hl⟩
    -- a kept label is never empty
    obtain ⟨-, -, -, ⟨-, -, -, -, -, hne⟩⟩ := (mem_labelsOf g f u _ k).1 hl
    obtain ⟨i, c, hi, hc, hl⟩ := (mem_labelsOf_iff _ u _ k).1 hl
    exact ⟨hne, k, hk, i, ⟨c, hc, hl⟩, (ofGraph_ids_iff g f u i).1 hi⟩

/-- Every position in a posting of the store of a graph holds a concept. -/
theorem lt_size_of_mem_posting (key : String) (k : LabelKind) (i : Nat)
    (hi : i ∈ ((ofGraph g f).index.getD key Posting.empty).get k) :
    i < (ofGraph g f).concepts.size := by
  rw [ofGraph_index, mem_indexOf] at hi
  obtain ⟨c, hc, -⟩ := hi
  exact (Array.getElem?_eq_some_iff.1 hc).1

end Lookup

end Store

end Thesaurus
