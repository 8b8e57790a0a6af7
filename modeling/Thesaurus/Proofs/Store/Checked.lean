import Mathlib
import Thesaurus.Store.Build
import Thesaurus.Proofs.Text.Bytes
import Thesaurus.Proofs.Store.Lookup
import Thesaurus.Proofs.Store.Build

/-!
Building a store fails only where it checks. The map builder of the transducer library refuses
a key that is not above every key inserted before, byte by byte (`MapBuilder.Lawful` says what
the store relies on of it, and `MapBuilder.sorted` is a builder that behaves so). The label index
gives its keys in increasing string order, and UTF-8 keeps that order, so the keys go in in
increasing byte order and the label map is always written, and reads as the map the store of the
graph keeps (`labelMap_ok`). What remains is the numbering of the concepts, which fails exactly when there are more than `2 ^ 32` of them
(`numberConcepts_eq`); below that every id the index holds is a 32-bit id. So a build fails
only when its load fails, with the load's error (`build_atomic`).
-/

set_option autoImplicit false
set_option relaxedAutoImplicit false

namespace Thesaurus

namespace MapBuilder

variable {β μ : Type} (B : MapBuilder β μ)

/-- The builders reached from a new one by inserting keys in turn, with the entries inserted. -/
inductive Reaches : β → List (List UInt8 × Nat) → Prop
  | memory : Reaches B.memory []
  | insert {b b' : β} {kvs : List (List UInt8 × Nat)} {k : List UInt8} {v : Nat} :
      Reaches b kvs → B.insert b k v = .ok b' → Reaches b' (kvs ++ [(k, v)])

/-- What the store relies on of the map builder, as its library documents it: a key above,
byte by byte, every key inserted before is inserted; a builder reached so is finished, and the
bytes it gives are opened, without failure; the map opened gives each inserted key its value and
no other key any, and counts the keys. -/
structure Lawful : Prop where
  insert_ok : ∀ b kvs k v, B.Reaches b kvs → (∀ p ∈ kvs, p.1 < k) → ∃ b', B.insert b k v = .ok b'
  intoInner_ok : ∀ b kvs, B.Reaches b kvs → ∃ bytes, B.intoInner b = .ok bytes
  openMap_ok : ∀ b kvs bytes, B.Reaches b kvs → B.intoInner b = .ok bytes →
    ∃ m, B.openMap bytes = .ok m
  read : ∀ b kvs bytes m, B.Reaches b kvs → B.intoInner b = .ok bytes → B.openMap bytes = .ok m →
    (∀ key, B.get m key = kvs.lookup key) ∧ B.len m = kvs.length

/-- The bytes of a list of entries: each byte of a key tagged with `1`, the value in unary as
`2`s, and a `3` closing the entry. -/
def encodeEntries (kvs : List (List UInt8 × Nat)) : List UInt8 :=
  kvs.flatMap fun p => p.1.flatMap (fun b => [1, b]) ++ List.replicate p.2 2 ++ [3]

/-- Reads the entries back from their bytes, given the key and the value read so far. -/
def decodeEntries : List UInt8 → List UInt8 → Nat → List (List UInt8 × Nat)
  | 1 :: b :: rest, key, v => decodeEntries rest (key ++ [b]) v
  | 2 :: rest, key, v => decodeEntries rest key (v + 1)
  | 3 :: rest, key, v => (key, v) :: decodeEntries rest [] 0
  | _, _, _ => []

theorem decodeEntries_key (k rest key : List UInt8) (v : Nat) :
    decodeEntries (k.flatMap (fun b => [1, b]) ++ rest) key v =
      decodeEntries rest (key ++ k) v := by
  induction k generalizing key with
  | nil => simp
  | cons b k ih =>
    simp only [List.flatMap_cons, List.cons_append, List.nil_append]
    rw [decodeEntries, ih, List.append_assoc, List.singleton_append]

theorem decodeEntries_value (n : Nat) (rest key : List UInt8) (v : Nat) :
    decodeEntries (List.replicate n 2 ++ rest) key v = decodeEntries rest key (v + n) := by
  induction n generalizing v with
  | zero => simp
  | succ n ih =>
    rw [List.replicate_succ, List.cons_append, decodeEntries, ih]
    congr 1
    omega

theorem decodeEntries_encodeEntries (kvs : List (List UInt8 × Nat)) :
    decodeEntries (encodeEntries kvs) [] 0 = kvs := by
  induction kvs with
  | nil => rfl
  | cons p kvs ih =>
    simp only [encodeEntries, List.flatMap_cons, List.append_assoc] at ih ⊢
    rw [decodeEntries_key, decodeEntries_value, List.singleton_append, decodeEntries, ih]
    simp

/-- A builder that keeps the entries inserted, refuses a key not above all of them, writes them
as bytes and reads them back. -/
def sorted : MapBuilder (List (List UInt8 × Nat)) (List (List UInt8 × Nat)) where
  memory := []
  insert kvs k v :=
    if kvs.all fun p => decide (p.1 < k) then .ok (kvs ++ [(k, v)]) else .error "out of order"
  intoInner kvs := .ok (encodeEntries kvs)
  openMap bytes := .ok (decodeEntries bytes [] 0)
  get kvs key := kvs.lookup key
  len kvs := kvs.length

theorem sorted_reaches {b kvs : List (List UInt8 × Nat)} (h : sorted.Reaches b kvs) : b = kvs := by
  induction h with
  | memory => rfl
  | insert _ hins ih =>
    subst ih
    simp only [sorted] at hins
    split at hins
    · exact (Except.ok.inj hins).symm
    · cases hins

theorem sorted_lawful : sorted.Lawful where
  insert_ok b kvs k _ h hlt := by
    rw [sorted_reaches h]
    have hall : (kvs.all fun p => decide (p.1 < k)) = true :=
      List.all_eq_true.2 fun p hp => decide_eq_true (hlt p hp)
    exact ⟨_, if_pos hall⟩
  intoInner_ok _ _ _ := ⟨_, rfl⟩
  openMap_ok _ _ _ _ _ := ⟨_, rfl⟩
  read b kvs bytes m h hbytes hm := by
    obtain rfl : bytes = encodeEntries b := (Except.ok.inj hbytes).symm
    obtain rfl : m = decodeEntries (encodeEntries b) [] 0 := (Except.ok.inj hm).symm
    rw [decodeEntries_encodeEntries, sorted_reaches h]
    exact ⟨fun _ => rfl, rfl⟩

variable {B}

theorem foldlM_insert_ok (hB : B.Lawful) (err : String → Error) :
    ∀ (xs : List (List UInt8 × Nat)) (b : β) (kvs : List (List UInt8 × Nat)), B.Reaches b kvs →
      (xs.map Prod.fst).Pairwise (· < ·) → (∀ p ∈ kvs, ∀ q ∈ xs, p.1 < q.1) →
      ∃ b', B.Reaches b' (kvs ++ xs) ∧
        xs.foldlM (fun b p => (B.insert b p.1 p.2).mapError err) b = .ok b' := by
  intro xs
  induction xs with
  | nil => exact fun b kvs h _ _ => ⟨b, by rw [List.append_nil]; exact h, rfl⟩
  | cons x xs ih =>
    intro b kvs h hinc habove
    rw [List.map_cons, List.pairwise_cons] at hinc
    -- the first key is above every key inserted so far
    obtain ⟨b₁, hb₁⟩ := hB.insert_ok b kvs x.1 x.2 h
      fun p hp => habove p hp x List.mem_cons_self
    -- and every later key is above it and above the keys inserted before
    have habove' : ∀ p ∈ kvs ++ [x], ∀ q ∈ xs, p.1 < q.1 := by
      intro p hp q hq
      rcases List.mem_append.1 hp with hp | hp
      · exact habove p hp q (List.mem_cons_of_mem _ hq)
      · rw [List.mem_singleton.1 hp]
        exact hinc.1 q.1 (List.mem_map_of_mem hq)
    obtain ⟨b', hreach, hfold⟩ := ih b₁ (kvs ++ [x]) (.insert h hb₁) hinc.2 habove'
    refine ⟨b', by rw [← List.singleton_append, ← List.append_assoc]; exact hreach, ?_⟩
    rw [List.foldlM_cons, hb₁]
    exact hfold

end MapBuilder

namespace Store

theorem keys_utf8_increasing {α : Type} (m : Std.TreeMap String α compare) :
    (m.keys.map fun k => k.toUTF8.data.toList).Pairwise (· < ·) := by
  rw [List.pairwise_map]
  exact m.ordered_keys.imp fun h => Text.utf8Bytes_lt (compareOfLessAndEq_eq_lt.1 h)

/-- The label map of an index is written without failure, and reads as the map of the index's
entries. -/
theorem labelMap_ok {β μ : Type} {B : MapBuilder β μ} (hB : B.Lawful)
    (index : Std.TreeMap String Posting compare) :
    ∃ m, labelMap B index = .ok m ∧
      (⟨B.get m, B.len m⟩ : LabelMap) = .ofEntries (labelEntries index) := by
  have hinc : ((labelEntries index).map Prod.fst).Pairwise (· < ·) := by
    rw [map_fst_labelEntries]
    exact keys_utf8_increasing index
  obtain ⟨b, hreach, hfold⟩ := MapBuilder.foldlM_insert_ok hB
    (fun e => .store ("FST build error: " ++ e)) (labelEntries index) B.memory [] .memory hinc
    (by simp)
  rw [List.nil_append] at hreach
  obtain ⟨bytes, hbytes⟩ := hB.intoInner_ok b _ hreach
  obtain ⟨m, hm⟩ := hB.openMap_ok b _ bytes hreach hbytes
  obtain ⟨hget, hlen⟩ := hB.read b _ bytes m hreach hbytes hm
  refine ⟨m, ?_, ?_⟩
  · unfold labelMap
    rw [hfold]
    show ((B.intoInner b).mapError _ >>= _) = _
    rw [hbytes]
    show (B.openMap bytes).mapError _ = _
    rw [hm]
    rfl
  · rw [LabelMap.ofEntries, ← hlen]
    congr 1
    funext key
    exact hget key

theorem forM_check {α : Type} (l : List α) (P : α → Prop) [DecidablePred P] (e : Error) :
    l.forM (fun x => (if P x then .ok () else .error e : Except Error Unit)) =
      if ∀ x ∈ l, P x then .ok () else .error e := by
  induction l with
  | nil => simp; rfl
  | cons x l ih =>
    simp only [List.forM]
    by_cases hx : P x
    · simp only [hx, if_true, List.forall_mem_cons, true_and]
      exact ih
    · simp only [hx, if_false, List.forall_mem_cons, false_and]
      rfl

/-- Numbering concepts fails exactly when there are more than `2 ^ 32` of them. -/
theorem numberConcepts_eq (uris : List String) :
    numberConcepts uris = if uris.length ≤ idCount then .ok ()
      else .error (.store "too many concepts for one store") := by
  unfold numberConcepts
  rw [forM_check uris.zipIdx (fun p => p.2 < idCount)]
  -- every number is below the count of ids exactly when the last one is
  have hall : (∀ p ∈ uris.zipIdx, p.2 < idCount) ↔ uris.length ≤ idCount := by
    constructor
    · intro h
      by_contra hlong
      obtain ⟨u, hu⟩ : ∃ u, uris[idCount]? = some u :=
        Option.isSome_iff_exists.1 (by simp; omega)
      exact Nat.lt_irrefl _ (h (u, idCount) (List.mem_zipIdx_iff_getElem?.2 hu))
    · intro h p hp
      have := (List.mem_zipIdx_iff_getElem?.1 hp)
      have hlt : p.2 < uris.length := (List.getElem?_eq_some_iff.1 this).1
      omega
  simp only [hall]

/-- With a builder that behaves as its library documents, building the store of a graph fails
only when it has more than `2 ^ 32` concepts, and otherwise gives the store of the graph. -/
theorem fromGraph_eq {β μ : Type} {B : MapBuilder β μ} (hB : B.Lawful) (g : Graph)
    (f : LanguageFilter) :
    fromGraph B g f = if g.concepts.length ≤ idCount then .ok (ofGraph g f)
      else .error (.store "too many concepts for one store") := by
  obtain ⟨m, hm, hread⟩ := labelMap_ok hB (ofGraph g f).index
  unfold fromGraph
  rw [numberConcepts_eq]
  split
  · simp only [hm, bind, Except.bind, pure, Except.pure]
    -- the store reads its labels through the written map, which is the map of its entries
    rw [hread, ← ofGraph_labelMap]
  · rfl

/-- Building the store of a graph with a builder that behaves as its library documents succeeds
exactly when the graph has at most `2 ^ 32` concepts, and gives the store of the graph; with more,
it fails as having too many concepts. Every id the label index of a store of at most `2 ^ 32`
concepts holds is a 32-bit id. Building from a load whose graph has at most `2 ^ 32` concepts
fails exactly when the load fails, with the load's error, and otherwise gives the store of the
loaded graph. -/
theorem build_atomic {β μ : Type} (B : MapBuilder β μ) (hB : B.Lawful)
    (load : Except Error Graph) (f : LanguageFilter)
    (hload : ∀ g, load = .ok g → g.concepts.length ≤ idCount) :
    (∀ g, fromGraph B g f = .ok (ofGraph g f) ↔ g.concepts.length ≤ idCount) ∧
      (∀ g, idCount < g.concepts.length →
        fromGraph B g f = .error (.store "too many concepts for one store")) ∧
      (∀ g key k i, g.concepts.length ≤ idCount →
        i ∈ ((ofGraph g f).index.getD key Posting.empty).get k → i < idCount) ∧
      build B load f = load.map (ofGraph · f) := by
  -- the label map is always written, so only the numbering decides
  have hfrom := fun g => fromGraph_eq hB g f
  refine ⟨fun g => ?_, fun g hg => ?_, fun g key k i hg hi => ?_, ?_⟩
  · rw [hfrom]
    split
    · exact iff_of_true rfl ‹_›
    · exact iff_of_false (fun h => nomatch h) ‹_›
  · rw [hfrom, if_neg (by omega)]
  · have hsize : (ofGraph g f).concepts.size = g.concepts.length := by
      rw [← Array.length_toList, ← List.length_map (f := (·.uri)), ofGraph_uris]
    have := lt_size_of_mem_posting g f key k i hi
    omega
  · cases load with
    | error e => rfl
    | ok g =>
      show fromGraph B g f = .ok (ofGraph g f)
      rw [hfrom, if_pos (hload g rfl)]

/-- A graph of three concepts. -/
def smallGraph : Graph :=
  ⟨[⟨.iri "ex:1", .label .pref, .literal ⟨"jumps", none⟩⟩,
    ⟨.iri "ex:2", .label .alt, .literal ⟨"leaps", none⟩⟩,
    ⟨.iri "ex:3", .label .pref, .literal ⟨"Сибирь", some "ru"⟩⟩]⟩

theorem build_atomic_small :
    MapBuilder.sorted.Lawful ∧
      (∀ g, Except.ok smallGraph = Except.ok (ε := Error) g → g.concepts.length ≤ idCount) ∧
      ((∀ g, fromGraph MapBuilder.sorted g ⟨none⟩ = .ok (ofGraph g ⟨none⟩) ↔
          g.concepts.length ≤ idCount) ∧
        (∀ g, idCount < g.concepts.length →
          fromGraph MapBuilder.sorted g ⟨none⟩ = .error (.store "too many concepts for one store")) ∧
        (∀ g key k i, g.concepts.length ≤ idCount →
          i ∈ ((ofGraph g ⟨none⟩).index.getD key Posting.empty).get k → i < idCount) ∧
        build MapBuilder.sorted (.ok smallGraph) ⟨none⟩ =
          (Except.ok smallGraph).map (ofGraph · ⟨none⟩)) := by
  have hload : ∀ g, Except.ok smallGraph = Except.ok (ε := Error) g →
      g.concepts.length ≤ idCount := by
    intro g hg
    cases hg
    decide
  exact ⟨MapBuilder.sorted_lawful, hload,
    build_atomic MapBuilder.sorted MapBuilder.sorted_lawful (.ok smallGraph) ⟨none⟩ hload⟩

end Store

end Thesaurus
