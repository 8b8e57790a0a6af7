import Mathlib
import Thesaurus.Proofs.Store.Lookup

/-!
The transitive relations of the store are closures computed by breadth-first search. `Bfs` is
textbook breadth-first search as a relation: take the first queued node, visit it, enqueue and
mark its successors not yet marked. From its start it visits each node once, never the start, and
exactly the nodes other than the start that the start reaches by one edge or more
(`BfsFrom.visits`). The store's search runs on fuel and on a list of visited nodes rather than
marks; with fuel above the links still to expand (`weight`) it lists what `Bfs` visits
(`search_bfs`, `reach_bfs`). Over the records of a graph the successors of a concept are its
direct targets, then its explicit transitive ones (`successors_records`), so each concept's
broader and narrower transitive relations are its closures (`transitive_closure_bfs`). A concept
on a cycle is still left out of its own closure (`self_loop_closure`).
-/

set_option autoImplicit false
set_option relaxedAutoImplicit false

namespace Thesaurus.Closure

/-- The successors that textbook search enqueues, in order: each one not yet marked, which it
marks as it enqueues it. -/
def fresh (marked : List String) : List String → List String
  | [] => []
  | v :: vs => if v ∈ marked then fresh marked vs else v :: fresh (v :: marked) vs

theorem fresh_cons (marked : List String) (v : String) (vs : List String) :
    fresh marked (v :: vs) = if v ∈ marked then fresh marked vs else v :: fresh (v :: marked) vs :=
  rfl

@[simp] theorem mem_fresh (marked l : List String) (x : String) :
    x ∈ fresh marked l ↔ x ∈ l ∧ x ∉ marked := by
  induction l generalizing marked with
  | nil => simp [fresh]
  | cons v vs ih =>
    rw [fresh_cons]
    by_cases hv : v ∈ marked
    · simp only [hv, ↓reduceIte, ih, List.mem_cons]
      constructor
      · rintro ⟨h, hx⟩
        exact ⟨.inr h, hx⟩
      · rintro ⟨rfl | h, hx⟩
        · exact absurd hv hx
        · exact ⟨h, hx⟩
    · simp only [hv, ↓reduceIte, List.mem_cons, ih]
      by_cases hxv : x = v
      · subst hxv
        simp [hv]
      · simp [hxv]

theorem nodup_fresh (marked l : List String) : (fresh marked l).Nodup := by
  induction l generalizing marked with
  | nil => exact List.nodup_nil
  | cons v vs ih =>
    rw [fresh_cons]
    split
    · exact ih marked
    · exact List.nodup_cons.2 ⟨fun h => ((mem_fresh _ _ _).1 h).2 List.mem_cons_self, ih _⟩

theorem fresh_congr {marked marked' : List String} (h : ∀ x, x ∈ marked ↔ x ∈ marked')
    (l : List String) : fresh marked l = fresh marked' l := by
  induction l generalizing marked marked' with
  | nil => rfl
  | cons v vs ih =>
    rw [fresh_cons, fresh_cons]
    by_cases hv : v ∈ marked
    · rw [if_pos hv, if_pos ((h v).1 hv), ih h]
    · rw [if_neg hv, if_neg (fun hv' => hv ((h v).2 hv')),
        @ih (v :: marked) (v :: marked') (fun x => by simp [h x])]

theorem fresh_append (marked a b : List String) :
    fresh marked (a ++ b) = fresh marked a ++ fresh (fresh marked a ++ marked) b := by
  induction a generalizing marked with
  | nil => rfl
  | cons v vs ih =>
    rw [List.cons_append, fresh_cons, fresh_cons]
    split
    · exact ih marked
    · rw [ih, List.cons_append]
      congr 2
      refine fresh_congr (fun x => ?_) b
      simp only [List.mem_append, List.mem_cons]
      grind

theorem fresh_filter {marked : List String} (w l : List String) (hw : ∀ x ∈ w, x ∈ marked) :
    fresh marked (l.filter fun v => !w.contains v) = fresh marked l := by
  induction l generalizing marked with
  | nil => rfl
  | cons v vs ih =>
    by_cases hv : v ∈ w
    · rw [List.filter_cons_of_neg (by simpa using hv), fresh_cons, if_pos (hw v hv)]
      exact ih hw
    · rw [List.filter_cons_of_pos (by simpa using hv), fresh_cons, fresh_cons]
      split
      · exact ih hw
      · exact congrArg (v :: ·) (ih fun x hx => List.mem_cons_of_mem _ (hw x hx))

/-- A run of textbook breadth-first search, from a queue and the nodes marked so far, and the
nodes it visits in order. It takes the first node of the queue, visits it, and enqueues and marks
its successors not yet marked. -/
inductive Bfs (succ : String → List String) : List String → List String → List String → Prop
  | done (marked : List String) : Bfs succ [] marked []
  | visit (u : String) (queue marked out : List String) :
      Bfs succ (queue ++ fresh marked (succ u)) (fresh marked (succ u) ++ marked) out →
      Bfs succ (u :: queue) marked (u :: out)

/-- Breadth-first search from `start`, which is marked before anything and never visited. -/
def BfsFrom (succ : String → List String) (start : String) (out : List String) : Prop :=
  Bfs succ (fresh [start] (succ start)) (fresh [start] (succ start) ++ [start]) out

namespace Bfs

variable {succ : String → List String}

theorem unique {queue marked out out' : List String} (h : Bfs succ queue marked out)
    (h' : Bfs succ queue marked out') : out = out' := by
  induction h generalizing out' with
  | done => cases h'; rfl
  | visit u queue marked out _ ih =>
    cases h' with
    | visit _ _ _ out' h' => rw [ih h']

theorem congr {queue marked marked' out : List String} (h : Bfs succ queue marked out)
    (hm : ∀ x, x ∈ marked ↔ x ∈ marked') : Bfs succ queue marked' out := by
  induction h generalizing marked' with
  | done => exact .done _
  | visit u queue marked out _ ih =>
    refine .visit u queue marked' out ?_
    rw [← fresh_congr hm]
    exact ih fun x => by simp [hm x]

theorem visits_queue {queue marked out : List String} (h : Bfs succ queue marked out) :
    ∀ x ∈ queue, x ∈ out := by
  induction h with
  | done => simp
  | visit u queue marked out _ ih =>
    intro x hx
    rcases List.mem_cons.1 hx with rfl | hx
    · exact List.mem_cons_self
    · exact List.mem_cons_of_mem _ (ih x (List.mem_append_left _ hx))

theorem nodup {queue marked out : List String} (h : Bfs succ queue marked out)
    (hq : queue.Nodup) (hqm : ∀ x ∈ queue, x ∈ marked) :
    out.Nodup ∧ ∀ x ∈ out, x ∈ queue ∨ x ∉ marked := by
  induction h with
  | done => simp
  | visit u queue marked out _ ih =>
    obtain ⟨hu, hq⟩ := List.nodup_cons.1 hq
    -- the enqueued successors were not marked, so they are new to the queue
    have hnd : (queue ++ fresh marked (succ u)).Nodup := List.nodup_append.2 ⟨hq, nodup_fresh _ _,
      fun a ha b hb hab => ((mem_fresh _ _ _).1 (hab ▸ hb)).2 (hqm a (List.mem_cons_of_mem _ ha))⟩
    obtain ⟨hout, hfrom⟩ := ih hnd fun x hx => by
      rcases List.mem_append.1 hx with hx | hx
      · exact List.mem_append_right _ (hqm x (List.mem_cons_of_mem _ hx))
      · exact List.mem_append_left _ hx
    have humark := hqm u List.mem_cons_self
    refine ⟨List.nodup_cons.2 ⟨fun hin => ?_, hout⟩, fun x hx => ?_⟩
    · rcases hfrom u hin with hin | hin
      · rcases List.mem_append.1 hin with hin | hin
        · exact hu hin
        · exact ((mem_fresh _ _ _).1 hin).2 humark
      · exact hin (List.mem_append_right _ humark)
    · rcases List.mem_cons.1 hx with rfl | hx
      · exact .inl List.mem_cons_self
      · rcases hfrom x hx with hin | hin
        · rcases List.mem_append.1 hin with hin | hin
          · exact .inl (List.mem_cons_of_mem _ hin)
          · exact .inr ((mem_fresh _ _ _).1 hin).2
        · exact .inr fun hm => hin (List.mem_append_right _ hm)

theorem closed {queue marked out : List String} (h : Bfs succ queue marked out) :
    ∀ x ∈ out, ∀ y ∈ succ x, y ∈ out ∨ (y ∈ marked ∧ y ∉ queue) := by
  induction h with
  | done => simp
  | visit u queue marked out hrun ih =>
    intro x hx y hy
    -- a node queued now is visited later
    have later : ∀ z ∈ queue, z ∈ u :: out := fun z hz =>
      List.mem_cons_of_mem _ (hrun.visits_queue z (List.mem_append_left _ hz))
    by_cases hyu : y = u
    · exact .inl (hyu ▸ List.mem_cons_self)
    by_cases hyq : y ∈ queue
    · exact .inl (later y hyq)
    rcases List.mem_cons.1 hx with rfl | hx
    · -- the successors of the node visited now are enqueued, or were marked
      by_cases hym : y ∈ marked
      · exact .inr ⟨hym, by simp [hyu, hyq]⟩
      · exact .inl (List.mem_cons_of_mem _ (hrun.visits_queue y
          (List.mem_append_right _ ((mem_fresh _ _ _).2 ⟨hy, hym⟩))))
    · rcases ih x hx y hy with hin | ⟨hin, -⟩
      · exact .inl (List.mem_cons_of_mem _ hin)
      · rcases List.mem_append.1 hin with hin | hin
        · exact .inl (List.mem_cons_of_mem _ (hrun.visits_queue y (List.mem_append_right _ hin)))
        · exact .inr ⟨hin, by simp [hyu, hyq]⟩

theorem visited_of {queue marked out : List String} (h : Bfs succ queue marked out)
    (P : String → Prop) (hq : ∀ x ∈ queue, P x) (hstep : ∀ x y, P x → y ∈ succ x → P y) :
    ∀ x ∈ out, P x := by
  induction h with
  | done => simp
  | visit u queue marked out _ ih =>
    have hu := hq u List.mem_cons_self
    intro x hx
    rcases List.mem_cons.1 hx with rfl | hx
    · exact hu
    · refine ih (fun y hy => ?_) x hx
      rcases List.mem_append.1 hy with hy | hy
      · exact hq y (List.mem_cons_of_mem _ hy)
      · exact hstep u y hu ((mem_fresh _ _ _).1 hy).1

end Bfs

/-- Breadth-first search from `start` visits each node once, never `start` itself, and visits
exactly the nodes other than `start` reached from it by one edge or more. -/
theorem BfsFrom.visits {succ : String → List String} {start : String} {out : List String}
    (h : BfsFrom succ start out) :
    out.Nodup ∧ start ∉ out ∧
      ∀ v, v ∈ out ↔ v ≠ start ∧ Relation.TransGen (fun a b => b ∈ succ a) start v := by
  have hqm : ∀ x ∈ fresh [start] (succ start), x ∈ fresh [start] (succ start) ++ [start] :=
    fun x hx => List.mem_append_left _ hx
  obtain ⟨hnd, hfrom⟩ := h.nodup (nodup_fresh _ _) hqm
  -- the start is marked before the search and never queued
  have hstart : start ∉ out := fun hin => by
    rcases hfrom start hin with hq | hm
    · exact ((mem_fresh _ _ _).1 hq).2 List.mem_cons_self
    · exact hm (List.mem_append_right _ List.mem_cons_self)
  refine ⟨hnd, hstart, fun v => ⟨fun hv => ⟨fun he => hstart (he ▸ hv), ?_⟩, ?_⟩⟩
  · -- visited nodes are reached: the queue starts with successors of `start`
    exact h.visited_of (Relation.TransGen (fun a b => b ∈ succ a) start)
      (fun x hx => .single ((mem_fresh _ _ _).1 hx).1) (fun _ _ hx hy => hx.tail hy) v hv
  · -- the visited nodes and `start` are closed under successors
    rintro ⟨hne, hreach⟩
    have hclosed : ∀ x, x = start ∨ x ∈ out → ∀ y ∈ succ x, y = start ∨ y ∈ out := by
      rintro x (rfl | hx) y hy
      · by_cases hys : y = x
        · exact .inl hys
        · exact .inr (h.visits_queue y ((mem_fresh _ _ _).2 ⟨hy, by simpa using hys⟩))
      · rcases h.closed x hx y hy with hin | ⟨hin, hnq⟩
        · exact .inr hin
        · rcases List.mem_append.1 hin with hin | hin
          · exact absurd hin hnq
          · exact .inl (List.mem_singleton.1 hin)
    have hall : ∀ w, Relation.TransGen (fun a b => b ∈ succ a) start w → w = start ∨ w ∈ out := by
      intro w hw
      induction hw with
      | single hy => exact hclosed start (.inl rfl) _ hy
      | tail _ hy ih => exact hclosed _ ih _ hy
    exact (hall v hreach).resolve_left hne

/-- `out` is the closure of `start` under `succ`: breadth-first search from `start` visits
exactly the nodes of `out`, in order; they are distinct, `start` is not among them, and they are
the nodes other than `start` that `start` reaches by one edge or more. -/
structure IsClosure (succ : String → List String) (start : String) (out : List String) : Prop where
  bfs : ∀ out', BfsFrom succ start out' ↔ out' = out
  nodup : out.Nodup
  not_start : start ∉ out
  reach : ∀ v, v ∈ out ↔ v ≠ start ∧ Relation.TransGen (fun a b => b ∈ succ a) start v

theorem BfsFrom.isClosure {succ : String → List String} {start : String} {out : List String}
    (h : BfsFrom succ start out) : IsClosure succ start out :=
  let ⟨hnd, hstart, hreach⟩ := h.visits
  ⟨fun _ => ⟨fun h' => Bfs.unique h' h, fun he => he ▸ h⟩, hnd, hstart, hreach⟩

/-! ## The search of the closures computes breadth-first search -/

/-- What is left to expand: the successor links of the nodes among `keys` not yet visited. -/
def weight (succ : String → Option (List String)) (keys visited : List String) : Nat :=
  (keys.map fun x => if x ∈ visited then 0 else ((succ x).getD []).length).sum

theorem weight_mono (succ : String → Option (List String)) (keys : List String)
    {visited visited' : List String} (h : ∀ x ∈ visited, x ∈ visited') :
    weight succ keys visited' ≤ weight succ keys visited := by
  induction keys with
  | nil => exact Nat.le_refl 0
  | cons x keys ih =>
    simp only [weight, List.map_cons, List.sum_cons] at ih ⊢
    have : (if x ∈ visited' then 0 else ((succ x).getD []).length) ≤
        (if x ∈ visited then 0 else ((succ x).getD []).length) := by
      by_cases hx : x ∈ visited
      · simp [hx, h x hx]
      · split <;> simp
    omega

theorem weight_visit (succ : String → Option (List String)) {keys visited : List String}
    {u : String} (hkey : succ u ≠ none → u ∈ keys) (hu : u ∉ visited) :
    weight succ keys (u :: visited) + ((succ u).getD []).length ≤ weight succ keys visited := by
  induction keys with
  | nil =>
    have : succ u = none := Classical.byContradiction fun h => List.not_mem_nil (hkey h)
    simp [weight, this]
  | cons x keys ih =>
    simp only [weight, List.map_cons, List.sum_cons] at ih ⊢
    by_cases hxu : x = u
    · subst hxu
      have hmono := @weight_mono succ keys visited (x :: visited)
        (fun y hy => List.mem_cons_of_mem _ hy)
      simp only [weight] at hmono
      rw [if_pos List.mem_cons_self, if_neg hu]
      omega
    · have hx : (x ∈ u :: visited) = (x ∈ visited) := by simp [hxu]
      have := ih fun h => (List.mem_cons.1 (hkey h)).resolve_left fun h' => hxu h'.symm
      simp only [hx] at this ⊢
      omega

theorem fresh_visit_queue (u : String) (visited queue next : List String) :
    fresh (u :: visited) (queue ++ next.filter fun v => !(u :: visited).contains v) =
      fresh (u :: visited) queue ++ fresh ((u :: fresh (u :: visited) queue) ++ visited) next := by
  rw [fresh_append, fresh_filter _ _ (fun x hx => List.mem_append_right _ hx)]
  congr 1
  refine fresh_congr (fun x => ?_) _
  simp only [List.mem_append, List.mem_cons, mem_fresh]
  grind

/-- With more fuel than it has left to do (its queue, and the links of the keys not yet
visited), the search of the closures lists, after what it has listed, the nodes that
breadth-first search visits from the queue, with the queued and the visited nodes marked. -/
theorem search_bfs (succ : String → Option (List String)) {keys : List String}
    (hkeys : ∀ x, succ x ≠ none → x ∈ keys) :
    ∀ (fuel : Nat) (visited queue acc : List String),
      queue.length + weight succ keys visited < fuel →
      ∃ out, search succ fuel visited queue acc = acc.reverse ++ out ∧
        Bfs (fun x => (succ x).getD []) (fresh visited queue) (fresh visited queue ++ visited)
          out := by
  intro fuel
  induction fuel with
  | zero => intro _ _ _ h; omega
  | succ fuel ih =>
    intro visited queue acc hfuel
    cases queue with
    | nil => exact ⟨[], by simp [search], .done _⟩
    | cons u queue =>
      simp only [List.length_cons] at hfuel
      by_cases hu : u ∈ visited
      · -- a node visited already is passed over
        have hsearch : search succ (fuel + 1) visited (u :: queue) acc =
            search succ fuel visited queue acc := by
          simp [search, hu]
        obtain ⟨out, hout, hbfs⟩ := ih visited queue acc (by omega)
        refine ⟨out, hsearch ▸ hout, ?_⟩
        rw [fresh_cons, if_pos hu]
        exact hbfs
      · -- a new node is listed, and its successors not yet visited join the queue
        have hsearch : search succ (fuel + 1) visited (u :: queue) acc =
            search succ fuel (u :: visited)
              (queue ++ ((succ u).getD []).filter fun v => !(u :: visited).contains v)
              (u :: acc) := by
          cases hs : succ u <;> simp [search, hu, hs]
        have hlen := List.length_filter_le (fun v => !(u :: visited).contains v) ((succ u).getD [])
        have hspent := weight_visit succ (hkeys u) hu
        obtain ⟨out, hout, hbfs⟩ := ih (u :: visited)
          (queue ++ ((succ u).getD []).filter fun v => !(u :: visited).contains v) (u :: acc)
          (by simp only [List.length_append]; omega)
        refine ⟨u :: out, by rw [hsearch, hout]; simp, ?_⟩
        rw [fresh_cons, if_neg hu]
        refine .visit _ _ _ _ ?_
        rw [← fresh_visit_queue]
        refine hbfs.congr fun x => ?_
        simp only [List.mem_append, List.mem_cons, mem_fresh, List.mem_filter]
        grind

/-- The closure search, with a bound no smaller than all the links of the keys, is
breadth-first search from its start. -/
theorem reach_bfs (succ : String → Option (List String)) {keys : List String}
    (hkeys : ∀ x, succ x ≠ none → x ∈ keys) {bound : Nat} (hbound : weight succ keys [] ≤ bound)
    (start : String) : BfsFrom (fun x => (succ x).getD []) start (reach succ bound start) := by
  have hspent := weight_visit succ (hkeys start) (List.not_mem_nil (a := start))
  obtain ⟨out, hout, hbfs⟩ :=
    search_bfs succ hkeys (bound + 1) [start] ((succ start).getD []) [] (by omega)
  rw [reach, hout]
  exact hbfs

end Thesaurus.Closure

namespace Thesaurus

/-- The key of the object of a statement of the relation kind `r` whose object is a resource. -/
def Statement.target (r : RelationKind) (s : Statement) : Option String :=
  match s.predicate, s.object with
  | .relation r', .resource t => if r' = r then some t.key else none
  | _, _ => none

namespace Graph

/-- The targets of a key by a relation kind: the keys of the resource objects of its statements
of that kind, each once, in order of first appearance. -/
def targets (g : Graph) (r : RelationKind) (u : String) : List String :=
  ((g.statements.filter (·.subject.key == u)).filterMap (Statement.target r)).eraseDups

/-- The successors of a key in the closure under a direct and an explicit transitive relation:
for a concept, its direct targets, then its explicit transitive ones; for any other key,
none. -/
def successors (g : Graph) (direct explicit : RelationKind) (u : String) : List String :=
  if u ∈ g.concepts then g.targets direct u ++ g.targets explicit u else []

end Graph

namespace Concept

theorem relatedBy_addLabel (c : Concept) (k : LabelKind) (l : String) (r : RelationKind) :
    (c.addLabel k l).relatedBy r = c.relatedBy r := by
  cases k <;> cases r <;> rfl

theorem relatedBy_addRelated (c : Concept) (r' r : RelationKind) (t : String) :
    (c.addRelated r' t).relatedBy r = if r' = r then pushNew (c.relatedBy r) t else c.relatedBy r := by
  cases r' <;> cases r <;> rfl

theorem foldl_pushNew (l : List String) : l.foldl pushNew [] = l.eraseDups := by
  induction l using List.reverseRecOn with
  | nil => rfl
  | append_singleton l x ih =>
    rw [List.foldl_append, ih, List.foldl_cons, List.foldl_nil, List.eraseDups_append]
    by_cases hx : x ∈ l
    · have : [x].removeAll l = [] := by simp [List.removeAll, hx]
      simp [pushNew, hx, this, List.mem_eraseDups]
    · have : [x].removeAll l = [x] := by simp [List.removeAll, hx]
      simp [pushNew, hx, this, List.mem_eraseDups, List.eraseDups_cons]

end Concept

namespace Store

theorem relatedBy_absorb (f : LanguageFilter) (c : Concept) (s : Statement) (r : RelationKind) :
    (absorb f c s).relatedBy r = match s.target r with
      | some t => Concept.pushNew (c.relatedBy r) t
      | none => c.relatedBy r := by
  unfold absorb Statement.target
  obtain ⟨subject, predicate, object⟩ := s
  cases predicate with
  | label k =>
    cases object with
    | resource t => rfl
    | literal lit =>
      dsimp only
      split
      · split
        · rfl
        · exact Concept.relatedBy_addLabel _ _ _ _
      · rfl
  | relation r' =>
    cases object with
    | resource t =>
      simp only [Concept.relatedBy_addRelated]
      split <;> rfl
    | literal lit => rfl

theorem foldl_absorb_view (f : LanguageFilter) (view : Concept → List String)
    (part : Statement → Option String) (hview : ∀ c s, view (absorb f c s) = match part s with
      | some x => Concept.pushNew (view c) x
      | none => view c)
    (ss : List Statement) (c : Concept) :
    view (ss.foldl (absorb f) c) = (ss.filterMap part).foldl Concept.pushNew (view c) := by
  induction ss generalizing c with
  | nil => rfl
  | cons s ss ih =>
    rw [List.foldl_cons, ih, hview]
    cases hs : part s with
    | none => rw [List.filterMap_cons_none hs]
    | some x => rw [List.filterMap_cons_some hs, List.foldl_cons]

section Records

variable (g : Graph) (f : LanguageFilter)

theorem relatedBy_foldl_absorb (ss : List Statement) (c : Concept) (r : RelationKind) :
    (ss.foldl (absorb f) c).relatedBy r =
      (ss.filterMap (Statement.target r)).foldl Concept.pushNew (c.relatedBy r) :=
  foldl_absorb_view f (·.relatedBy r) (Statement.target r) (fun c s => relatedBy_absorb f c s r)
    ss c

@[simp] theorem relatedBy_new (u : String) (r : RelationKind) : (Concept.new u).relatedBy r = [] := by
  cases r <;> rfl

theorem records_relatedBy (i : Nat) (u : String) (hu : g.concepts[i]? = some u) (c : Concept)
    (hc : (records g f).1[i]? = some c) (r : RelationKind) : c.relatedBy r = g.targets r u := by
  rw [records_getElem?, hu, Option.map_some, Option.some.injEq] at hc
  rw [← hc, relatedBy_foldl_absorb, relatedBy_new, Concept.foldl_pushNew]
  rfl

/-- The successors the closures of the store follow are the graph's. -/
theorem successors_records (direct explicit : RelationKind) (u : String) :
    ((successors (records g f).1 (records g f).2 direct explicit u).getD [] =
        g.successors direct explicit u) ∧
      (successors (records g f).1 (records g f).2 direct explicit u ≠ none → u ∈ g.concepts) := by
  unfold successors
  rw [Std.TreeMap.get?_eq_getElem?]
  cases hi : (records g f).2[u]? with
  | none =>
    -- a key with no position is no concept
    have hnot : u ∉ g.concepts := fun hmem => by
      obtain ⟨i, hi'⟩ := List.mem_iff_getElem?.1 hmem
      rw [(records_ids g f u i).2 hi'] at hi
      cases hi
    simp [Graph.successors, hnot]
  | some i =>
    have hu := (records_ids g f u i).1 hi
    have hmem : u ∈ g.concepts := List.mem_of_getElem? hu
    have hrec := records_getElem? g f i
    rw [hu, Option.map_some] at hrec
    simp only [Option.bind_some, hrec, Option.map_some, Option.getD_some, Graph.successors, hmem,
      ↓reduceIte, ne_eq, reduceCtorEq, not_false_eq_true, forall_const, and_true]
    rw [records_relatedBy g f i u hu _ hrec, records_relatedBy g f i u hu _ hrec]

theorem weight_records (direct explicit : RelationKind) :
    Closure.weight (successors (records g f).1 (records g f).2 direct explicit) g.concepts [] =
      (records g f).1.foldl (fun n c => n + (c.relatedBy direct).length +
        (c.relatedBy explicit).length) 0 := by
  -- both sides add up, concept by concept, the lengths of its two target lists
  have hsum : ∀ (l : List Concept) (k : Nat), l.foldl (fun n c => n + (c.relatedBy direct).length +
      (c.relatedBy explicit).length) k =
      k + (l.map fun c => (c.relatedBy direct).length + (c.relatedBy explicit).length).sum := by
    intro l
    induction l with
    | nil => simp
    | cons c l ih => intro k; rw [List.foldl_cons, ih]; simp only [List.map_cons, List.sum_cons]; omega
  have hlists : (records g f).1.toList.map (fun c => (c.relatedBy direct).length +
      (c.relatedBy explicit).length) =
      g.concepts.map fun x => if x ∈ ([] : List String) then 0 else
        ((successors (records g f).1 (records g f).2 direct explicit x).getD []).length := by
    refine List.ext_getElem? fun i => ?_
    rw [List.getElem?_map, List.getElem?_map, Array.getElem?_toList]
    cases hu : g.concepts[i]? with
    | none => simp [records_getElem?, hu]
    | some u =>
      obtain ⟨c, hc⟩ : ∃ c, (records g f).1[i]? = some c := by simp [records_getElem?, hu]
      rw [hc, Option.map_some, Option.map_some, (successors_records g f direct explicit u).1,
        Graph.successors, if_pos (List.mem_of_getElem? hu), records_relatedBy g f i u hu c hc,
        records_relatedBy g f i u hu c hc]
      simp
  rw [← Array.foldl_toList, hsum, Nat.zero_add, hlists]
  rfl

/-- The closure the store computes for the concept at position `i` is breadth-first search over
the graph's successors from the concept's key. -/
theorem closures_bfs (direct explicit : RelationKind) (i : Nat) (u : String)
    (hu : g.concepts[i]? = some u) :
    Closure.BfsFrom (g.successors direct explicit) u
      ((closures (records g f).1 (records g f).2 direct explicit).getD i []) := by
  obtain ⟨c, hc⟩ : ∃ c, (records g f).1[i]? = some c := by simp [records_getElem?, hu]
  have huri : c.uri = u := by
    have h := records_getElem? g f i
    rw [hc, hu, Option.map_some, Option.some.injEq] at h
    rw [h, foldl_absorb_uri]
    rfl
  have hsucc : (fun x => (successors (records g f).1 (records g f).2 direct explicit x).getD []) =
      g.successors direct explicit := funext fun x => (successors_records g f direct explicit x).1
  have hbfs := @Closure.reach_bfs (successors (records g f).1 (records g f).2 direct explicit)
    g.concepts (fun x hx => (successors_records g f direct explicit x).2 hx)
    (2 * (records g f).1.foldl (fun n c => n + (c.relatedBy direct).length +
      (c.relatedBy explicit).length) 0) (by rw [weight_records]; omega) u
  rw [hsucc] at hbfs
  rw [Array.getD_eq_getD_getElem?, closures, Array.getElem?_map, hc, Option.map_some,
    Option.getD_some, huri]
  exact hbfs

/-- The transitive relations the store of a graph keeps for the concept at position `i` are
the closures it computes there. -/
theorem relatedOf_transitive (i : Nat) (u : String) (hu : g.concepts[i]? = some u) :
    (ofGraph g f).relatedOf u .broaderTransitive =
        (closures (records g f).1 (records g f).2 .broader .broaderTransitive).getD i [] ∧
      (ofGraph g f).relatedOf u .narrowerTransitive =
        (closures (records g f).1 (records g f).2 .narrower .narrowerTransitive).getD i [] := by
  have hid : (ofGraph g f).ids[u]? = some i := (records_ids g f u i).2 hu
  obtain ⟨c, hc⟩ : ∃ c, (records g f).1[i]? = some c := by simp [records_getElem?, hu]
  -- building the store fills in the transitive relations of each record
  have hcon : (ofGraph g f).concepts[i]? = some { c with
      broaderTransitive := (closures (records g f).1 (records g f).2 .broader
        .broaderTransitive).getD i [],
      narrowerTransitive := (closures (records g f).1 (records g f).2 .narrower
        .narrowerTransitive).getD i [] } := by
    simp only [ofGraph, Array.getElem?_map, Array.getElem?_zipIdx, hc, Option.map_some,
      Nat.zero_add]
  simp [relatedOf, concept?, hid, hcon, Concept.relatedBy]

end Records

/-- For every concept `u` of the store of a graph, its broader transitive relations are the
closure of `u` under the graph's broader and explicit broader transitive links, in the order
breadth-first search visits them; its narrower transitive relations likewise. -/
theorem transitive_closure_bfs (g : Graph) (f : LanguageFilter) (u : String)
    (hu : u ∈ g.concepts) :
    Closure.IsClosure (g.successors .broader .broaderTransitive) u
        ((ofGraph g f).relatedOf u .broaderTransitive) ∧
      Closure.IsClosure (g.successors .narrower .narrowerTransitive) u
        ((ofGraph g f).relatedOf u .narrowerTransitive) := by
  obtain ⟨i, hi⟩ := List.mem_iff_getElem?.1 hu
  obtain ⟨hbroader, hnarrower⟩ := relatedOf_transitive g f i u hi
  rw [hbroader, hnarrower]
  exact ⟨(closures_bfs g f _ _ i u hi).isClosure, (closures_bfs g f _ _ i u hi).isClosure⟩

/-- Two concepts broader than each other, the second with an explicit broader transitive link to
a key that is no concept. -/
def cycleGraph : Graph :=
  ⟨[⟨.iri "ex:1", .label .pref, .literal ⟨"a", none⟩⟩,
    ⟨.iri "ex:2", .label .pref, .literal ⟨"b", none⟩⟩,
    ⟨.iri "ex:1", .relation .broader, .resource (.iri "ex:2")⟩,
    ⟨.iri "ex:2", .relation .broader, .resource (.iri "ex:1")⟩,
    ⟨.iri "ex:2", .relation .broaderTransitive, .resource (.iri "ex:3")⟩]⟩

theorem transitive_closure_bfs_cycle :
    "ex:1" ∈ cycleGraph.concepts ∧
      (Closure.IsClosure (cycleGraph.successors .broader .broaderTransitive) "ex:1"
          ((ofGraph cycleGraph ⟨none⟩).relatedOf "ex:1" .broaderTransitive) ∧
        Closure.IsClosure (cycleGraph.successors .narrower .narrowerTransitive) "ex:1"
          ((ofGraph cycleGraph ⟨none⟩).relatedOf "ex:1" .narrowerTransitive)) :=
  ⟨by decide, transitive_closure_bfs _ _ "ex:1" (by decide)⟩

example : (ofGraph cycleGraph ⟨none⟩).relatedOf "ex:1" .broaderTransitive = ["ex:2", "ex:3"] := by
  decide +kernel

/-- A concept broader than itself. -/
def selfLoopGraph : Graph :=
  ⟨[⟨.iri "ex:1", .label .pref, .literal ⟨"a", none⟩⟩,
    ⟨.iri "ex:1", .relation .broader, .resource (.iri "ex:1")⟩]⟩

/-- A concept broader than itself reaches itself by one link, yet its closure leaves it out. -/
theorem self_loop_closure :
    "ex:1" ∈ selfLoopGraph.concepts ∧
      Relation.TransGen (fun a b => b ∈ selfLoopGraph.successors .broader .broaderTransitive a)
        "ex:1" "ex:1" ∧
      "ex:1" ∉ (ofGraph selfLoopGraph ⟨none⟩).relatedOf "ex:1" .broaderTransitive :=
  ⟨by decide, .single (by decide), by decide +kernel⟩

end Store

end Thesaurus
