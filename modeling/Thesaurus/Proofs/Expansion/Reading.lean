import Thesaurus.Expansion.Window

/-!
The greedy reading of a token stream, the specification of the label-window automaton.

The reading cuts the stream into segments from the front. At the front token the windows of
`min size n`, …, 2, 1 tokens are looked up in that order, and the first lookup that fails or
names some concept decides the segment. A failure stops the reading there. Concepts make the
segment the front token, then the expansions of the concepts (for each concept in order and
each expansion kind in order, its expansion texts in order), then the other tokens of the
window. No concept makes the segment the front token alone.

For a source that never fails, the reading is `greedy`, written with plain lookup functions.
The lemmas at the end tie the automaton's own window search and expansion to the reading.
-/

set_option autoImplicit false
set_option relaxedAutoImplicit false

namespace Thesaurus.Expansion

open Window (windowText)

/-- The window lengths `n`, `n - 1`, …, 1, longest first. -/
def windowLengths (n : Nat) : List Nat :=
  (List.range' 1 n).reverse

/-- Whether a label lookup ends the window search: it fails, or it names some concept. -/
def decides : Except Error (List String) → Bool
  | .ok [] => false
  | _ => true

section Reading

variable (src : Source) (kinds : List ExpansionKind) (mk : List LabelKind) (size : Nat)

/-- The label lookups of the windows at the front of `ts`, for the given window lengths. -/
def lookups (ts : List Token) (lengths : List Nat) : List (Nat × Except Error (List String)) :=
  lengths.map fun j => (j, src.conceptsForLabel (windowText ts j) mk)

/-- The window search at the front of `ts` over windows of `n`, …, 1 tokens: the first lookup
that fails gives its failure, the first that names concepts gives its length and concepts. -/
def windowSearch (ts : List Token) (n : Nat) : Except Error (Option (Nat × List String)) :=
  match (lookups src mk ts (windowLengths n)).find? (decides ·.2) with
  | none => .ok none
  | some (_, .error e) => .error e
  | some (j, .ok cs) => .ok (some (j, cs))

/-- The expansion tokens of a window of `j` tokens at `head` that names `concepts`: for each
concept in order and each kind in order, the expansion texts as tokens at `head`. The calls
are made in that order and the first that fails fails them all. -/
def expansionTokens (head : Token) (j : Nat) (concepts : List String) :
    Except Error (List Token) :=
  List.flatten <$> (concepts.flatMap fun c => kinds.map (c, ·)).mapM fun (c, k) =>
    (fun texts => texts.map (head.expansion · k j)) <$> src.expansions c k

/-- The first segment of the stream `t :: rest`: what it gives and the tokens after it, or the
failure of one of its calls. -/
def segment (t : Token) (rest : List Token) : Except Error (List Token × List Token) :=
  match windowSearch src mk (t :: rest) (min size (rest.length + 1)) with
  | .error e => .error e
  | .ok none => .ok ([t], rest)
  | .ok (some (j, cs)) =>
    match expansionTokens src kinds t j cs with
    | .error e => .error e
    | .ok q => .ok (t :: q ++ rest.take (j - 1), rest.drop (j - 1))

end Reading

/-- What a stream gives: tokens, then possibly the failure of a segment, with the segment's
front token. -/
structure Reading where
  tokens : List Token
  failure : Option (Token × Error)

/-- A reading with more tokens in front. -/
def Reading.prepend (out : List Token) (r : Reading) : Reading :=
  ⟨out ++ r.tokens, r.failure⟩

theorem segment_rest_length {src : Source} {kinds : List ExpansionKind} {mk : List LabelKind}
    {size : Nat} {t : Token} {rest out more : List Token}
    (h : segment src kinds mk size t rest = .ok (out, more)) : more.length ≤ rest.length := by
  unfold segment at h
  split at h
  · cases h
  · cases h
    exact Nat.le_refl _
  · split at h
    · cases h
    · cases h
      rw [List.length_drop]
      omega

/-- The greedy reading of a stream, segment after segment, up to the first failure. -/
def read (src : Source) (kinds : List ExpansionKind) (mk : List LabelKind) (size : Nat) :
    List Token → Reading
  | [] => ⟨[], none⟩
  | t :: rest =>
    match h : segment src kinds mk size t rest with
    | .error e => ⟨[], some (t, e)⟩
    | .ok (out, more) => (read src kinds mk size more).prepend out
termination_by ts => ts.length
decreasing_by
  have := segment_rest_length h
  simp only [List.length_cons]
  omega

/-- The greedy reading for lookups that never fail, written with plain functions: `lbl` gives
the concepts a text labels, `exp` the expansion texts of a concept for a kind. -/
def greedy (lbl : String → List LabelKind → List String)
    (exp : String → ExpansionKind → List String) (kinds : List ExpansionKind)
    (mk : List LabelKind) (size : Nat) : List Token → List Token
  | [] => []
  | t :: rest =>
    match (windowLengths (min size (rest.length + 1))).find?
        (fun j => !(lbl (windowText (t :: rest) j) mk).isEmpty) with
    | none => t :: greedy lbl exp kinds mk size rest
    | some k =>
      t :: ((lbl (windowText (t :: rest) k) mk).flatMap fun c =>
          kinds.flatMap fun kind => (exp c kind).map (t.expansion · kind k)) ++
        rest.take (k - 1) ++ greedy lbl exp kinds mk size (rest.drop (k - 1))
termination_by ts => ts.length
decreasing_by
  · simp only [List.length_cons]
    omega
  · simp only [List.length_cons, List.length_drop]
    omega

section Lemmas

variable {src : Source} {kinds : List ExpansionKind} {mk : List LabelKind} {size : Nat}

theorem windowLengths_succ (n : Nat) : windowLengths (n + 1) = (n + 1) :: windowLengths n := by
  rw [windowLengths, List.range'_1_concat, List.reverse_append, Nat.add_comm]
  rfl

theorem mem_windowLengths {j n : Nat} : j ∈ windowLengths n ↔ 1 ≤ j ∧ j ≤ n := by
  simp only [windowLengths, List.mem_reverse, List.mem_range'_1]
  omega

theorem windowText_append {buffer more : List Token} {j : Nat} (h : j ≤ buffer.length) :
    windowText (buffer ++ more) j = windowText buffer j := by
  simp only [windowText, List.take_append_of_le_length h]

theorem windowSearch_succ (ts : List Token) (n : Nat) :
    windowSearch src mk ts (n + 1) =
      match src.conceptsForLabel (windowText ts (n + 1)) mk with
      | .error e => .error e
      | .ok [] => windowSearch src mk ts n
      | .ok cs => .ok (some (n + 1, cs)) := by
  rw [windowSearch, lookups, windowLengths_succ, List.map_cons, List.find?_cons]
  cases hr : src.conceptsForLabel (windowText ts (n + 1)) mk with
  | error e => rfl
  | ok cs =>
    cases cs with
    | nil => rfl
    | cons c cs => rfl

theorem longestMatch_eq_windowSearch (buffer : List Token) (n : Nat) :
    Window.longestMatch src mk buffer n = windowSearch src mk buffer n := by
  induction n with
  | zero => rfl
  | succ n ih =>
    -- both searches look up the longest window first and agree on each answer
    cases hr : src.conceptsForLabel (windowText buffer (n + 1)) mk with
    | error e => simp only [Window.longestMatch, windowSearch_succ, hr]
    | ok cs => cases cs <;> simp only [Window.longestMatch, windowSearch_succ, ih, hr]

theorem windowSearch_append (buffer more : List Token) {n : Nat}
    (h : n ≤ buffer.length) :
    windowSearch src mk (buffer ++ more) n = windowSearch src mk buffer n := by
  have same : lookups src mk (buffer ++ more) (windowLengths n) =
      lookups src mk buffer (windowLengths n) := by
    apply List.map_congr_left
    intro j hj
    rw [windowText_append (by have := mem_windowLengths.1 hj; omega)]
  rw [windowSearch, windowSearch, same]

theorem windowSearch_found {ts : List Token} {n j : Nat} {cs : List String}
    (h : windowSearch src mk ts n = .ok (some (j, cs))) :
    1 ≤ j ∧ j ≤ n ∧ src.conceptsForLabel (windowText ts j) mk = .ok cs := by
  unfold windowSearch at h
  split at h
  · cases h
  · cases h
  · rename_i found
    cases h
    have hmem := List.mem_of_find?_eq_some found
    simp only [lookups, List.mem_map, Prod.mk.injEq] at hmem
    obtain ⟨i, hi, rfl, hr⟩ := hmem
    exact ⟨(mem_windowLengths.1 hi).1, (mem_windowLengths.1 hi).2, hr⟩

theorem expansionsOf_eq_expansionTokens (head : Token) (j : Nat) (cs : List String) :
    Window.expansionsOf src kinds head j cs = expansionTokens src kinds head j cs := by
  induction cs with
  | nil => rfl
  | cons c cs ih =>
    rw [Window.expansionsOf, ih]
    simp [expansionTokens, List.flatMap_cons, List.mapM_append, Function.comp_def]

theorem read_of_segment_error {t : Token} {rest : List Token} {e : Error}
    (h : segment src kinds mk size t rest = .error e) :
    read src kinds mk size (t :: rest) = ⟨[], some (t, e)⟩ := by
  rw [read]
  split <;> simp_all

theorem read_of_segment_ok {t : Token} {rest out more : List Token}
    (h : segment src kinds mk size t rest = .ok (out, more)) :
    read src kinds mk size (t :: rest) = (read src kinds mk size more).prepend out := by
  rw [read]
  split <;> simp_all

end Lemmas

section Total

/-! A source that never fails: its lookups are the functions `lbl` and `exp`. -/

variable {src : Source} {kinds : List ExpansionKind} {mk : List LabelKind} {size : Nat}
  {lbl : String → List LabelKind → List String} {exp : String → ExpansionKind → List String}

theorem windowSearch_of_total (hl : ∀ text ks, src.conceptsForLabel text ks = .ok (lbl text ks))
    (ts : List Token) (n : Nat) :
    windowSearch src mk ts n =
      .ok (((windowLengths n).find? fun j => !(lbl (windowText ts j) mk).isEmpty).map
        fun j => (j, lbl (windowText ts j) mk)) := by
  induction n with
  | zero => rfl
  | succ n ih =>
    rw [windowSearch_succ, hl, windowLengths_succ, List.find?_cons]
    cases hc : lbl (windowText ts (n + 1)) mk with
    | nil => simpa [hc] using ih
    | cons c cs => simp [hc]

theorem expansionTokens_of_total (he : ∀ uri k, src.expansions uri k = .ok (exp uri k))
    (head : Token) (j : Nat) (cs : List String) :
    expansionTokens src kinds head j cs =
      .ok (cs.flatMap fun c => kinds.flatMap fun k => (exp c k).map (head.expansion · k j)) := by
  have calls : ∀ c k, (fun texts => texts.map (head.expansion · k j)) <$> src.expansions c k =
      pure ((exp c k).map (head.expansion · k j)) := by
    intro c k
    rw [he]
    rfl
  simp only [expansionTokens, calls, List.mapM_pure]
  simp [List.flatMap, List.map_flatten, List.flatten_flatten, Function.comp_def]
  rfl

/-- With a source that never fails, the reading gives the greedy tokens and no failure. -/
theorem read_of_total (hl : ∀ text ks, src.conceptsForLabel text ks = .ok (lbl text ks))
    (he : ∀ uri k, src.expansions uri k = .ok (exp uri k)) (ts : List Token) :
    read src kinds mk size ts = ⟨greedy lbl exp kinds mk size ts, none⟩ := by
  fun_induction greedy lbl exp kinds mk size ts with
  | case1 => rw [read]
  | case2 t rest unmatched ih =>
    have hseg : segment src kinds mk size t rest = .ok ([t], rest) := by
      rw [segment, windowSearch_of_total hl, unmatched]
      rfl
    rw [read_of_segment_ok hseg, ih]
    rfl
  | case3 t rest k matched ih =>
    have hseg : segment src kinds mk size t rest =
        .ok (t :: ((lbl (windowText (t :: rest) k) mk).flatMap fun c =>
          kinds.flatMap fun kind => (exp c kind).map (t.expansion · kind k)) ++ rest.take (k - 1),
          rest.drop (k - 1)) := by
      rw [segment, windowSearch_of_total hl, matched]
      simp only [Option.map_some]
      rw [expansionTokens_of_total he]
    rw [read_of_segment_ok hseg, ih]
    rfl

end Total

end Thesaurus.Expansion
