import Thesaurus.Token
import Thesaurus.Store.Source

/-!
The URI automaton. It emits each token of a stream, followed, when the token's text is the URI
of a concept, by the concept's expansion texts for each expansion kind in order, as tokens at
the token's place spanning one position. A failure of the concept source is reported once,
with the token being expanded, and ends the stream.
-/

namespace Thesaurus.Expansion

/-- The state of the URI automaton. -/
structure UriStream where
  input : List Token
  kinds : List ExpansionKind
  stack : List Token
  done : Bool
deriving Inhabited

namespace UriStream

/-- The automaton at the start of a stream. -/
def new (input : List Token) (kinds : List ExpansionKind) : UriStream :=
  ⟨input, kinds, [], false⟩

/-- The number of queued tokens. -/
def pending (u : UriStream) : Nat := u.stack.length

/-- The expansion tokens of a token whose text may be a concept's URI. -/
def expansionsOf (src : Source) (kinds : List ExpansionKind) (t : Token) :
    Except Error (List Token) := do
  if !(← src.containsConcept t.text) then return []
  let groups ← kinds.mapM fun k => do
    let texts ← src.expansions t.text k
    pure (texts.map fun x => t.expansion x k 1)
  pure groups.flatten

/-- The next token of the stream: a token, the end of the stream, or a failure. -/
def next (src : Source) (u : UriStream) : Except Error (Option Token) × UriStream :=
  match u.stack with
  | t :: rest => (.ok (some t), { u with stack := rest })
  | [] =>
    if u.done then (.ok none, u)
    else
      match u.input with
      | [] => (.ok none, { u with done := true })
      | t :: rest =>
        match expansionsOf src u.kinds t with
        | .ok queued => (.ok (some t), { u with input := rest, stack := queued })
        | .error e =>
          (.error (.lookupFailed t.text t.position e), { u with input := rest, stack := [], done := true })

/-- What is left to emit: the tokens unread, then the tokens queued. -/
def left (u : UriStream) : Nat × Nat := (u.input.length, u.stack.length)

theorem next_left {src : Source} {u u' : UriStream} {t : Token}
    (h : next src u = (.ok (some t), u')) : Prod.Lex (· < ·) (· < ·) (left u') (left u) := by
  unfold next at h
  split at h
  · rename_i x rest hs
    cases h
    simp only [left, hs, List.length_cons]
    exact Prod.Lex.right _ (Nat.lt_succ_self _)
  · split at h
    · simp at h
    · split at h
      · simp at h
      · rename_i x rest hi
        split at h
        · cases h
          simp only [left, hi, List.length_cons]
          exact Prod.Lex.left _ _ (Nat.lt_succ_self _)
        · simp at h

/-- Every token of the stream, or the first failure. -/
def drain (src : Source) (u : UriStream) : Except Error (List Token) :=
  match h : next src u with
  | (.error e, _) => .error e
  | (.ok none, _) => .ok []
  | (.ok (some t), u') => (drain src u').map (t :: ·)
termination_by left u
decreasing_by exact next_left h

end UriStream

end Thesaurus.Expansion
