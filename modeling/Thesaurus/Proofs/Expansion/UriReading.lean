import Thesaurus.Proofs.Expansion.Output
import Thesaurus.Analysis

/-!
The URI stream follows its reading. After each token the source is asked whether the token's
text is a concept; if it is, the token's expansions are those of a window of one token that
names that concept, for each expansion kind in order (`uriSegment`). The reading of a stream is
each token followed by what it gives, up to the first token whose lookups fail (`uriRead`).

A stream state is mapped to its course: its queued tokens, then, unless it has ended, the
reading of what it has not read. One call gives the first result of the course and keeps the
rest (`next_course`), so calls give the results of the reading one after the other
(`calls_course`), and draining the stream gives what the reading gives (`drain_eq_drained`).
-/

set_option autoImplicit false
set_option relaxedAutoImplicit false

namespace Thesaurus.Expansion

section Reading

variable (src : Source) (kinds : List ExpansionKind)

/-- What the source gives after the token `t` of a URI stream: nothing when its text is no
concept, else the expansions of a window of one token at `t` that names the concept `t.text`;
or the first failure among these calls. -/
def uriSegment (t : Token) : Except Error (List Token) :=
  match src.containsConcept t.text with
  | .error e => .error e
  | .ok false => .ok []
  | .ok true => expansionTokens src kinds t 1 [t.text]

/-- The reading of a URI stream: each token followed by what the source gives after it, up to
the first token whose lookups fail, which ends the reading with that token and failure. -/
def uriRead : List Token → Reading
  | [] => ⟨[], none⟩
  | t :: rest =>
    match uriSegment src kinds t with
    | .error e => ⟨[], some (t, e)⟩
    | .ok q => (uriRead rest).prepend (t :: q)

end Reading

@[simp] theorem Reading.prepend_nil (r : Reading) : r.prepend [] = r := rfl

namespace UriStream

theorem expansionsOf_eq_uriSegment (src : Source) (kinds : List ExpansionKind) (t : Token) :
    expansionsOf src kinds t = uriSegment src kinds t := by
  unfold expansionsOf uriSegment
  cases src.containsConcept t.text with
  | error e => rfl
  | ok b =>
    cases b with
    | false => rfl
    | true =>
      -- the pairs of the one concept `t.text` with each kind are the kinds themselves
      simp [expansionTokens, List.mapM_map, Function.comp_def, bind_pure_comp]
      rfl

/-- What a URI stream still has to give: its queued tokens, then, unless it has ended, the
reading of the tokens it has not read. -/
def course (src : Source) (u : UriStream) : Reading :=
  (if u.done then ⟨[], none⟩ else uriRead src u.kinds u.input).prepend u.stack

theorem course_new (src : Source) (ts : List Token) (kinds : List ExpansionKind) :
    (new ts kinds).course src = uriRead src kinds ts :=
  rfl

/-- One call gives the first result of the stream's course and leaves the rest of it. -/
theorem next_course (src : Source) (u : UriStream) :
    ((next src u).1, (next src u).2.course src) = (u.course src).pop := by
  obtain ⟨input, kinds, stack, done⟩ := u
  cases stack with
  | cons t rest => rfl
  | nil =>
    cases done with
    | true => rfl
    | false =>
      cases input with
      | nil => rfl
      | cons t rest =>
        -- the front token is read: it is given with its expansions queued, or it fails
        simp only [next, course, expansionsOf_eq_uriSegment, uriRead, Bool.false_eq_true,
          ↓reduceIte, Reading.prepend_nil]
        cases uriSegment src kinds t with
        | error e => rfl
        | ok q => rfl

/-- The results of `n` calls of a URI stream from `u`, and the state after them. -/
def calls (src : Source) : Nat → UriStream → List (Except Error (Option Token)) × UriStream
  | 0, u => ([], u)
  | n + 1, u => ((next src u).1 :: (calls src n (next src u).2).1, (calls src n (next src u).2).2)

/-- Calls give the results of the stream's course one after the other. -/
theorem calls_course (src : Source) (n : Nat) (u : UriStream) :
    (calls src n u).1 = (u.course src).results n := by
  induction n generalizing u with
  | zero => rfl
  | succ n ih =>
    have hpop := next_course src u
    simp only [calls, Reading.results, ← hpop, ih]

theorem drain_of_next_error {src : Source} {u u' : UriStream} {e : Error}
    (h : next src u = (.error e, u')) : drain src u = .error e := by
  rw [drain]
  split <;> simp_all

/-- Draining a URI stream gives what its course gives: its tokens, or its failure. -/
theorem drain_eq_drained (src : Source) (u : UriStream) : drain src u = (u.course src).drained := by
  generalize hc : u.course src = r
  obtain ⟨ts, fl⟩ := r
  -- each call takes the first result off the course; induction on the tokens left
  induction ts generalizing u with
  | nil =>
    have hpop := next_course src u
    rw [hc] at hpop
    have hfirst := congrArg Prod.fst hpop
    rcases fl with _ | ⟨h, e⟩
    · have hnext : next src u = (.ok none, (next src u).2) := Prod.ext_iff.2 ⟨hfirst, rfl⟩
      exact drain_of_next_end hnext
    · have hnext : next src u = (.error (Window.lookupError h e), (next src u).2) :=
        Prod.ext_iff.2 ⟨hfirst, rfl⟩
      exact drain_of_next_error hnext
  | cons t ts ih =>
    have hpop := next_course src u
    rw [hc] at hpop
    have hfirst := congrArg Prod.fst hpop
    have hnext : next src u = (.ok (some t), (next src u).2) := Prod.ext_iff.2 ⟨hfirst, rfl⟩
    rw [drain_of_next_token hnext, ih _ (congrArg Prod.snd hpop)]
    rcases fl with _ | ⟨h, e⟩ <;> rfl

end UriStream

/-- A URI stream gives, one result per call, each input token unchanged, followed, when the
source says the token's text is a concept, by its expansion texts for each kind in order as
tokens at the token spanning one position; this up to the first token one of whose lookups
fails. That token and whatever its lookups gave are never given: the failure is, once, naming
the token and its position, and every later call gives the end of the stream, as every call
after the last token does. Filtering a token list through the stream gives all these tokens, or
that failure. -/
theorem uri_calls_eq_read (src : Source) (ts : List Token) (kinds : List ExpansionKind)
    (n : Nat) :
    (UriStream.calls src n (UriStream.new ts kinds)).1 =
        ((uriRead src kinds ts).transcript n).take n ∧
      Filter.apply (.uri src kinds) ts = (uriRead src kinds ts).drained ∧
      ∀ (h : Token) (e : Error), Window.lookupError h e = .lookupFailed h.text h.position e ∧
        (Window.lookupError h e).message = "Analysis error: concept lookup failed for token '" ++
          h.text ++ "' at position " ++ toString h.position ++ ": " ++ e.message := by
  refine ⟨?_, ?_, fun h e => ⟨rfl, rfl⟩⟩
  · rw [UriStream.calls_course, UriStream.course_new, Reading.results_eq]
  · rw [Filter.apply, UriStream.drain_eq_drained, UriStream.course_new]

end Thesaurus.Expansion
