import Thesaurus.Token
import Thesaurus.Store.Source

/-!
The label-window automaton. It reads a token stream and emits it again, each token followed
by the expansions of the concepts that the longest window starting at it labels. A window is
up to `size` tokens, their texts joined by single spaces; the windows starting at a token are
tried from the longest to the shortest, and the first that labels some concept matches. The
expansions of a match are, for each matched concept in order and each expansion kind in
order, the concept's expansion texts as tokens at the first token's place; the other tokens of
the window follow them and are not matched again.

Between two calls of `next` the automaton rests in one of two phases: `drainingStack`, with
tokens queued, or `exhausted`. A failure of the concept source aborts the stream: it is
reported once, with the token whose windows were being matched, and the stream then ends.
-/

namespace Thesaurus.Expansion

/-- The phases of the automaton. -/
inductive Phase where
  | drainingStack
  | fillingBuffer
  | matching
  | passingThrough
  | exhausted
deriving DecidableEq, Repr, Inhabited

/-- The name of a phase. -/
def Phase.name : Phase → String
  | .drainingStack => "DrainingStack"
  | .fillingBuffer => "FillingBuffer"
  | .matching => "Matching"
  | .passingThrough => "PassingThrough"
  | .exhausted => "Exhausted"

/-- The state of the label-window automaton. -/
structure Window where
  input : List Token
  kinds : List ExpansionKind
  matchKinds : List LabelKind
  size : Nat
  buffer : List Token
  stack : List Token
  phase : Phase
deriving Inhabited

namespace Window

/-- The automaton at the start of a stream: windows of one token, every label kind matched. -/
def new (input : List Token) (kinds : List ExpansionKind) : Window :=
  ⟨input, kinds, LabelKind.all, 1, [], [], .drainingStack⟩

/-- The automaton with another window size, at least one. -/
def withSize (w : Window) (n : Nat) : Window := { w with size := max n 1 }

/-- The automaton with other label kinds to match. -/
def withMatchKinds (w : Window) (ks : List LabelKind) : Window := { w with matchKinds := ks }

/-- The number of queued tokens. -/
def pending (w : Window) : Nat := w.stack.length

/-- The number of tokens read and not yet emitted. -/
def buffered (w : Window) : Nat := w.buffer.length

/-- The text of the window of the first `n` buffered tokens: their texts joined by spaces. -/
def windowText (buffer : List Token) (n : Nat) : String :=
  " ".intercalate ((buffer.take n).map (·.text))

/-- The buffer filled from the input up to `size` tokens, and the input left. -/
def fill (size : Nat) (buffer input : List Token) : List Token × List Token :=
  let k := size - buffer.length
  (buffer ++ input.take k, input.drop k)

/-- The failure of a lookup for the windows at `head`. -/
def lookupError (head : Token) (e : Error) : Error :=
  .lookupFailed head.text head.position e

/-- The longest window among the first `n`, `n - 1`, …, 1 buffered tokens that labels some
concept, with those concepts. -/
def longestMatch (src : Source) (kinds : List LabelKind) (buffer : List Token) :
    Nat → Except Error (Option (Nat × List String))
  | 0 => .ok none
  | n + 1 =>
    match src.conceptsForLabel (windowText buffer (n + 1)) kinds with
    | .error e => .error e
    | .ok [] => longestMatch src kinds buffer n
    | .ok concepts => .ok (some (n + 1, concepts))

/-- The expansion tokens of the concepts matched by a window of `n` tokens at `head`: for each
concept and each kind, the concept's expansion texts. -/
def expansionsOf (src : Source) (kinds : List ExpansionKind) (head : Token) (n : Nat) :
    List String → Except Error (List Token)
  | [] => .ok []
  | uri :: rest => do
    let here ← kinds.mapM fun k => do
      let texts ← src.expansions uri k
      pure (texts.map fun t => head.expansion t k n)
    let later ← expansionsOf src kinds head n rest
    pure (here.flatten ++ later)

/-- The result of one transition: a token (or the end, or a failure) to emit, or a next
phase to go on from. -/
inductive Move where
  | emit (r : Except Error (Option Token)) (w : Window)
  | goOn (w : Window)

/-- The automaton stopped by a failure: no buffered or queued token is left. -/
def abort (w : Window) (e : Error) : Move :=
  .emit (.error e) { w with phase := .exhausted, buffer := [], stack := [] }

/-- One transition of the automaton. -/
def move (src : Source) (w : Window) : Move :=
  match w.phase with
  | .drainingStack =>
    match w.stack with
    | t :: rest => .emit (.ok (some t)) { w with stack := rest }
    | [] => .goOn { w with phase := .fillingBuffer }
  | .fillingBuffer =>
    let filled := fill w.size w.buffer w.input
    let phase := if filled.1.isEmpty then Phase.exhausted else Phase.matching
    .goOn { w with buffer := filled.1, input := filled.2, phase := phase }
  | .matching =>
    match w.buffer with
    | [] => .goOn { w with phase := .passingThrough }
    | head :: rest =>
      match longestMatch src w.matchKinds w.buffer w.buffer.length with
      | .error e => abort w (lookupError head e)
      | .ok none => .goOn { w with phase := .passingThrough }
      | .ok (some (n, concepts)) =>
        match expansionsOf src w.kinds head n concepts with
        | .error e => abort w (lookupError head e)
        | .ok queued =>
          let stack := w.stack ++ queued ++ rest.take (n - 1)
          .emit (.ok (some head)) { w with buffer := rest.drop (n - 1), stack := stack, phase := .drainingStack }
  | .passingThrough =>
    match w.buffer with
    | t :: rest => .emit (.ok (some t)) { w with buffer := rest, phase := .drainingStack }
    | [] => .goOn { w with phase := .fillingBuffer }
  | .exhausted => .emit (.ok none) w

/-- Runs transitions until one emits; five always suffice. -/
def run (src : Source) : Nat → Window → Except Error (Option Token) × Window
  | 0, w => (.ok none, w)
  | fuel + 1, w =>
    match move src w with
    | .emit r w' => (r, w')
    | .goOn w' => run src fuel w'

/-- The next token of the stream: a token, the end of the stream, or a failure. -/
def next (src : Source) (w : Window) : Except Error (Option Token) × Window :=
  run src 5 w

/-- What is left to emit: the tokens unread or buffered, then the tokens queued. Every
emitted token lowers it in lexicographic order. -/
def left (w : Window) : Nat × Nat :=
  (w.input.length + w.buffer.length, w.stack.length)

theorem fill_length (size : Nat) (buffer input : List Token) :
    (fill size buffer input).1.length + (fill size buffer input).2.length =
      buffer.length + input.length := by
  simp only [fill, List.length_append, List.length_take, List.length_drop]
  omega

theorem move_goOn_left {src : Source} {w w' : Window} (h : move src w = .goOn w') :
    left w' = left w := by
  unfold move at h
  split at h
  · split at h
    · simp at h
    · cases h; rfl
  · cases h
    have := fill_length w.size w.buffer w.input
    simp only [left, Prod.mk.injEq]
    exact ⟨by omega, trivial⟩
  · split at h
    · cases h; rfl
    · split at h
      · simp [abort] at h
      · cases h; rfl
      · split at h
        · simp [abort] at h
        · simp at h
  · split at h
    · simp at h
    · cases h; rfl
  · simp at h

theorem move_emit_left {src : Source} {w w' : Window} {t : Token}
    (h : move src w = .emit (.ok (some t)) w') : Prod.Lex (· < ·) (· < ·) (left w') (left w) := by
  unfold move at h
  split at h
  · split at h
    · cases h
      rename_i hs
      simp only [left, hs, List.length_cons]
      exact Prod.Lex.right _ (Nat.lt_succ_self _)
    · simp at h
  · simp at h
  · split at h
    · simp at h
    · rename_i head rest hb
      split at h
      · simp [abort] at h
      · simp at h
      · split at h
        · simp [abort] at h
        · cases h
          simp only [left, hb, List.length_cons, List.length_drop]
          apply Prod.Lex.left
          omega
  · split at h
    · cases h
      rename_i hb
      simp only [left, hb, List.length_cons]
      apply Prod.Lex.left
      omega
    · simp at h
  · simp at h

theorem run_left {src : Source} {fuel : Nat} {w w' : Window} {t : Token}
    (h : run src fuel w = (.ok (some t), w')) : Prod.Lex (· < ·) (· < ·) (left w') (left w) := by
  induction fuel generalizing w with
  | zero => simp [run] at h
  | succ fuel ih =>
    unfold run at h
    split at h
    · rename_i r w₁ hm
      cases h
      exact move_emit_left hm
    · rename_i w₁ hm
      rw [← move_goOn_left hm]
      exact ih h

/-- Every token of the stream, or the first failure. -/
def drain (src : Source) (w : Window) : Except Error (List Token) :=
  match h : next src w with
  | (.error e, _) => .error e
  | (.ok none, _) => .ok []
  | (.ok (some t), w') => (drain src w').map (t :: ·)
termination_by left w
decreasing_by exact run_left h

end Window

end Thesaurus.Expansion
