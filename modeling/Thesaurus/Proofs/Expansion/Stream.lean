import Thesaurus.Proofs.Expansion.Reading

/-!
The label-window automaton follows its greedy reading.

Every state of the automaton is mapped to its course: the reading of what it still has to give,
that is its queued tokens and then the greedy reading of what it has buffered and not yet read.
One transition either goes on to a state of the same course, or emits the first result of the
course and keeps the rest (`move_advances`). A call of `next` is a few such transitions, fewer
than its fuel, so it gives the first result of the course (`next_advances`), and a run of calls
gives the results of the reading of the whole input one after the other (`calls_advance`).
-/

set_option autoImplicit false
set_option relaxedAutoImplicit false

namespace Thesaurus.Expansion

open Window

namespace Reading

/-- The first result a reading gives and the reading after it: its tokens one by one, then its
failure once, then the end of the stream again and again. -/
def pop : Reading → Except Error (Option Token) × Reading
  | ⟨t :: ts, f⟩ => (.ok (some t), ⟨ts, f⟩)
  | ⟨[], some (h, e)⟩ => (.error (lookupError h e), ⟨[], none⟩)
  | ⟨[], none⟩ => (.ok none, ⟨[], none⟩)

/-- The first `n` results of a reading. -/
def results : Nat → Reading → List (Except Error (Option Token))
  | 0, _ => []
  | n + 1, r => r.pop.1 :: results n r.pop.2

/-- The reading left after `n` results. -/
def after : Nat → Reading → Reading
  | 0, r => r
  | n + 1, r => after n r.pop.2

/-- The results of a reading written out: its tokens, its failure, then the end. -/
def transcript (r : Reading) (n : Nat) : List (Except Error (Option Token)) :=
  r.tokens.map (.ok ∘ some) ++ (r.failure.map fun (h, e) => .error (lookupError h e)).toList ++
    List.replicate n (.ok none)

@[simp] theorem prepend_prepend (xs ys : List Token) (r : Reading) :
    (r.prepend ys).prepend xs = r.prepend (xs ++ ys) := by
  simp only [prepend, List.append_assoc]

private theorem results_eq_take (r : Reading) (n m : Nat) (h : n ≤ m) :
    r.results n = (r.transcript m).take n := by
  induction n generalizing r m with
  | zero => rfl
  | succ n ih =>
    obtain ⟨ts, f⟩ := r
    cases ts with
    | cons t ts =>
      simp only [results, pop, transcript, List.map_cons, List.cons_append, List.take_succ_cons]
      rw [ih _ m (by omega)]
      rfl
    | nil =>
      obtain ⟨m, rfl⟩ : ∃ k, m = k + 1 := ⟨m - 1, by omega⟩
      rcases f with _ | ⟨h, e⟩
      · simp only [results, pop, transcript, List.map_nil, Option.map_none, Option.toList_none,
          List.append_nil, List.nil_append, List.replicate_succ, List.take_succ_cons]
        rw [ih _ m (by omega)]
        rfl
      · simp only [results, pop, transcript, List.map_nil, Option.map_some, Option.toList_some,
          List.nil_append, List.cons_append, List.take_succ_cons]
        rw [ih _ (m + 1) (by omega)]
        rfl

theorem results_eq (r : Reading) (n : Nat) : r.results n = (r.transcript n).take n :=
  results_eq_take r n n (Nat.le_refl n)

end Reading

/-- The tokens among results. -/
def tokensOf (rs : List (Except Error (Option Token))) : List Token :=
  rs.filterMap fun
    | .ok t => t
    | .error _ => none

@[simp] theorem tokensOf_token (t : Token) (rs : List (Except Error (Option Token))) :
    tokensOf (.ok (some t) :: rs) = t :: tokensOf rs := rfl

@[simp] theorem tokensOf_end (rs : List (Except Error (Option Token))) :
    tokensOf (.ok none :: rs) = tokensOf rs := rfl

namespace Reading

theorem prepend_after (r : Reading) (n : Nat) (h : ∀ e, .error e ∉ r.results n) :
    (r.after n).prepend (tokensOf (r.results n)) = r := by
  induction n generalizing r with
  | zero => rfl
  | succ n ih =>
    obtain ⟨ts, f⟩ := r
    rcases ts with _ | ⟨t, ts⟩
    · rcases f with _ | ⟨h', e⟩
      · simp only [results, after, pop, tokensOf_end] at h ⊢
        exact ih _ fun e he => h e (List.mem_cons_of_mem _ he)
      · exact absurd List.mem_cons_self (h (lookupError h' e))
    · simp only [results, after, pop, tokensOf_token] at h ⊢
      have rest := ih _ fun e he => h e (List.mem_cons_of_mem _ he)
      rw [← List.singleton_append, ← prepend_prepend, rest]
      rfl

end Reading

/-- How many transitions a call may still go on through from a phase before it emits. -/
def Phase.rank : Phase → Nat
  | .drainingStack => 3
  | .fillingBuffer => 2
  | .matching => 1
  | .passingThrough => 0
  | .exhausted => 0

theorem Phase.rank_lt_four (p : Phase) : p.rank < 4 := by
  cases p <;> decide

/-- The state a transition leads to. -/
def Window.Move.state : Move → Window
  | .emit _ w => w
  | .goOn w => w

namespace Window

/-- The course of the automaton: what it still has to give. That is its queued tokens, then
the reading of its buffer and its input; while it passes a token through, that token comes
after the queue and the reading starts after it; an ended stream gives nothing more. -/
def course (src : Source) (w : Window) : Reading :=
  let reading := read src w.kinds w.matchKinds w.size
  match w.phase with
  | .exhausted => ⟨[], none⟩
  | .passingThrough => (reading (w.buffer.drop 1 ++ w.input)).prepend (w.stack ++ w.buffer.take 1)
  | _ => (reading (w.buffer ++ w.input)).prepend w.stack

/-- What holds of every state the automaton passes through: windows of at least one token, a
buffer no longer than a window, nothing held once the stream has ended, an empty queue while
the buffer is filled and matched, a token to match or pass, and a full buffer while matching
unless the input has run out. -/
structure Moving (w : Window) : Prop where
  size_pos : 0 < w.size
  buffer_le : w.buffer.length ≤ w.size
  exhausted : w.phase = .exhausted → w.buffer = [] ∧ w.stack = []
  filling : w.phase = .fillingBuffer → w.stack = []
  active : w.phase = .matching ∨ w.phase = .passingThrough → w.buffer ≠ [] ∧ w.stack = []
  full : w.phase = .matching → w.input = [] ∨ w.buffer.length = w.size

/-- What holds between two calls: a moving state that drains its queue or has ended. -/
structure Rests (w : Window) : Prop extends w.Moving where
  resting : w.phase = .drainingStack ∨ w.phase = .exhausted

/-- A stream that has ended without a failure has read all its input. -/
def Clean (w : Window) : Prop :=
  w.phase = .exhausted → w.input = []

/-- What one transition from a moving state does. Going on, it reaches a moving state of lower
rank with the same course; emitting, it gives the first result of the course and rests with
the rest. A stream that has not failed stays clean. -/
def Advances (src : Source) (w : Window) : Move → Prop
  | .goOn w' => w'.Moving ∧ w'.phase.rank < w.phase.rank ∧ w'.course src = w.course src ∧
      (w.Clean → w'.Clean)
  | .emit r w' => w'.Rests ∧ (r, w'.course src) = (w.course src).pop ∧
      (w.Clean → (∀ e, r ≠ .error e) → w'.Clean)

theorem fill_eq {size : Nat} {buffer : List Token} (input : List Token)
    (h : buffer.length ≤ size) :
    fill size buffer input = ((buffer ++ input).take size, (buffer ++ input).drop size) := by
  simp only [fill, List.take_append, List.drop_append, List.take_of_length_le h,
    List.drop_eq_nil_of_le h, List.nil_append]

@[simp] theorem pop_prepend_cons (r : Reading) (t : Token) (s : List Token) :
    (r.prepend (t :: s)).pop = (.ok (some t), r.prepend s) := rfl

section Steps

variable {src : Source} {w : Window}

theorem course_of_exhausted (src : Source) (hp : w.phase = .exhausted) :
    w.course src = ⟨[], none⟩ := by
  simp only [course, hp]

theorem course_of_passing (src : Source) (hp : w.phase = .passingThrough) :
    w.course src = (read src w.kinds w.matchKinds w.size (w.buffer.drop 1 ++ w.input)).prepend
      (w.stack ++ w.buffer.take 1) := by
  simp only [course, hp]

theorem course_of_reading (src : Source) (hp : w.phase = .drainingStack ∨ w.phase = .fillingBuffer ∨
    w.phase = .matching) :
    w.course src =
      (read src w.kinds w.matchKinds w.size (w.buffer ++ w.input)).prepend w.stack := by
  rcases hp with hp | hp | hp <;> simp only [course, hp]

theorem advances_abort {t : Token} {e : Error} (h : w.Moving)
    (hc : w.course src = ⟨[], some (t, e)⟩) : Advances src w (abort w (lookupError t e)) := by
  refine ⟨⟨⟨h.size_pos, by simp, by simp, by simp, by simp, by simp⟩, by simp⟩, ?_, ?_⟩
  · rw [hc, course_of_exhausted _ rfl]
    rfl
  · intro _ hr
    exact absurd rfl (hr _)

theorem advances_draining (h : w.Moving) (hp : w.phase = .drainingStack) :
    Advances src w (move src w) := by
  have hc := course_of_reading src (.inl hp)
  cases hs : w.stack with
  | cons t s =>
    have hm : move src w = .emit (.ok (some t)) { w with stack := s } := by
      simp only [move, hp, hs]
    rw [hm]
    refine ⟨⟨⟨h.size_pos, h.buffer_le, by simp [hp], by simp [hp], by simp [hp], by simp [hp]⟩,
      .inl hp⟩, ?_, fun _ _ => by simp [Clean, hp]⟩
    rw [hc, hs, pop_prepend_cons, course_of_reading src (w := { w with stack := s }) (.inl hp)]
  | nil =>
    have hm : move src w = .goOn { w with phase := .fillingBuffer } := by
      simp only [move, hp, hs]
    rw [hm]
    refine ⟨⟨h.size_pos, h.buffer_le, by simp, fun _ => hs, by simp, by simp⟩, by simp [hp,
      Phase.rank], ?_, fun _ => by simp [Clean]⟩
    rw [course_of_reading _ (.inr (.inl rfl)), hc]

theorem advances_filling (h : w.Moving) (hp : w.phase = .fillingBuffer) :
    Advances src w (move src w) := by
  have hs := h.filling hp
  have hc := course_of_reading src (.inr (.inl hp))
  have hm : move src w = .goOn { w with
      buffer := (w.buffer ++ w.input).take w.size
      input := (w.buffer ++ w.input).drop w.size
      phase := if ((w.buffer ++ w.input).take w.size).isEmpty then .exhausted else .matching } := by
    simp only [move, hp, fill_eq w.input h.buffer_le]
  by_cases hempty : w.buffer ++ w.input = []
  · -- nothing left to read: the stream ends
    have hnil : (w.buffer ++ w.input).take w.size = [] := by rw [hempty, List.take_nil]
    have hphase : (if ((w.buffer ++ w.input).take w.size).isEmpty then Phase.exhausted
        else Phase.matching) = .exhausted := by simp [hnil]
    rw [hm, hphase]
    refine ⟨⟨h.size_pos, by simp [hnil], fun _ => ⟨hnil, hs⟩, by simp, by simp, by simp⟩,
      by simp [hp, Phase.rank], ?_, fun _ _ => by simp [hempty]⟩
    rw [course_of_exhausted _ rfl, hc, hempty, hs, read]
    rfl
  · -- a full window, or what is left of the input, goes to matching
    have hne : (w.buffer ++ w.input).take w.size ≠ [] := fun hnil =>
      hempty ((List.take_eq_nil_iff.1 hnil).resolve_left (Nat.pos_iff_ne_zero.1 h.size_pos))
    have hphase : (if ((w.buffer ++ w.input).take w.size).isEmpty then Phase.exhausted
        else Phase.matching) = .matching := by simp [hne]
    rw [hm, hphase]
    refine ⟨⟨h.size_pos, ?_, by simp, by simp, fun _ => ⟨hne, hs⟩, fun _ => ?_⟩,
      by simp [hp, Phase.rank], ?_, fun _ => by simp [Clean]⟩
    · simp only [List.length_take]
      omega
    · by_cases hlong : w.size ≤ (w.buffer ++ w.input).length
      · exact .inr (by simp only [List.length_take]; omega)
      · exact .inl (List.drop_eq_nil_of_le (by omega))
    · rw [course_of_reading _ (.inr (.inr rfl)), hc, List.take_append_drop]

theorem matching_window {t : Token} {b : List Token} (h : w.Moving) (hp : w.phase = .matching)
    (hb : w.buffer = t :: b) : min w.size ((b ++ w.input).length + 1) = b.length + 1 := by
  have hle := h.buffer_le
  rw [hb, List.length_cons] at hle
  rcases h.full hp with hin | hfull
  · simp only [hin, List.append_nil]
    omega
  · rw [hb, List.length_cons] at hfull
    simp only [List.length_append]
    omega

theorem advances_matching (h : w.Moving) (hp : w.phase = .matching) :
    Advances src w (move src w) := by
  obtain ⟨hne, hs⟩ := h.active (.inl hp)
  simp only [move, hp]
  split
  · exact absurd ‹_› hne
  rename_i t b hb
  have hwindow := matching_window h hp hb
  have hc : w.course src = read src w.kinds w.matchKinds w.size (t :: (b ++ w.input)) := by
    rw [course_of_reading _ (.inr (.inr hp)), hs, hb]
    rfl
  -- the search over the buffer is the first search of the reading
  have hsearch : longestMatch src w.matchKinds w.buffer w.buffer.length =
      windowSearch src w.matchKinds (t :: (b ++ w.input))
        (min w.size ((b ++ w.input).length + 1)) := by
    rw [hb, List.length_cons, hwindow, longestMatch_eq_windowSearch, ← List.cons_append,
      windowSearch_append (t :: b) w.input (n := b.length + 1) (by simp)]
  rw [hsearch]
  rcases hws : windowSearch src w.matchKinds (t :: (b ++ w.input))
    (min w.size ((b ++ w.input).length + 1)) with e | _ | ⟨j, cs⟩
  · exact advances_abort h (by rw [hc, read_of_segment_error (by rw [segment, hws])])
  · -- no window names a concept: the front token is passed through
    have hread : read src w.kinds w.matchKinds w.size (t :: (b ++ w.input)) =
        (read src w.kinds w.matchKinds w.size (b ++ w.input)).prepend [t] :=
      read_of_segment_ok (by rw [segment, hws])
    refine ⟨⟨h.size_pos, h.buffer_le, by simp, by simp, fun _ => ⟨hne, hs⟩, by simp⟩,
      by simp [hp, Phase.rank], ?_, fun _ => by simp [Clean]⟩
    rw [course_of_passing _ rfl, hc, hread]
    simp only [hb, hs]
    rfl
  · obtain ⟨hj, hjle, -⟩ := windowSearch_found hws
    rw [hwindow] at hjle
    dsimp only
    rw [expansionsOf_eq_expansionTokens]
    rcases hx : expansionTokens src w.kinds t j cs with e | q
    · have hseg : segment src w.kinds w.matchKinds w.size t (b ++ w.input) = .error e := by
        rw [segment, hws]
        simp [hx]
      exact advances_abort h (by rw [hc, read_of_segment_error hseg])
    · -- a window of `j` tokens matches: the front token is emitted and the rest queued
      have hseg : segment src w.kinds w.matchKinds w.size t (b ++ w.input) =
          .ok (t :: q ++ b.take (j - 1), b.drop (j - 1) ++ w.input) := by
        rw [segment, hws]
        simp [hx, List.take_append_of_le_length (show j - 1 ≤ b.length by omega),
          List.drop_append_of_le_length (show j - 1 ≤ b.length by omega)]
      have hread := read_of_segment_ok hseg
      have hle := h.buffer_le
      rw [hb, List.length_cons] at hle
      refine ⟨⟨⟨h.size_pos, ?_, by simp, by simp, by simp, by simp⟩, .inl rfl⟩, ?_,
        fun _ _ => by simp [Clean]⟩
      · simp only [List.length_drop]
        omega
      · rw [hc, hread, List.cons_append, pop_prepend_cons, course_of_reading _ (.inl rfl)]
        simp only [hs, List.nil_append]

theorem advances_passing (h : w.Moving) (hp : w.phase = .passingThrough) :
    Advances src w (move src w) := by
  obtain ⟨hne, hs⟩ := h.active (.inr hp)
  simp only [move, hp]
  split
  · rename_i t b hb
    have hle := h.buffer_le
    rw [hb, List.length_cons] at hle
    refine ⟨⟨⟨h.size_pos, by simp only; omega, by simp, by simp, by simp, by simp⟩, .inl rfl⟩, ?_,
      fun _ _ => by simp [Clean]⟩
    rw [course_of_passing _ hp, course_of_reading _ (.inl rfl)]
    simp only [hb, hs]
    rfl
  · exact absurd ‹_› hne

theorem advances_exhausted (h : w.Moving) (hp : w.phase = .exhausted) :
    Advances src w (move src w) := by
  simp only [move, hp]
  exact ⟨⟨h, .inr hp⟩, by rw [course_of_exhausted _ hp]; rfl, fun hc _ => hc⟩

/-- Every transition from a moving state advances. -/
theorem move_advances (src : Source) (h : w.Moving) : Advances src w (move src w) := by
  cases hp : w.phase with
  | drainingStack => exact advances_draining h hp
  | fillingBuffer => exact advances_filling h hp
  | matching => exact advances_matching h hp
  | passingThrough => exact advances_passing h hp
  | exhausted => exact advances_exhausted h hp

end Steps

section Frame

/-- The settings of `w'` are those of `w`, and the tokens `w'` has not yet emitted or queued end
those of `w`. -/
structure Follows (w w' : Window) : Prop where
  kinds : w'.kinds = w.kinds
  matchKinds : w'.matchKinds = w.matchKinds
  size : w'.size = w.size
  unread : w'.buffer ++ w'.input <:+ w.buffer ++ w.input

theorem follows_refl (w : Window) : Follows w w :=
  ⟨rfl, rfl, rfl, List.suffix_refl _⟩

theorem Follows.trans {w₁ w₂ w₃ : Window} (h₁ : Follows w₁ w₂) (h₂ : Follows w₂ w₃) :
    Follows w₁ w₃ :=
  ⟨h₂.kinds.trans h₁.kinds, h₂.matchKinds.trans h₁.matchKinds, h₂.size.trans h₁.size,
    h₂.unread.trans h₁.unread⟩

theorem follows_abort (w : Window) (e : Error) : Follows w (abort w e).state :=
  ⟨rfl, rfl, rfl, List.suffix_append _ _⟩

theorem move_follows (src : Source) (w : Window) : Follows w (move src w).state := by
  have same : ∀ w' : Window, w'.kinds = w.kinds → w'.matchKinds = w.matchKinds →
      w'.size = w.size → w'.buffer ++ w'.input = w.buffer ++ w.input → Follows w w' :=
    fun _ hk hm hs hu => ⟨hk, hm, hs, hu ▸ List.suffix_refl _⟩
  unfold move
  split
  · split <;> exact same _ rfl rfl rfl rfl
  · dsimp only [Move.state]
    exact same _ rfl rfl rfl (by simp only [fill, List.append_assoc, List.take_append_drop])
  · split
    · exact same _ rfl rfl rfl rfl
    · rename_i t rest hb
      split
      · exact follows_abort _ _
      · exact same _ rfl rfl rfl rfl
      · split
        · exact follows_abort _ _
        · rename_i n _ _ _ _ _
          refine ⟨rfl, rfl, rfl, ⟨t :: rest.take (n - 1), ?_⟩⟩
          simp only [Move.state, hb, List.cons_append, ← List.append_assoc, List.take_append_drop]
  · split
    · rename_i t rest hb
      refine ⟨rfl, rfl, rfl, ?_⟩
      simp only [Move.state, hb, List.cons_append]
      exact List.suffix_cons _ _
    · exact same _ rfl rfl rfl rfl
  · exact follows_refl _

theorem move_reads {src : Source} {w : Window} (h : (move src w).state.input ≠ w.input) :
    w.phase = .fillingBuffer := by
  unfold move at h
  split at h
  · split at h <;> exact absurd rfl h
  · assumption
  · split at h
    · exact absurd rfl h
    · split at h
      · exact absurd rfl h
      · exact absurd rfl h
      · split at h <;> exact absurd rfl h
  · split at h <;> exact absurd rfl h
  · exact absurd rfl h

end Frame

section Run

variable {src : Source} {w : Window}

theorem run_of_goOn {fuel : Nat} {w' : Window} (h : move src w = .goOn w') :
    run src (fuel + 1) w = run src fuel w' := by
  simp only [run, h]

theorem run_of_emit {fuel : Nat} {r : Except Error (Option Token)} {w' : Window}
    (h : move src w = .emit r w') : run src (fuel + 1) w = (r, w') := by
  simp only [run, h]

theorem run_advances {fuel : Nat} (h : w.Moving) (hfuel : w.phase.rank < fuel) :
    (run src fuel w).2.Rests ∧
      ((run src fuel w).1, (run src fuel w).2.course src) = (w.course src).pop ∧
      (w.Clean → (∀ e, (run src fuel w).1 ≠ .error e) → (run src fuel w).2.Clean) ∧
      Follows w (run src fuel w).2 := by
  induction fuel generalizing w with
  | zero => omega
  | succ fuel ih =>
    have adv := move_advances src h
    have fol := move_follows src w
    cases hm : move src w with
    | emit r w' =>
      rw [hm] at adv fol
      rw [run_of_emit hm]
      exact ⟨adv.1, adv.2.1, adv.2.2, fol⟩
    | goOn w' =>
      rw [hm] at adv fol
      obtain ⟨hmoving, hrank, hcourse, hclean⟩ := adv
      obtain ⟨hrests, hpop, hclean', hfol⟩ := ih hmoving (by omega)
      rw [run_of_goOn hm]
      exact ⟨hrests, by rw [hpop, hcourse], fun hc => hclean' (hclean hc), fol.trans hfol⟩

theorem run_fuel {fuel fuel' : Nat} (h : w.Moving) (hfuel : w.phase.rank < fuel)
    (hfuel' : w.phase.rank < fuel') : run src fuel w = run src fuel' w := by
  induction fuel generalizing w fuel' with
  | zero => omega
  | succ fuel ih =>
    obtain ⟨fuel', rfl⟩ : ∃ k, fuel' = k + 1 := ⟨fuel' - 1, by omega⟩
    cases hm : move src w with
    | emit r w' => rw [run_of_emit hm, run_of_emit hm]
    | goOn w' =>
      have adv := move_advances src h
      rw [hm] at adv
      rw [run_of_goOn hm, run_of_goOn hm]
      exact ih adv.1 (by have := adv.2.1; omega) (by have := adv.2.1; omega)

/-- A call from a state at rest gives the first result of its course and rests with the
rest. -/
theorem next_advances (src : Source) (h : w.Rests) :
    (next src w).2.Rests ∧ ((next src w).1, (next src w).2.course src) = (w.course src).pop ∧
      (w.Clean → (∀ e, (next src w).1 ≠ .error e) → (next src w).2.Clean) ∧
      Follows w (next src w).2 :=
  run_advances h.toMoving (by have := w.phase.rank_lt_four; omega)

/-- The states a call from `w` passes through: `w`, and those it goes on to before it emits. -/
inductive Passes (src : Source) (w : Window) : Window → Prop
  | start : Passes src w w
  | goOn {v v' : Window} : Passes src w v → move src v = .goOn v' → Passes src w v'

theorem Passes.moving {v : Window} (h : w.Moving) (hv : Passes src w v) : v.Moving := by
  induction hv with
  | start => exact h
  | goOn _ hm ih =>
    have adv := move_advances src ih
    rw [hm] at adv
    exact adv.1

end Run

/-- The results of `n` calls of the stream from `w`, and the state after them. -/
def calls (src : Source) : Nat → Window → List (Except Error (Option Token)) × Window
  | 0, w => ([], w)
  | n + 1, w => ((next src w).1 :: (calls src n (next src w).2).1, (calls src n (next src w).2).2)

/-- Calls from a state at rest give the results of its course one after the other. -/
theorem calls_advance (src : Source) {w : Window} (h : w.Rests) (n : Nat) :
    (calls src n w).1 = (w.course src).results n ∧
      (calls src n w).2.course src = (w.course src).after n ∧ (calls src n w).2.Rests ∧
      (w.Clean → (∀ e, .error e ∉ (calls src n w).1) → (calls src n w).2.Clean) ∧
      Follows w (calls src n w).2 := by
  induction n generalizing w with
  | zero => exact ⟨rfl, rfl, h, fun hc _ => hc, follows_refl w⟩
  | succ n ih =>
    obtain ⟨hrests, hpop, hclean, hfol⟩ := next_advances src h
    obtain ⟨hresults, hafter, hrests', hclean', hfol'⟩ := ih hrests
    have hfirst : (w.course src).pop = ((next src w).1, (next src w).2.course src) := hpop.symm
    refine ⟨?_, ?_, hrests', ?_, hfol.trans hfol'⟩
    · simp only [calls, Reading.results, hfirst, hresults]
    · simp only [calls, Reading.after, hfirst, hafter]
    · intro hc hno
      simp only [calls, List.mem_cons, not_or] at hno
      exact hclean' (hclean hc fun e he => (hno e).1 he.symm) fun e he => (hno e).2 he

end Window

/-! ## The stream from its start -/

section Start

variable (src : Source) (ts : List Token) (kinds : List ExpansionKind) (mk : List LabelKind)
  (W : Nat)

theorem start_rests : (((Window.new ts kinds).withSize W).withMatchKinds mk).Rests where
  size_pos := Nat.lt_of_lt_of_le Nat.one_pos (Nat.le_max_right W 1)
  buffer_le := Nat.zero_le _
  exhausted h := nomatch h
  filling h := nomatch h
  active h := by rcases h with h | h <;> exact nomatch h
  full h := nomatch h
  resting := .inl rfl

theorem start_course :
    (((Window.new ts kinds).withSize W).withMatchKinds mk).course src =
      read src kinds mk (max W 1) ts := by
  rw [Window.course_of_reading _ (.inl rfl)]
  rfl

end Start

/-- A clean state at rest has, as its course, its queue and the reading of what it has not
read. -/
theorem Window.course_of_clean (src : Source) {w : Window} (h : w.Rests) (hc : w.Clean) :
    w.course src =
      (read src w.kinds w.matchKinds w.size (w.buffer ++ w.input)).prepend w.stack := by
  rcases h.resting with hp | hp
  · exact Window.course_of_reading _ (.inl hp)
  · obtain ⟨hb, hs⟩ := h.exhausted hp
    rw [Window.course_of_exhausted _ hp, hb, hs, hc hp, List.append_nil, read]
    rfl

/-- With a source that never fails, the stream gives, one per call, the tokens of the greedy
reading of its input, and then the end of the stream on every later call. -/
theorem calls_eq_greedy (src : Source) (lbl : String → List LabelKind → List String)
    (exp : String → ExpansionKind → List String)
    (hl : ∀ text ks, src.conceptsForLabel text ks = .ok (lbl text ks))
    (he : ∀ uri k, src.expansions uri k = .ok (exp uri k))
    (ts : List Token) (kinds : List ExpansionKind) (mk : List LabelKind) (W n : Nat) :
    (Window.calls src n (((Window.new ts kinds).withSize W).withMatchKinds mk)).1 =
      ((greedy lbl exp kinds mk (max W 1) ts).map (Except.ok ∘ some) ++
        List.replicate n (Except.ok none)).take n := by
  rw [(Window.calls_advance src (start_rests ts kinds mk W) n).1, start_course src ts kinds mk W,
    read_of_total hl he, Reading.results_eq]
  simp only [Reading.transcript, Option.map_none, Option.toList_none, List.append_nil]

/-- The store of one concept, labelled `jumps`, is a source that never fails. -/
theorem calls_eq_greedy_jumps :
    (∀ text ks, (Store.ofGraph (Graph.empty.push ⟨.iri "ex:2", .label .pref,
        .literal ⟨"jumps", none⟩⟩) ⟨none⟩).source.conceptsForLabel text ks =
      .ok ((Store.ofGraph (Graph.empty.push ⟨.iri "ex:2", .label .pref,
        .literal ⟨"jumps", none⟩⟩) ⟨none⟩).lookup text ks)) ∧
    (∀ uri k, (Store.ofGraph (Graph.empty.push ⟨.iri "ex:2", .label .pref,
        .literal ⟨"jumps", none⟩⟩) ⟨none⟩).source.expansions uri k =
      .ok ((Store.ofGraph (Graph.empty.push ⟨.iri "ex:2", .label .pref,
        .literal ⟨"jumps", none⟩⟩) ⟨none⟩).expand uri k)) ∧
    (Window.calls (Store.ofGraph (Graph.empty.push ⟨.iri "ex:2", .label .pref,
        .literal ⟨"jumps", none⟩⟩) ⟨none⟩).source 3
        (((Window.new [Token.new "jumps" 0] [.uri]).withSize 2).withMatchKinds LabelKind.all)).1 =
      ((greedy (Store.ofGraph (Graph.empty.push ⟨.iri "ex:2", .label .pref,
          .literal ⟨"jumps", none⟩⟩) ⟨none⟩).lookup
        (Store.ofGraph (Graph.empty.push ⟨.iri "ex:2", .label .pref,
          .literal ⟨"jumps", none⟩⟩) ⟨none⟩).expand [.uri] LabelKind.all (max 2 1)
        [Token.new "jumps" 0]).map (Except.ok ∘ some) ++
          List.replicate 3 (Except.ok none)).take 3 :=
  ⟨fun _ _ => rfl, fun _ _ => rfl,
    calls_eq_greedy _ _ _ (fun _ _ => rfl) (fun _ _ => rfl) _ _ _ _ _⟩

/-- When a segment of the greedy reading fails, the stream gives the tokens of the segments
before it, one per call, then the failure once, named after the segment's front token and its
position, then the end of the stream on every later call. No token of the failing segment is
given. -/
theorem calls_of_failure (src : Source) (ts : List Token) (kinds : List ExpansionKind)
    (mk : List LabelKind) (W n : Nat) (out : List Token) (h : Token) (e : Error)
    (hfail : read src kinds mk (max W 1) ts = ⟨out, some (h, e)⟩) :
    (Window.calls src n (((Window.new ts kinds).withSize W).withMatchKinds mk)).1 =
      (out.map (Except.ok ∘ some) ++
        Except.error (Error.lookupFailed h.text h.position e) ::
          List.replicate n (Except.ok none)).take n ∧
      (Error.lookupFailed h.text h.position e).message =
        "Analysis error: concept lookup failed for token '" ++ h.text ++ "' at position " ++
          toString h.position ++ ": " ++ e.message := by
  refine ⟨?_, rfl⟩
  rw [(Window.calls_advance src (start_rests ts kinds mk W) n).1, start_course src ts kinds mk W,
    hfail, Reading.results_eq]
  simp only [Reading.transcript, Option.map_some, Option.toList_some, List.append_assoc,
    List.cons_append, List.nil_append]
  rfl

/-- A source that names `ex:1` for the text "a", fails every other label lookup, and expands a
concept to its URI. -/
def partialSource : Source :=
  ⟨fun text _ => if text = "a" then .ok ["ex:1"] else .error (.store "backend unavailable"),
    fun _ => .ok false, fun uri _ => .ok [uri]⟩

/-- A source whose every lookup fails fails the first segment, at the first token. A source that
fails only at the second token gives the first token and its expansion, then the failure. -/
theorem calls_of_failure_unavailable :
    read ⟨fun _ _ => .error (.store "backend unavailable"), fun _ => .ok false, fun _ _ => .ok []⟩
        [.uri] LabelKind.all (max 1 1) [Token.new "jumps" 0] =
      ⟨[], some (Token.new "jumps" 0, .store "backend unavailable")⟩ ∧
    (Window.calls ⟨fun _ _ => .error (.store "backend unavailable"), fun _ => .ok false,
        fun _ _ => .ok []⟩ 2
        (((Window.new [Token.new "jumps" 0] [.uri]).withSize 1).withMatchKinds LabelKind.all)).1 =
      (([] : List Token).map (Except.ok ∘ some) ++
        Except.error (Error.lookupFailed (Token.new "jumps" 0).text (Token.new "jumps" 0).position
          (.store "backend unavailable")) :: List.replicate 2 (Except.ok none)).take 2 ∧
    (Error.lookupFailed (Token.new "jumps" 0).text (Token.new "jumps" 0).position
        (.store "backend unavailable")).message =
      "Analysis error: concept lookup failed for token '" ++ (Token.new "jumps" 0).text ++
        "' at position " ++ toString (Token.new "jumps" 0).position ++ ": " ++
        (Error.store "backend unavailable").message ∧
    read partialSource [.uri] LabelKind.all (max 1 1) [Token.new "a" 0, Token.new "b" 1] =
      ⟨[Token.new "a" 0, (Token.new "a" 0).expansion "ex:1" .uri 1],
        some (Token.new "b" 1, .store "backend unavailable")⟩ ∧
    (Window.calls partialSource 4 (((Window.new [Token.new "a" 0, Token.new "b" 1] [.uri]).withSize
        1).withMatchKinds LabelKind.all)).1 =
      ([Token.new "a" 0, (Token.new "a" 0).expansion "ex:1" .uri 1].map (Except.ok ∘ some) ++
        Except.error (Error.lookupFailed (Token.new "b" 1).text (Token.new "b" 1).position
          (.store "backend unavailable")) :: List.replicate 4 (Except.ok none)).take 4 ∧
    (Error.lookupFailed (Token.new "b" 1).text (Token.new "b" 1).position
        (.store "backend unavailable")).message =
      "Analysis error: concept lookup failed for token '" ++ (Token.new "b" 1).text ++
        "' at position " ++ toString (Token.new "b" 1).position ++ ": " ++
        (Error.store "backend unavailable").message := by
  have hread : read ⟨fun _ _ => .error (.store "backend unavailable"), fun _ => .ok false,
      fun _ _ => .ok []⟩ [.uri] LabelKind.all (max 1 1) [Token.new "jumps" 0] =
      ⟨[], some (Token.new "jumps" 0, .store "backend unavailable")⟩ :=
    read_of_segment_error rfl
  -- "a" is one segment with its expansion, and "b" then fails
  have hfirst : segment partialSource [.uri] LabelKind.all (max 1 1) (Token.new "a" 0)
      [Token.new "b" 1] =
      .ok ([Token.new "a" 0, (Token.new "a" 0).expansion "ex:1" .uri 1], [Token.new "b" 1]) := rfl
  have hsecond : read partialSource [.uri] LabelKind.all (max 1 1)
      [Token.new "a" 0, Token.new "b" 1] =
      ⟨[Token.new "a" 0, (Token.new "a" 0).expansion "ex:1" .uri 1],
        some (Token.new "b" 1, .store "backend unavailable")⟩ := by
    rw [read_of_segment_ok hfirst, read_of_segment_error rfl]
    rfl
  obtain ⟨hcalls, hmessage⟩ := calls_of_failure _ _ _ _ _ 2 _ _ _ hread
  obtain ⟨hcalls', hmessage'⟩ := calls_of_failure _ _ _ _ _ 4 _ _ _ hsecond
  exact ⟨hread, hcalls, hmessage, hsecond, hcalls', hmessage'⟩

/-- What holds of the automaton between two calls, after the results `rs` of the calls so far,
for the input `ts`. -/
structure Window.Settled (src : Source) (ts : List Token)
    (rs : List (Except Error (Option Token))) (w : Window) : Prop where
  phase : w.phase = .drainingStack ∨ w.phase = .exhausted
  buffer_le : w.buffer.length ≤ w.size
  exhausted : w.phase = .exhausted → w.buffer = [] ∧ w.stack = []
  unread : (∀ e, .error e ∉ rs) → ∃ k, w.buffer ++ w.input = ts.drop k ∧
    read src w.kinds w.matchKinds w.size ts =
      (read src w.kinds w.matchKinds w.size (ts.drop k)).prepend (tokensOf rs ++ w.stack)

/-- What holds of each state a call passes through. -/
structure Window.Passing (src : Source) (v : Window) : Prop where
  reads_empty : (move src v).state.input ≠ v.input → v.stack = []
  active : v.phase = .matching ∨ v.phase = .passingThrough → v.buffer ≠ [] ∧ v.stack = []
  window : v.phase = .matching → ∀ k cs,
    longestMatch src v.matchKinds v.buffer v.buffer.length = .ok (some (k, cs)) →
      1 ≤ k ∧ k ≤ v.buffer.length

/-- Every state the stream reaches between two calls is settled and keeps its settings; every
state a call passes through is passing; and every call ends by emitting within its fuel, so
more fuel would not change it. -/
theorem calls_settled (src : Source) (ts : List Token) (kinds : List ExpansionKind)
    (mk : List LabelKind) (W n : Nat) :
    let w := (Window.calls src n (((Window.new ts kinds).withSize W).withMatchKinds mk)).2
    Window.Settled src ts
        (Window.calls src n (((Window.new ts kinds).withSize W).withMatchKinds mk)).1 w ∧
      w.kinds = kinds ∧ w.matchKinds = mk ∧ w.size = max W 1 ∧
      (∀ v, Window.Passes src w v → Window.Passing src v) ∧
      (∀ fuel, 5 ≤ fuel → run src fuel w = next src w) := by
  obtain ⟨hresults, hafter, hrests, hclean, hfol⟩ :=
    Window.calls_advance src (start_rests ts kinds mk W) n
  have hstart := start_course src ts kinds mk W
  generalize Window.calls src n (((Window.new ts kinds).withSize W).withMatchKinds mk) = result
    at hresults hafter hrests hclean hfol ⊢
  obtain ⟨rs, w⟩ := result
  dsimp only at hresults hafter hrests hclean hfol ⊢
  refine ⟨⟨hrests.resting, hrests.buffer_le, hrests.exhausted, fun hno => ?_⟩, hfol.kinds,
    hfol.matchKinds, hfol.size, fun v hv => ?_, fun fuel hfuel => ?_⟩
  · -- the unread tokens end the input, and the course ties them to the results so far
    obtain ⟨k, hk⟩ : ∃ k, w.buffer ++ w.input = ts.drop k :=
      ⟨_, List.suffix_iff_eq_drop.1 hfol.unread⟩
    refine ⟨k, hk, ?_⟩
    have hcourse := Window.course_of_clean src hrests (hclean (fun h => nomatch h) hno)
    rw [← hk, ← Reading.prepend_prepend, ← hcourse, hafter, hresults,
      Reading.prepend_after _ _ (hresults ▸ hno), hfol.kinds, hfol.matchKinds, hfol.size]
    exact hstart.symm
  · have hv := hv.moving hrests.toMoving
    refine ⟨fun hin => hv.filling (Window.move_reads hin), hv.active, fun _ k cs hk => ?_⟩
    rw [longestMatch_eq_windowSearch] at hk
    exact ⟨(windowSearch_found hk).1, (windowSearch_found hk).2.1⟩
  · have := w.phase.rank_lt_four
    exact Window.run_fuel hrests.toMoving (by omega) (by omega)

end Thesaurus.Expansion
