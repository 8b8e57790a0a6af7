import Thesaurus.Proofs.Text.Words
import Thesaurus.Proofs.Unicode.Lowercase

/-!
Reading segments again. The reading of a segment looks at a character's word-break class, at
whether it is an emoji after a joiner, and, at the start, at whether the next character is a line
feed or is carried; so texts with characters of the same classes, and no joiner, are cut alike
(`firstLength_congr`, `segments_map`). A segment cut from a text is one segment on its own
(`segments_single`): the reading only falls back, never past, the place where the text stops.
A word space after a text without word spaces cuts the text's segments off
(`segments_append_space`), and a word space before a letter is a segment of its own
(`segments_space_cons`), so texts joined by single spaces are cut text by text
(`segments_intercalate`). In a text without carried characters a segment that starts with a word
space holds nothing else (`spaces_of_mem_segments`), so its words hold no word space
(`noSpaces_of_word`).
-/

set_option autoImplicit false
set_option relaxedAutoImplicit false

namespace Thesaurus.Text

open Thesaurus.Unicode

/-! ## One step of the reading -/

/-- Whether the reading waits for a letter or a digit without which the segment ends before
the marks it has read. -/
def Reading.pending : Reading → Bool
  | .marks a => a.required
  | _ => false

theorem firstLength_nil (index : Nat) (r : Reading) (previous : WordBreak) (saved : Nat)
    (skipped : Bool) :
    firstLength [] index r previous saved skipped = if r.pending then saved else index := by
  cases r <;> rfl

theorem Reading.step_following (r : Reading) (b : WordBreak) (following : Option Char)
    (index saved : Nat) (skipped : Bool) :
    r.step b following index saved skipped = r.step b none index saved skipped ∨
      (r = .start ∧ r.step b none index saved skipped = .stop (index + 1)) := by
  cases r
  case start =>
    cases b <;> cases following <;> unfold Reading.step <;> dsimp only <;> simp
  all_goals exact .inl rfl

theorem Reading.step_some {d : Char} (hd : d ≠ '\n') (ha : (WordBreak.of d).isAttached = false)
    (r : Reading) (b : WordBreak) (index saved : Nat) (skipped : Bool) :
    r.step b (some d) index saved skipped = r.step b none index saved skipped := by
  cases r
  case start =>
    cases b <;> unfold Reading.step <;> dsimp only <;> simp [hd, ha]
  all_goals rfl

theorem Reading.step_alike {f f' : Option Char}
    (h : Option.Rel (fun c d => WordBreak.of c = WordBreak.of d) f f') (r : Reading)
    (b : WordBreak) (index saved : Nat) (skipped : Bool) :
    r.step b f index saved skipped = r.step b f' index saved skipped := by
  cases h with
  | none => rfl
  | @some c d hcd =>
    -- a line feed is the one character of its class
    have hlf : c = '\n' ↔ d = '\n' := by
      constructor
      · rintro rfl
        exact eq_of_wordBreak_lf (hcd.symm.trans wordBreak_newline_space.1)
      · rintro rfl
        exact eq_of_wordBreak_lf (hcd.trans wordBreak_newline_space.1)
    by_cases hc : c = '\n'
    · rw [hc, hlf.1 hc]
    · have hd : d ≠ '\n' := fun h => hc (hlf.2 h)
      by_cases ha : (WordBreak.of c).isAttached = true
      · have ha' : (WordBreak.of d).isAttached = true := by rw [← hcd]; exact ha
        cases r
        case start =>
          cases b <;> unfold Reading.step <;> dsimp only <;> simp [hc, hd, ha, ha']
        all_goals rfl
      · rw [Reading.step_some hc (by simpa using ha), Reading.step_some hd (by simpa [← hcd] using ha)]

theorem Reading.step_go_pending {r r' : Reading} {b : WordBreak} {following : Option Char}
    {index saved saved' : Nat} {skipped : Bool}
    (h : r.step b following index saved skipped = .go r' saved') (hp : r'.pending = true) :
    saved' = index ∧ r.pending = false := by
  revert h
  fun_cases Reading.step r b following index saved skipped
  all_goals intro h; cases h <;> simp_all [Reading.pending, Awaited.required]

theorem Reading.step_stop_pending {r : Reading} {b : WordBreak} {following : Option Char}
    {index saved n : Nat} {skipped : Bool} (h : r.step b following index saved skipped = .stop n) :
    (r.pending = true → n = saved) ∧ (r.pending = false → index ≤ n) := by
  revert h
  fun_cases Reading.step r b following index saved skipped
  all_goals intro h; cases h <;> grind [Reading.pending, Awaited.required]

theorem Reading.step_wordSpace {r : Reading} (hs : r ≠ .start) (hsp : r ≠ .spaces)
    (following : Option Char) (index saved : Nat) (skipped : Bool) :
    r.step .wSegSpace following index saved skipped =
      .stop (if r.pending then saved else index) := by
  cases r
  case start => exact absurd rfl hs
  case spaces => exact absurd rfl hsp
  case marks a => cases a <;> rfl
  all_goals rfl

theorem Reading.step_start_wordSpace (following : Option Char) (index saved : Nat)
    (skipped : Bool) : Reading.start.step .wSegSpace following index saved skipped = .go .spaces saved :=
  rfl

theorem Reading.step_spaces (b : WordBreak) (following : Option Char) (index saved : Nat) :
    Reading.spaces.step b following index saved false =
      if b = .wSegSpace then .go .spaces saved else .stop index := by
  unfold Reading.step
  simp

/-! ## Bounds of a segment -/

theorem firstLength_le (cs : List Char) (index : Nat) (r : Reading) (previous : WordBreak)
    (saved : Nat) (skipped : Bool) (hsaved : saved ≤ index) :
    firstLength cs index r previous saved skipped ≤ index + cs.length := by
  induction cs generalizing index r previous saved skipped with
  | nil =>
    rw [firstLength_nil]
    split <;> simp <;> omega
  | cons c rest ih =>
    rw [firstLength]
    split
    · have := ih (index + 1) r (WordBreak.of c) saved true (by omega)
      simp only [List.length_cons]
      omega
    split
    · have := ih (index + 1) .emoji (WordBreak.of c) saved skipped (by omega)
      simp only [List.length_cons]
      omega
    split
    · rename_i r' saved' hstep
      obtain ⟨-, hsaved', -, -⟩ := Reading.step_go hstep
      have := ih (index + 1) r' (WordBreak.of c) saved' skipped (by omega)
      simp only [List.length_cons]
      omega
    · rename_i n hstep
      simp only [List.length_cons]
      rcases Reading.step_stop hstep with rfl | rfl | ⟨-, rfl | ⟨-, hlf, rfl⟩⟩
      · omega
      · omega
      · omega
      · -- a carriage return ends with the line feed after it
        obtain ⟨tail, rfl⟩ := List.head?_eq_some_iff.1 hlf
        simp only [List.length_cons]
        omega

theorem firstLength_ge (cs : List Char) (index : Nat) (r : Reading) (previous : WordBreak)
    (saved : Nat) (skipped : Bool) :
    (r.pending = true → firstLength cs index r previous saved skipped = saved ∨
        index + 1 ≤ firstLength cs index r previous saved skipped) ∧
      (r.pending = false → index ≤ firstLength cs index r previous saved skipped) := by
  induction cs generalizing index r previous saved skipped with
  | nil =>
    rw [firstLength_nil]
    cases r.pending <;> simp
  | cons c rest ih =>
    rw [firstLength]
    split
    · obtain ⟨h1, h2⟩ := ih (index + 1) r (WordBreak.of c) saved true
      refine ⟨fun hp => ?_, fun hp => by have := h2 hp; omega⟩
      rcases h1 hp with h | h
      · exact .inl h
      · exact .inr (by omega)
    split
    · have := (ih (index + 1) .emoji (WordBreak.of c) saved skipped).2 rfl
      exact ⟨fun _ => .inr this, fun _ => by omega⟩
    split
    · rename_i r' saved' hstep
      obtain ⟨h1, h2⟩ := ih (index + 1) r' (WordBreak.of c) saved' skipped
      cases hp' : r'.pending
      · have := h2 hp'
        exact ⟨fun _ => .inr this, fun _ => by omega⟩
      · -- marks that wait fall back to the character read, after a reading that waits for none
        obtain ⟨rfl, hp⟩ := Reading.step_go_pending hstep hp'
        refine ⟨fun h => by simp [hp] at h, fun _ => ?_⟩
        rcases h1 hp' with h | h <;> omega
    · rename_i n hstep
      obtain ⟨h1, h2⟩ := Reading.step_stop_pending hstep
      exact ⟨fun h => .inl (h1 h), h2⟩

theorem firstLength_of_append_eq (p more : List Char) (index : Nat) (r : Reading) (previous : WordBreak)
    (saved : Nat) (skipped : Bool)
    (h : firstLength (p ++ more) index r previous saved skipped = index + p.length) :
    firstLength p index r previous saved skipped = index + p.length := by
  induction p generalizing index r previous saved skipped with
  | nil =>
    rw [List.nil_append, List.length_nil, Nat.add_zero] at h
    rw [firstLength_nil, List.length_nil, Nat.add_zero]
    cases hp : r.pending with
    | false => rfl
    | true =>
      -- waiting marks end the longer text at the fallback length, which is then the place
      rcases (firstLength_ge more index r previous saved skipped).1 hp with h' | h' <;>
        simp only [ite_true] <;> omega
  | cons c p ih =>
    have hlen : index + (c :: p).length = index + 1 + p.length := by simp; omega
    rw [List.cons_append, firstLength, hlen] at h
    rw [firstLength, hlen]
    by_cases hatt : (r != .start && (WordBreak.of c).isAttached) = true
    · rw [if_pos hatt] at h ⊢
      exact ih _ _ _ _ _ h
    rw [if_neg hatt] at h ⊢
    by_cases hemoji : (previous == .zwj && isEmoji c) = true
    · rw [if_pos hemoji] at h ⊢
      exact ih _ _ _ _ _ h
    rw [if_neg hemoji] at h ⊢
    -- the next character is the same, unless the text stops after `c`
    cases p with
    | cons c' p' =>
      split at h
      · rename_i r' saved' hstep
        rw [List.cons_append, List.head?_cons] at hstep
        rw [List.head?_cons, hstep]
        exact ih _ _ _ _ _ h
      · rename_i n hstep
        rw [List.cons_append, List.head?_cons] at hstep
        rw [List.head?_cons, hstep, h]
    | nil =>
      rcases Reading.step_following r (WordBreak.of c) more.head? index saved skipped with
        heq | ⟨-, hnone⟩
      · rw [List.nil_append, heq] at h
        split at h
        · rename_i r' saved' hstep
          rw [List.head?_nil, hstep]
          exact ih _ _ _ _ _ (by simpa using h)
        · rename_i n hstep
          rw [List.head?_nil, hstep, h]
      · rw [List.head?_nil, hnone]
        simp

/-! ## Segments -/

theorem segments_cons (c : Char) (rest : List Char) :
    segments (c :: rest) = (c :: rest).take (segmentLength (c :: rest)) ::
      segments ((c :: rest).drop (segmentLength (c :: rest))) := by
  rw [segments]

theorem segments_eq_nil {cs : List Char} : segments cs = [] ↔ cs = [] := by
  cases cs with
  | nil => simp [segments]
  | cons c rest => simp [segments_cons]

/-- A text is one segment exactly when its first segment is as long as the text. -/
theorem segments_eq_single_iff {q : List Char} (hq : q ≠ []) :
    segments q = [q] ↔ q.length ≤ segmentLength q := by
  obtain ⟨c, rest, rfl⟩ := List.exists_cons_of_ne_nil hq
  rw [segments_cons]
  constructor
  · intro h
    exact List.drop_eq_nil_iff.1 (segments_eq_nil.1 (List.cons.inj h).2)
  · intro h
    rw [List.take_of_length_le h, List.drop_eq_nil_iff.2 h, segments_eq_nil.2 rfl]

theorem segmentLength_le (c : Char) (rest : List Char) :
    segmentLength (c :: rest) ≤ (c :: rest).length := by
  have := firstLength_le (c :: rest) 0 .start .other 0 false (Nat.le_refl 0)
  unfold segmentLength
  simp only [List.length_cons] at *
  omega

theorem segments_first (c : Char) (rest : List Char) :
    segments ((c :: rest).take (segmentLength (c :: rest))) =
      [(c :: rest).take (segmentLength (c :: rest))] := by
  have hpos : 1 ≤ segmentLength (c :: rest) := Nat.le_max_left _ _
  have htake : ((c :: rest).take (segmentLength (c :: rest))).length = segmentLength (c :: rest) :=
    List.length_take_of_le (segmentLength_le c rest)
  refine (segments_eq_single_iff (List.ne_nil_of_length_pos (by omega))).2 ?_
  rw [htake]
  by_cases hzero : firstLength (c :: rest) 0 .start .other 0 false = 0
  · calc segmentLength (c :: rest) = 1 := by rw [segmentLength, hzero]; rfl
      _ ≤ _ := Nat.le_max_left _ _
  · have hseg : segmentLength (c :: rest) = firstLength (c :: rest) 0 .start .other 0 false :=
      Nat.max_eq_right (by omega)
    have hupto := firstLength_of_append_eq ((c :: rest).take (segmentLength (c :: rest)))
      ((c :: rest).drop (segmentLength (c :: rest))) 0 .start .other 0 false
      (by rw [List.take_append_drop, htake, Nat.zero_add, hseg])
    calc segmentLength (c :: rest)
        = firstLength ((c :: rest).take (segmentLength (c :: rest))) 0 .start .other 0 false := by
          rw [hupto, htake, Nat.zero_add]
      _ ≤ _ := Nat.le_max_right _ _

/-- A segment cut from a text is one segment on its own. -/
theorem segments_single (cs : List Char) : ∀ p ∈ segments cs, segments p = [p] := by
  induction cs using segments.induct with
  | case1 => simp [segments]
  | case2 c rest ih =>
    intro p hp
    rw [segments_cons] at hp
    rcases List.mem_cons.1 hp with hp | hp
    · rw [hp]
      exact segments_first c rest
    · exact ih p hp

/-! ## Texts alike -/

/-- Two texts alike for word segmentation: of one length, with characters of one word-break
class at each place. -/
def Alike (cs ds : List Char) : Prop :=
  List.Forall₂ (fun c d => WordBreak.of c = WordBreak.of d) cs ds

/-- Texts alike, without joiners, are read alike. -/
theorem firstLength_congr {cs ds : List Char} (h : Alike cs ds) :
    (∀ c ∈ cs, WordBreak.of c ≠ .zwj) → ∀ (index : Nat) (r : Reading) (previous : WordBreak),
      previous ≠ .zwj → ∀ (saved : Nat) (skipped : Bool),
        firstLength cs index r previous saved skipped =
          firstLength ds index r previous saved skipped := by
  induction h with
  | nil => intros; rfl
  | @cons c d cs ds hcd hrest ih =>
    intro hz index r previous hprev saved skipped
    have hz' : ∀ x ∈ cs, WordBreak.of x ≠ .zwj := fun x hx => hz x (List.mem_cons_of_mem _ hx)
    have hc : WordBreak.of c ≠ .zwj := hz c List.mem_cons_self
    -- the next characters are alike too
    have hnext : Option.Rel (fun c d => WordBreak.of c = WordBreak.of d) cs.head? ds.head? := by
      cases hrest with
      | nil => exact .none
      | cons hxy _ => exact .some hxy
    have hjoin : (previous == WordBreak.zwj) = false := beq_eq_false_iff_ne.2 hprev
    rw [firstLength, firstLength, ← hcd, hjoin, Bool.false_and, Bool.false_and,
      if_neg Bool.false_ne_true, if_neg Bool.false_ne_true, Reading.step_alike hnext]
    split
    · exact ih hz' _ _ _ hc _ _
    split
    · exact ih hz' _ _ _ hc _ _
    · rfl

theorem segmentLength_congr {cs ds : List Char} (h : Alike cs ds)
    (hz : ∀ c ∈ cs, WordBreak.of c ≠ .zwj) : segmentLength ds = segmentLength cs := by
  unfold segmentLength
  rw [firstLength_congr h hz 0 .start .other (by decide) 0 false]

theorem alike_map (g : Char → Char) (cs : List Char)
    (hg : ∀ c ∈ cs, WordBreak.of (g c) = WordBreak.of c) : Alike cs (cs.map g) := by
  induction cs with
  | nil => exact .nil
  | cons c cs ih =>
    exact .cons (hg c List.mem_cons_self).symm (ih fun x hx => hg x (List.mem_cons_of_mem _ hx))

theorem Alike.exists_mem_right {cs ds : List Char} (h : Alike cs ds) :
    ∀ d ∈ ds, ∃ c ∈ cs, WordBreak.of c = WordBreak.of d := by
  induction h with
  | nil => simp
  | @cons c d cs ds hcd _ ih =>
    intro x hx
    rcases List.mem_cons.1 hx with rfl | hx
    · exact ⟨c, List.mem_cons_self, hcd⟩
    · obtain ⟨y, hy, hyx⟩ := ih x hx
      exact ⟨y, List.mem_cons_of_mem _ hy, hyx⟩

/-- Replacing the characters of a text, without joiners, by characters of the same classes
replaces them in its segments. -/
theorem segments_map (g : Char → Char) (cs : List Char)
    (hg : ∀ c ∈ cs, WordBreak.of (g c) = WordBreak.of c)
    (hz : ∀ c ∈ cs, WordBreak.of c ≠ .zwj) :
    segments (cs.map g) = (segments cs).map (List.map g) := by
  induction cs using segments.induct with
  | case1 => simp [segments]
  | case2 c rest ih =>
    have hlen := segmentLength_congr (alike_map g _ hg) hz
    rw [List.map_cons, segments_cons, ← List.map_cons, hlen, segments_cons c rest,
      ← List.map_take, ← List.map_drop,
      ih (fun x hx => hg x (List.mem_of_mem_drop hx)) (fun x hx => hz x (List.mem_of_mem_drop hx)),
      List.map_cons]

theorem segments_single_of_alike {w v : List Char} (hw : segments w = [w]) (h : Alike w v)
    (hz : ∀ c ∈ w, WordBreak.of c ≠ .zwj) : segments v = [v] := by
  have hne : w ≠ [] := by
    rintro rfl
    simp [segments] at hw
  have hlen : v.length = w.length := h.length_eq.symm
  have hne' : v ≠ [] := fun hv => hne (List.eq_nil_of_length_eq_zero (by rw [← hlen, hv]; rfl))
  rw [segments_eq_single_iff hne', segmentLength_congr h hz, hlen]
  exact (segments_eq_single_iff hne).1 hw

/-! ## Texts joined by spaces -/

theorem firstLength_start_wordSpace {d : Char} (hd : WordBreak.of d = .wSegSpace)
    (rest : List Char) (index : Nat) (previous : WordBreak) (saved : Nat) (skipped : Bool) :
    firstLength (d :: rest) index .start previous saved skipped =
      firstLength rest (index + 1) .spaces .wSegSpace saved skipped := by
  rw [firstLength, hd, isEmoji_of_wordSpace hd]
  simp only [bne_self_eq_false, Bool.false_and, Bool.and_false, Bool.false_eq_true, ↓reduceIte,
    Reading.step_start_wordSpace]

theorem firstLength_append_space {d : Char} (hd : isWordSpace d = true) (rest : List Char) :
    ∀ (p : List Char), (∀ c ∈ p, isWordSpace c = false) → ∀ (index : Nat) (r : Reading)
      (previous : WordBreak) (saved : Nat) (skipped : Bool), r ≠ .spaces → (r = .start → p ≠ []) →
      firstLength (p ++ d :: rest) index r previous saved skipped =
        firstLength p index r previous saved skipped := by
  have hdb : WordBreak.of d = .wSegSpace := (isWordSpace_iff d).1 hd
  intro p
  induction p with
  | nil =>
    intro _ index r previous saved skipped hsp hstart
    have hs : r ≠ .start := fun h => hstart h rfl
    rw [List.nil_append, firstLength_nil, firstLength, hdb, isEmoji_of_wordSpace hdb]
    simp only [WordBreak.isAttached, Bool.and_false, Bool.false_eq_true, ↓reduceIte,
      Reading.step_wordSpace hs hsp]
  | cons c p ih =>
    intro hp index r previous saved skipped hsp _
    have hc := hp c List.mem_cons_self
    have hp' : ∀ x ∈ p, isWordSpace x = false := fun x hx => hp x (List.mem_cons_of_mem _ hx)
    -- the next character is the same, or the word space where the text would end
    have hnext : r.step (WordBreak.of c) (p ++ d :: rest).head? index saved skipped =
        r.step (WordBreak.of c) p.head? index saved skipped := by
      cases p with
      | cons c' p' => rfl
      | nil =>
        rw [List.nil_append, List.head?_cons, List.head?_nil]
        refine Reading.step_some (fun h => ?_) ?_ _ _ _ _ _
        · rw [h] at hdb
          exact absurd (wordBreak_newline_space.1.symm.trans hdb) (by decide)
        · rw [hdb]
          rfl
    rw [List.cons_append, firstLength, firstLength, hnext]
    by_cases hatt : (r != .start && (WordBreak.of c).isAttached) = true
    · rw [if_pos hatt, if_pos hatt]
      simp only [Bool.and_eq_true, bne_iff_ne, ne_eq] at hatt
      exact ih hp' _ _ _ _ _ hsp fun h => absurd h hatt.1
    rw [if_neg hatt, if_neg hatt]
    by_cases hemoji : (previous == .zwj && isEmoji c) = true
    · rw [if_pos hemoji, if_pos hemoji]
      exact ih hp' _ _ _ _ _ (by simp) (by simp)
    rw [if_neg hemoji, if_neg hemoji]
    split
    · rename_i r' saved' hstep
      obtain ⟨hstart', -, hspaces, -⟩ := Reading.step_go hstep
      refine ih hp' _ _ _ _ _ (fun h => ?_) (fun h => absurd h hstart')
      rw [← isWordSpace_iff, hc] at hspaces
      exact absurd (hspaces.1 h) Bool.false_ne_true
    · rfl

/-- A word space after a text without word spaces cuts the text's segments off. -/
theorem segments_append_space {d : Char} (hd : isWordSpace d = true) (rest : List Char) :
    ∀ p : List Char, p ≠ [] → (∀ c ∈ p, isWordSpace c = false) →
      segments (p ++ d :: rest) = segments p ++ segments (d :: rest) := by
  intro p
  induction p using segments.induct with
  | case1 => intro h; exact absurd rfl h
  | case2 c p ih =>
    intro _ hp
    have hlen : segmentLength ((c :: p) ++ d :: rest) = segmentLength (c :: p) := by
      unfold segmentLength
      rw [firstLength_append_space hd rest (c :: p) hp 0 .start .other 0 false (by simp)
        (fun _ => List.cons_ne_nil c p)]
    have hle := segmentLength_le c p
    rw [List.cons_append, segments_cons, ← List.cons_append, hlen, List.take_append_of_le_length hle,
      List.drop_append_of_le_length hle, segments_cons c p, List.cons_append]
    by_cases hdrop : (c :: p).drop (segmentLength (c :: p)) = []
    · rw [hdrop, List.nil_append, segments_eq_nil.2 rfl, List.nil_append]
    · rw [ih hdrop fun x hx => hp x (List.mem_of_mem_drop hx)]

/-- A word space before a character that is neither a word space nor carried is a segment of
its own. -/
theorem segments_space_cons {d c : Char} (hd : isWordSpace d = true) (hc : isWordSpace c = false)
    (ha : (WordBreak.of c).isAttached = false) (rest : List Char) :
    segments (d :: c :: rest) = [d] :: segments (c :: rest) := by
  have hdb : WordBreak.of d = .wSegSpace := (isWordSpace_iff d).1 hd
  have hcb : WordBreak.of c ≠ .wSegSpace := fun h => by
    rw [← isWordSpace_iff, hc] at h
    exact Bool.false_ne_true h
  -- spaces, then a character that is no space: the segment ends after the space
  have hfirst : firstLength (d :: c :: rest) 0 .start .other 0 false = 1 := by
    rw [firstLength_start_wordSpace hdb, firstLength, ha, Reading.step_spaces, if_neg hcb]
    simp
  rw [segments_cons, segmentLength, hfirst]
  rfl

/-- Texts without word spaces, none empty or starting with a carried character, joined by single
spaces, are cut text by text, with each space a segment between them. -/
theorem segments_intercalate (ws : List (List Char))
    (hws : ∀ w ∈ ws, w ≠ [] ∧ (∀ c ∈ w, isWordSpace c = false ∧
      (WordBreak.of c).isAttached = false)) :
    segments ([' '].intercalate ws) = [[' ']].intercalate (ws.map segments) := by
  have hspace : isWordSpace ' ' = true := (isWordSpace_iff ' ').2 wordBreak_newline_space.2
  induction ws with
  | nil => simp [segments]
  | cons w ws ih =>
    obtain ⟨hne, hw⟩ := hws w List.mem_cons_self
    have ih' := ih fun v hv => hws v (List.mem_cons_of_mem _ hv)
    cases ws with
    | nil => simp
    | cons w' ws =>
      obtain ⟨hne', hw'⟩ := hws w' (List.mem_cons_of_mem _ List.mem_cons_self)
      obtain ⟨c', v', rfl⟩ := List.exists_cons_of_ne_nil hne'
      obtain ⟨hc', ha'⟩ := hw' c' List.mem_cons_self
      rw [List.intercalate_cons_cons, List.append_assoc, List.singleton_append,
        segments_append_space hspace _ w hne (fun x hx => (hw x hx).1),
        List.intercalate_cons_cons_left, segments_space_cons hspace hc' ha',
        ← List.intercalate_cons_cons_left, ih']
      simp only [List.map_cons, List.intercalate_cons_cons, List.append_assoc,
        List.singleton_append]

/-! ## Words of texts without carried characters -/

theorem take_firstLength_spaces (rest read : List Char) (previous : WordBreak) (saved : Nat)
    (hread : ∀ c ∈ read, isWordSpace c = true)
    (hrest : ∀ c ∈ rest, (WordBreak.of c).isAttached = false) (hprev : previous ≠ .zwj) :
    ∀ c ∈ (read ++ rest).take (firstLength rest read.length .spaces previous saved false),
      isWordSpace c = true := by
  induction rest generalizing read previous with
  | nil =>
    rw [firstLength_nil, List.append_nil]
    simpa [Reading.pending] using hread
  | cons c rest ih =>
    have hc := hrest c List.mem_cons_self
    have hrest' : ∀ x ∈ rest, (WordBreak.of x).isAttached = false :=
      fun x hx => hrest x (List.mem_cons_of_mem _ hx)
    have hjoin : (previous == WordBreak.zwj) = false := beq_eq_false_iff_ne.2 hprev
    rw [firstLength, hc, Bool.and_false, if_neg Bool.false_ne_true, hjoin, Bool.false_and,
      if_neg Bool.false_ne_true, Reading.step_spaces]
    by_cases hsp : isWordSpace c = true
    · -- a word space: the spaces go on
      have hcb := (isWordSpace_iff c).1 hsp
      have hall : ∀ x ∈ read ++ [c], isWordSpace x = true := by
        intro x hx
        rcases List.mem_append.1 hx with hx | hx
        · exact hread x hx
        · rw [List.mem_singleton.1 hx]
          exact hsp
      have := ih (read ++ [c]) (WordBreak.of c) hall hrest' (by rw [hcb]; decide)
      rw [if_pos hcb]
      simpa using this
    · -- anything else ends the segment at the spaces read
      rw [if_neg fun h => hsp ((isWordSpace_iff c).2 h)]
      rw [List.take_append_of_le_length (Nat.le_refl _), List.take_length]
      exact hread

/-- In a text without carried characters, a segment that starts with a word space holds word
spaces only. -/
theorem spaces_of_mem_segments (cs : List Char)
    (hcs : ∀ c ∈ cs, (WordBreak.of c).isAttached = false) :
    ∀ p ∈ segments cs, ∀ d, p.head? = some d → isWordSpace d = true →
      ∀ c ∈ p, isWordSpace c = true := by
  induction cs using segments.induct with
  | case1 => simp [segments]
  | case2 c rest ih =>
    intro p hp d hd hsp
    rw [segments_cons] at hp
    rcases List.mem_cons.1 hp with hp | hp
    · -- the segment starts with `c`, a word space, and reads spaces after it
      have hpos : 1 ≤ segmentLength (c :: rest) := Nat.le_max_left _ _
      obtain ⟨k, hk⟩ : ∃ k, segmentLength (c :: rest) = k + 1 :=
        ⟨segmentLength (c :: rest) - 1, by omega⟩
      rw [hp, hk, List.take_succ_cons, List.head?_cons, Option.some.injEq] at hd
      rw [← hd] at hsp
      have hcb : WordBreak.of c = .wSegSpace := (isWordSpace_iff c).1 hsp
      have hfirst : firstLength (c :: rest) 0 .start .other 0 false =
          firstLength rest 1 .spaces .wSegSpace 0 false :=
        firstLength_start_wordSpace hcb rest 0 .other 0 false
      have hrun := take_firstLength_spaces rest [c] .wSegSpace 0 (by simpa using hsp)
        (fun x hx => hcs x (List.mem_cons_of_mem _ hx)) (by decide)
      rw [List.length_singleton, List.singleton_append, ← hfirst] at hrun
      intro x hx
      rw [hp] at hx
      by_cases hzero : firstLength (c :: rest) 0 .start .other 0 false = 0
      · rw [segmentLength, hzero] at hx
        simp only [Nat.zero_le, Nat.max_eq_left, List.take_succ_cons, List.take_zero,
          List.mem_singleton] at hx
        rw [hx]
        exact hsp
      · rw [segmentLength, Nat.max_eq_right (by omega)] at hx
        exact hrun x hx
    · exact ih (fun x hx => hcs x (List.mem_of_mem_drop hx)) p hp d hd hsp

/-- In a text without carried characters, a word holds no word space. -/
theorem noSpaces_of_word (cs : List Char) (hcs : ∀ c ∈ cs, (WordBreak.of c).isAttached = false)
    (w : List Char) (hw : w ∈ segments cs) (hword : Label.isWord w = true) :
    ∀ c ∈ w, isWordSpace c = false := by
  obtain ⟨s, n, rfl, hs, hn⟩ := spacesFirst_of_mem_segments cs _ hw
  cases s with
  | nil => simpa using hn
  | cons d s =>
    -- a word that starts with a word space would hold nothing but word spaces
    have hall := spaces_of_mem_segments cs hcs _ hw d rfl (hs d List.mem_cons_self)
    exfalso
    obtain ⟨x, hx, halpha⟩ := List.any_eq_true.1 hword
    rw [isAlphanumeric_of_wordSpace ((isWordSpace_iff x).1 (hall x hx))] at halpha
    exact Bool.false_ne_true halpha

end Thesaurus.Text
