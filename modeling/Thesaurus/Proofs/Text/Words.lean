import Mathlib
import Thesaurus.Label
import Thesaurus.Proofs.Unicode.Tables

/-!
Word counts of texts joined by spaces. A word segment has its word spaces in front: once the
reading of a segment has taken a character that is no word space, a word space ends the segment
(`spacesFirst_of_mem_segments`). So a text has at least as many words as it has runs between
word spaces that hold a letter or a number (`wordRuns_le_wordCount`). Joining texts with single
spaces adds up their runs (`wordRuns_intercalate`), and lowercasing keeps letters and numbers
(`lower_alphanumeric`). Hence texts that each hold a letter or a number, joined by spaces, have
at least as many words as there are texts (`length_le_wordCount_intercalate`), and the normal
form of a text has at least as many words as the text (`wordCount_le_normalize`).
-/

set_option autoImplicit false
set_option relaxedAutoImplicit false

namespace Thesaurus.Text

open Thesaurus.Unicode

/-- Whether a character separates words as a space (Word_Break class WSegSpace). -/
def isWordSpace (c : Char) : Bool :=
  WordBreak.of c == .wSegSpace

theorem isWordSpace_iff (c : Char) : isWordSpace c = true ↔ WordBreak.of c = .wSegSpace := by
  simp [isWordSpace]

theorem isWordSpace_of_alphanumeric {c : Char} (h : isAlphanumeric c = true) :
    isWordSpace c = false := by
  cases hs : isWordSpace c with
  | false => rfl
  | true => rw [isAlphanumeric_of_wordSpace ((isWordSpace_iff c).1 hs)] at h; cases h

theorem isWordSpace_of_attached {c : Char} (h : (WordBreak.of c).isAttached = true) :
    isWordSpace c = false := by
  cases hs : isWordSpace c with
  | false => rfl
  | true => rw [(isWordSpace_iff c).1 hs] at h; cases h

theorem isWordSpace_of_emoji {c : Char} (h : isEmoji c = true) : isWordSpace c = false := by
  cases hs : isWordSpace c with
  | false => rfl
  | true => rw [isEmoji_of_wordSpace ((isWordSpace_iff c).1 hs)] at h; cases h

/-! ## Segments have their word spaces in front -/

/-- A text whose word spaces all stand in front of its other characters. -/
def SpacesFirst (cs : List Char) : Prop :=
  ∃ s n, cs = s ++ n ∧ (∀ c ∈ s, isWordSpace c = true) ∧ ∀ c ∈ n, isWordSpace c = false

theorem SpacesFirst.of_spaces {cs : List Char} (h : ∀ c ∈ cs, isWordSpace c = true) :
    SpacesFirst cs :=
  ⟨cs, [], by simp, h, by simp⟩

theorem SpacesFirst.singleton (c : Char) : SpacesFirst [c] := by
  cases hc : isWordSpace c with
  | true => exact .of_spaces (by simpa using hc)
  | false => exact ⟨[], [c], rfl, by simp, by simpa using hc⟩

theorem SpacesFirst.append_other {cs : List Char} {c : Char} (h : SpacesFirst cs)
    (hc : isWordSpace c = false) : SpacesFirst (cs ++ [c]) := by
  obtain ⟨s, n, rfl, hs, hn⟩ := h
  refine ⟨s, n ++ [c], by simp, hs, fun x hx => ?_⟩
  rcases List.mem_append.1 hx with hx | hx
  · exact hn x hx
  · rw [List.mem_singleton.1 hx]
    exact hc

theorem SpacesFirst.take {cs : List Char} (h : SpacesFirst cs) (k : Nat) :
    SpacesFirst (cs.take k) := by
  obtain ⟨s, n, rfl, hs, hn⟩ := h
  refine ⟨s.take k, n.take (k - s.length), List.take_append, fun c hc => hs c (List.mem_of_mem_take hc),
    fun c hc => hn c (List.mem_of_mem_take hc)⟩

theorem Reading.step_go {r r' : Reading} {b : WordBreak} {following : Option Char}
    {index saved saved' : Nat} {skipped : Bool}
    (h : r.step b following index saved skipped = .go r' saved') :
    r' ≠ .start ∧ (saved' = saved ∨ saved' = index) ∧ (r' = .spaces ↔ b = .wSegSpace) ∧
      (b = .wSegSpace → r = .start ∨ (r = .spaces ∧ skipped = false)) := by
  revert h
  fun_cases Reading.step r b following index saved skipped
  all_goals intro h; cases h <;> simp_all

theorem Reading.step_stop {r : Reading} {b : WordBreak} {following : Option Char}
    {index saved n : Nat} {skipped : Bool}
    (h : r.step b following index saved skipped = .stop n) :
    n = index ∨ n = saved ∨
      (r = .start ∧ (n = index + 1 ∨ (b = .cr ∧ following = some '\n' ∧ n = index + 2))) := by
  revert h
  fun_cases Reading.step r b following index saved skipped
  all_goals intro h; cases h <;> grind

/-- What the reading of a segment keeps of the characters it has taken: none at the start, only
word spaces while it reads spaces with nothing carried, and word spaces in front throughout. -/
structure Taken (r : Reading) (skipped : Bool) (read : List Char) : Prop where
  start : r = .start → read = []
  spaces : r = .spaces → skipped = false → ∀ c ∈ read, isWordSpace c = true
  spacesFirst : SpacesFirst read

theorem Taken.all_spaces {r : Reading} {skipped : Bool} {read : List Char} (h : Taken r skipped read)
    (hr : r = .start ∨ (r = .spaces ∧ skipped = false)) : ∀ c ∈ read, isWordSpace c = true := by
  rcases hr with hr | ⟨hr, hs⟩
  · simp [h.start hr]
  · exact h.spaces hr hs

theorem Taken.other {r r' : Reading} {skipped skipped' : Bool} {read : List Char} {c : Char}
    (h : Taken r skipped read) (hc : isWordSpace c = false) (hr' : r' ≠ .start)
    (hspaces : r' = .spaces → skipped' = true) : Taken r' skipped' (read ++ [c]) where
  start := fun h' => absurd h' hr'
  spaces := fun h1 h2 => by simp [hspaces h1] at h2
  spacesFirst := h.spacesFirst.append_other hc

theorem firstLength_spacesFirst (rest read : List Char) (r : Reading) (previous : WordBreak)
    (saved : Nat) (skipped : Bool) (hsaved : saved ≤ read.length) (h : Taken r skipped read) :
    SpacesFirst ((read ++ rest).take (firstLength rest read.length r previous saved skipped)) := by
  induction rest generalizing read r previous saved skipped with
  | nil =>
    -- the text ends: the segment is what was taken, or falls back into it
    have hend : firstLength [] read.length r previous saved skipped = read.length ∨
        firstLength [] read.length r previous saved skipped = saved := by
      unfold firstLength
      split
      · split
        · exact .inr rfl
        · exact .inl rfl
      · exact .inl rfl
    rw [List.append_nil]
    rcases hend with hend | hend <;> rw [hend] <;> exact h.spacesFirst.take _
  | cons c rest ih =>
    -- the reading goes on with one more character taken
    have hnext : ∀ r' skipped' saved', saved' ≤ read.length + 1 → Taken r' skipped' (read ++ [c]) →
        SpacesFirst ((read ++ c :: rest).take
          (firstLength rest (read.length + 1) r' (WordBreak.of c) saved' skipped')) := by
      intro r' skipped' saved' hsaved' h'
      have := ih (read ++ [c]) r' (WordBreak.of c) saved' skipped' (by simpa using hsaved') h'
      simpa using this
    rw [firstLength]
    split
    · -- a carried character is no word space
      rename_i hcarried
      simp only [Bool.and_eq_true, bne_iff_ne, ne_eq] at hcarried
      exact hnext r true saved (by omega)
        (h.other (isWordSpace_of_attached hcarried.2) hcarried.1 fun _ => rfl)
    split
    · -- an emoji after a joiner is no word space
      rename_i hemoji
      simp only [Bool.and_eq_true, beq_iff_eq] at hemoji
      exact hnext .emoji skipped saved (by omega)
        (h.other (isWordSpace_of_emoji hemoji.2) (by simp) (by simp))
    split
    · rename_i r' saved' hstep
      obtain ⟨hstart, hsaved', hspaces, hfrom⟩ := Reading.step_go hstep
      refine hnext r' skipped saved' (by omega) ?_
      cases hc : isWordSpace c with
      | false =>
        -- no word space, so not spaces
        refine h.other hc hstart fun hr' => ?_
        have := (isWordSpace_iff c).2 (hspaces.1 hr')
        simp [hc] at this
      | true =>
        -- a word space goes on only from what was all word spaces, to spaces
        have hprev := h.all_spaces (hfrom ((isWordSpace_iff c).1 hc))
        have hall : ∀ x ∈ read ++ [c], isWordSpace x = true := by
          intro x hx
          rcases List.mem_append.1 hx with hx | hx
          · exact hprev x hx
          · rw [List.mem_singleton.1 hx]
            exact hc
        exact ⟨fun h' => absurd h' hstart, fun _ _ => hall, .of_spaces hall⟩
    · rename_i n hstep
      rcases Reading.step_stop hstep with rfl | rfl | ⟨hr, rfl | ⟨hcr, hlf, rfl⟩⟩
      · simpa using h.spacesFirst
      · rw [List.take_append_of_le_length hsaved]
        exact h.spacesFirst.take _
      · rw [h.start hr]
        exact .singleton c
      · -- a carriage return and a line feed
        obtain ⟨tail, rfl⟩ := List.head?_eq_some_iff.1 hlf
        have hc : isWordSpace c = false := by simp [isWordSpace, hcr]
        have hlf' : isWordSpace '\n' = false := by decide +kernel
        rw [h.start hr]
        exact ⟨[], [c, '\n'], rfl, by simp, by simp [hc, hlf']⟩

/-- Every word segment of a text has its word spaces in front. -/
theorem spacesFirst_of_mem_segments (cs : List Char) : ∀ p ∈ segments cs, SpacesFirst p := by
  induction cs using segments.induct with
  | case1 => simp [segments]
  | case2 c rest ih =>
    rw [segments]
    intro p hp
    rcases List.mem_cons.1 hp with hp | hp
    · -- the first segment: the reading's segment, or its first character
      rw [hp, segmentLength]
      by_cases hzero : firstLength (c :: rest) 0 .start .other 0 false = 0
      · rw [hzero]
        exact .singleton c
      · rw [Nat.max_eq_right (by omega)]
        simpa using firstLength_spacesFirst (c :: rest) [] .start .other 0 false (Nat.le_refl 0)
          ⟨fun _ => rfl, by simp, ⟨[], [], rfl, by simp, by simp⟩⟩
    · exact ih p hp

/-! ## Runs between word spaces -/

/-- The number of runs of characters between word spaces that hold a letter or a number;
`seen` is whether the run in progress already holds one. -/
def wordRuns : Bool → List Char → Nat
  | _, [] => 0
  | seen, c :: cs =>
    if isWordSpace c then wordRuns false cs
    else if !seen && isAlphanumeric c then wordRuns true cs + 1
    else wordRuns seen cs

theorem wordRuns_append_others (seen : Bool) (n rest : List Char)
    (hn : ∀ c ∈ n, isWordSpace c = false) :
    wordRuns seen (n ++ rest) =
      (if !seen && n.any isAlphanumeric then 1 else 0) + wordRuns (seen || n.any isAlphanumeric) rest := by
  induction n generalizing seen with
  | nil => simp
  | cons c n ih =>
    rw [List.cons_append, wordRuns, if_neg (by simp [hn c List.mem_cons_self]),
      List.any_cons]
    have hn' : ∀ x ∈ n, isWordSpace x = false := fun x hx => hn x (List.mem_cons_of_mem _ hx)
    cases seen <;> cases hc : isAlphanumeric c <;> simp [ih _ hn']
    omega

theorem wordRuns_append_spaces (seen : Bool) (s rest : List Char)
    (hs : ∀ c ∈ s, isWordSpace c = true) (hne : s ≠ []) :
    wordRuns seen (s ++ rest) = wordRuns false rest := by
  induction s generalizing seen with
  | nil => exact absurd rfl hne
  | cons c s ih =>
    rw [List.cons_append, wordRuns, if_pos (hs c List.mem_cons_self)]
    cases s with
    | nil => rfl
    | cons d s => exact ih false (fun x hx => hs x (List.mem_cons_of_mem _ hx)) (List.cons_ne_nil d s)

theorem wordRuns_append_spacesFirst (seen : Bool) {p : List Char} (hp : SpacesFirst p)
    (rest : List Char) :
    ∃ seen', wordRuns seen (p ++ rest) ≤ (if Label.isWord p then 1 else 0) + wordRuns seen' rest := by
  obtain ⟨s, n, rfl, hs, hn⟩ := hp
  -- after the spaces the run in progress is new, unless there were none
  have hspaces : ∃ seen₀, wordRuns seen (s ++ n ++ rest) = wordRuns seen₀ (n ++ rest) := by
    cases s with
    | nil => exact ⟨seen, rfl⟩
    | cons c s => exact ⟨false, by rw [List.append_assoc, wordRuns_append_spaces _ _ _ hs (List.cons_ne_nil c s)]⟩
  obtain ⟨seen₀, heq⟩ := hspaces
  refine ⟨seen₀ || n.any isAlphanumeric, ?_⟩
  rw [heq, wordRuns_append_others _ _ _ hn]
  have hword : n.any isAlphanumeric = true → Label.isWord (s ++ n) = true := by
    intro h
    simp only [Label.isWord, List.any_append, h, Bool.or_true]
  cases hany : n.any isAlphanumeric
  · simp
  · cases seen₀ <;> simp [hword hany]

theorem wordRuns_flatten_le (L : List (List Char)) (hL : ∀ p ∈ L, SpacesFirst p) (seen : Bool) :
    wordRuns seen L.flatten ≤ (L.filter Label.isWord).length := by
  induction L generalizing seen with
  | nil => simp [wordRuns]
  | cons p L ih =>
    obtain ⟨seen', hle⟩ := wordRuns_append_spacesFirst seen (hL p List.mem_cons_self) L.flatten
    have := ih (fun q hq => hL q (List.mem_cons_of_mem _ hq)) seen'
    rw [List.flatten_cons]
    cases hw : Label.isWord p <;> simp [hw] at hle ⊢ <;> omega

/-- A text has at least as many words as runs between word spaces that hold a letter or a
number. -/
theorem wordRuns_le_wordCount (s : String) : wordRuns false s.toList ≤ Label.wordCount s := by
  have h := wordRuns_flatten_le (segments s.toList) (spacesFirst_of_mem_segments _) false
  rwa [join_segments] at h

theorem wordRuns_append_space (seen : Bool) (w rest : List Char) {d : Char}
    (hd : isWordSpace d = true) :
    wordRuns seen (w ++ d :: rest) = wordRuns seen w + wordRuns false rest := by
  induction w generalizing seen with
  | nil => simp [wordRuns, hd]
  | cons c w ih =>
    rw [List.cons_append, wordRuns, wordRuns]
    split
    · exact ih false
    · split
      · rw [ih true]
        omega
      · exact ih seen

/-- Texts joined by single spaces have the runs of the texts. -/
theorem wordRuns_intercalate (ws : List (List Char)) :
    wordRuns false ([' '].intercalate ws) = (ws.map (wordRuns false)).sum := by
  have hspace : isWordSpace ' ' = true := by decide +kernel
  induction ws with
  | nil => rfl
  | cons w ws ih =>
    cases ws with
    | nil => simp
    | cons w' ws =>
      rw [List.intercalate_cons_cons, List.append_assoc, List.singleton_append,
        wordRuns_append_space false w _ hspace, ih, List.map_cons, List.sum_cons]
      rfl

theorem one_le_wordRuns {w : List Char} (h : w.any isAlphanumeric = true) : 1 ≤ wordRuns false w := by
  induction w with
  | nil => cases h
  | cons c w ih =>
    rw [wordRuns]
    cases hc : isAlphanumeric c with
    | true => simp [isWordSpace_of_alphanumeric hc]
    | false =>
      have hw : w.any isAlphanumeric = true := by simpa [hc] using h
      split
      · exact ih hw
      · simpa [hc] using ih hw

theorem length_le_sum_wordRuns (ws : List (List Char)) (h : ∀ w ∈ ws, w.any isAlphanumeric = true) :
    ws.length ≤ (ws.map (wordRuns false)).sum := by
  induction ws with
  | nil => simp
  | cons w ws ih =>
    have hw := one_le_wordRuns (h w List.mem_cons_self)
    have hws := ih fun x hx => h x (List.mem_cons_of_mem _ hx)
    simp only [List.length_cons, List.map_cons, List.sum_cons]
    omega

/-- Texts that each hold a letter or a number, joined by single spaces, have at least as many
words as there are texts. -/
theorem length_le_wordCount_intercalate (ws : List (List Char))
    (h : ∀ w ∈ ws, w.any isAlphanumeric = true) :
    ws.length ≤ Label.wordCount (" ".intercalate (ws.map String.ofList)) := by
  have htext : (" ".intercalate (ws.map String.ofList)).toList = [' '].intercalate ws := by
    simp [String.toList_intercalate, List.map_map, Function.comp_def]
  calc ws.length ≤ (ws.map (wordRuns false)).sum := length_le_sum_wordRuns ws h
    _ = wordRuns false (" ".intercalate (ws.map String.ofList)).toList := by
      rw [htext, wordRuns_intercalate]
    _ ≤ _ := wordRuns_le_wordCount _

/-! ## Lowercasing and the normal form -/

theorem lowerFrom_alphanumeric (before w : List Char) (h : w.any isAlphanumeric = true) :
    (lowerFrom before w).any isAlphanumeric = true := by
  induction w generalizing before with
  | nil => cases h
  | cons c w ih =>
    rw [lowerFrom, List.any_append]
    cases hc : isAlphanumeric c with
    | true =>
      -- the character's own lowercase form holds one; both forms of sigma are letters
      have hsigma : isAlphanumeric 'ς' = true ∧ isAlphanumeric 'σ' = true := by decide +kernel
      have hown : (if c = 'Σ' then [sigmaBetween before w] else lowerOf c).any isAlphanumeric =
          true := by
        split
        · unfold sigmaBetween
          split <;> simp [hsigma]
        · exact lowerOf_alphanumeric hc
      rw [hown, Bool.true_or]
    | false =>
      have hw : w.any isAlphanumeric = true := by simpa [hc] using h
      rw [ih _ hw, Bool.or_true]

/-- Lowercasing keeps a letter or a number. -/
theorem lower_alphanumeric {w : List Char} (h : w.any isAlphanumeric = true) :
    (lower w).any isAlphanumeric = true :=
  lowerFrom_alphanumeric [] w h

/-- The normal form of a text has at least as many words as the text. -/
theorem wordCount_le_normalize (s : String) :
    Label.wordCount s ≤ Label.wordCount (Label.normalize s) := by
  -- the normal form joins the lowered words, and each still holds a letter or a number
  have hwords : ∀ w ∈ (Label.words s).map lower, w.any isAlphanumeric = true := by
    intro w hw
    obtain ⟨v, hv, rfl⟩ := List.mem_map.1 hw
    exact lower_alphanumeric (List.of_mem_filter (p := Label.isWord) hv)
  have h := length_le_wordCount_intercalate _ hwords
  rw [List.map_map, List.length_map] at h
  exact h

end Thesaurus.Text
