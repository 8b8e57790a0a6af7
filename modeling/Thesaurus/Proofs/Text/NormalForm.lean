import Thesaurus.Proofs.Text.Resegment

/-!
The normal form read again. Lowercasing keeps each character's word-break class, so a word and
its lowercase form are cut alike; lowercasing twice changes nothing, as no lowercase form is a
capital sigma, the one character lowered by its context. The dotted capital I is left out
throughout: its lowercase form is two characters.

When no character of a text is carried along with the one before it, the words of its normal
form are its lowercased words (`words_normalize`), so the normal form is its own normal form
(`normalize_normalize`). When the text holds no joiner and no capital sigma, lowercasing it
first is lowercasing it character by character, which changes neither its segments nor its
words' lowercase forms (`normalize_lowerString`).

Outside these texts both fail. A combining mark after a space is carried with the space, so the
space is part of a word, and normalizing "a" and U+0345 after a space gives two spaces before the
mark, then three. A capital sigma that ends a word is final when the word is lowercased alone,
but not when a modifier and a capital letter follow it in the whole text: "ΑΣ^Β" normalizes to
"ας β", its lowercase form to "ασ β".
-/

set_option autoImplicit false
set_option relaxedAutoImplicit false

namespace Thesaurus.Text

open Thesaurus.Unicode

/-! ## Lowercasing character by character -/

/-- The lowercase form of a character whose lowercase form is one character. -/
def lowerChar (c : Char) : Char :=
  (lowerOf c).headD c

theorem toNat_ne_of_ne_dotted {c : Char} (hdot : c ≠ 'İ') : c.toNat ≠ 0x130 := fun h =>
  hdot (Char.toNat_inj.1 (h.trans rfl))

theorem lowerChar_spec {c : Char} (hdot : c ≠ 'İ') :
    lowerOf c = [lowerChar c] ∧ WordBreak.of (lowerChar c) = WordBreak.of c ∧
      isAlphanumeric (lowerChar c) = isAlphanumeric c ∧ lowerOf (lowerChar c) = [lowerChar c] := by
  obtain ⟨d, hd, hclass, halpha, hfix⟩ := lowerOf_spec c (toNat_ne_of_ne_dotted hdot)
  have hchar : lowerChar c = d := by simp [lowerChar, hd]
  rw [hchar]
  exact ⟨hd, hclass, halpha, hfix⟩

theorem ne_sigma_of_lowerOf {d : Char} (h : lowerOf d = [d]) : d ≠ 'Σ' := by
  rintro rfl
  rw [lowerOf_sigmas.1] at h
  exact absurd h (by decide)

theorem sigmaBetween_spec (before after : List Char) :
    WordBreak.of (sigmaBetween before after) = WordBreak.of 'Σ' ∧
      lowerOf (sigmaBetween before after) = [sigmaBetween before after] := by
  obtain ⟨-, hsmall, hfinal, hsmall', hfinal'⟩ := lowerOf_sigmas
  unfold sigmaBetween
  split
  · exact ⟨hfinal', hfinal⟩
  · exact ⟨hsmall', hsmall⟩

theorem lowerFrom_alike (before w : List Char) (hdot : 'İ' ∉ w) : Alike w (lowerFrom before w) := by
  induction w generalizing before with
  | nil => exact .nil
  | cons c w ih =>
    have hc : c ≠ 'İ' := (List.ne_of_not_mem_cons hdot).symm
    have hw : 'İ' ∉ w := List.not_mem_of_not_mem_cons hdot
    rw [lowerFrom]
    split
    · rename_i hsigma
      rw [hsigma]
      exact .cons (sigmaBetween_spec before w).1.symm (hsigma ▸ ih (c :: before) hw)
    · rw [(lowerChar_spec hc).1]
      exact .cons (lowerChar_spec hc).2.1.symm (ih (c :: before) hw)

theorem lowerFrom_fixed (before w : List Char) (hdot : 'İ' ∉ w) :
    ∀ d ∈ lowerFrom before w, lowerOf d = [d] := by
  induction w generalizing before with
  | nil => simp [lowerFrom]
  | cons c w ih =>
    have hc : c ≠ 'İ' := (List.ne_of_not_mem_cons hdot).symm
    have hw : 'İ' ∉ w := List.not_mem_of_not_mem_cons hdot
    intro d hd
    rw [lowerFrom, List.mem_append] at hd
    rcases hd with hd | hd
    · split at hd
      · rw [List.mem_singleton.1 hd]
        exact (sigmaBetween_spec before w).2
      · rw [(lowerChar_spec hc).1, List.mem_singleton] at hd
        rw [hd]
        exact (lowerChar_spec hc).2.2.2
    · exact ih (c :: before) hw d hd

theorem lowerFrom_of_fixed (before cs : List Char) (h : ∀ d ∈ cs, lowerOf d = [d]) :
    lowerFrom before cs = cs := by
  induction cs generalizing before with
  | nil => rfl
  | cons d cs ih =>
    have hd := h d List.mem_cons_self
    rw [lowerFrom, if_neg (ne_sigma_of_lowerOf hd), hd,
      ih (d :: before) fun x hx => h x (List.mem_cons_of_mem _ hx)]
    rfl

/-- Lowercasing twice is lowercasing once. -/
theorem lower_lower (w : List Char) (hdot : 'İ' ∉ w) : lower (lower w) = lower w :=
  lowerFrom_of_fixed [] _ (lowerFrom_fixed [] w hdot)

theorem lowerFrom_eq_map (before w : List Char) (hdot : 'İ' ∉ w) (hsigma : 'Σ' ∉ w) :
    lowerFrom before w = w.map lowerChar := by
  induction w generalizing before with
  | nil => rfl
  | cons c w ih =>
    have hc : c ≠ 'İ' := (List.ne_of_not_mem_cons hdot).symm
    have hs : c ≠ 'Σ' := (List.ne_of_not_mem_cons hsigma).symm
    rw [lowerFrom, if_neg hs, (lowerChar_spec hc).1,
      ih (c :: before) (List.not_mem_of_not_mem_cons hdot) (List.not_mem_of_not_mem_cons hsigma)]
    rfl

/-! ## Words of the normal form -/

theorem filter_intercalate_singletons {α : Type} (p : List α → Bool) (sep : List α)
    (hsep : p sep = false) (L : List (List α)) (hL : ∀ v ∈ L, p v = true) :
    ([sep].intercalate (L.map fun v => [v])).filter p = L := by
  induction L with
  | nil => rfl
  | cons v L ih =>
    have hv := hL v List.mem_cons_self
    have ih' := ih fun u hu => hL u (List.mem_cons_of_mem _ hu)
    cases L with
    | nil => simp [hv]
    | cons u L =>
      rw [List.map_cons, List.intercalate_cons_of_ne_nil (by simp), List.filter_append,
        List.filter_append, ih']
      simp [hv, hsep]

theorem mem_of_mem_segments {cs w : List Char} (hw : w ∈ segments cs) {c : Char} (hc : c ∈ w) :
    c ∈ cs :=
  join_segments cs ▸ List.mem_flatten.2 ⟨w, hw, hc⟩

theorem mem_of_mem_words {x : String} {w : List Char} (hw : w ∈ Label.words x) {c : Char}
    (hc : c ∈ w) : c ∈ x.toList :=
  mem_of_mem_segments (List.mem_filter.1 hw).1 hc

section Unmarked

variable (x : String) (hmark : ∀ c ∈ x.toList, (WordBreak.of c).isAttached = false)
  (hdot : 'İ' ∉ x.toList)

include hmark hdot in
theorem lower_word {w : List Char} (hw : w ∈ Label.words x) :
    lower w ≠ [] ∧ segments (lower w) = [lower w] ∧
      ∀ c ∈ lower w, isWordSpace c = false ∧ (WordBreak.of c).isAttached = false := by
  obtain ⟨hseg, hword⟩ := List.mem_filter.1 hw
  have halike := lowerFrom_alike [] w fun h => hdot (mem_of_mem_words hw h)
  have hspaces := noSpaces_of_word x.toList hmark w hseg hword
  refine ⟨fun h => ?_, segments_single_of_alike (segments_single _ w hseg) halike
    fun c hc hz => ?_, fun d hd => ?_⟩
  · -- a word holds a letter or a number, and so does its lowercase form
    have := lower_alphanumeric hword
    rw [h] at this
    exact Bool.false_ne_true this
  · have := hmark c (mem_of_mem_words hw hc)
    rw [hz] at this
    exact Bool.false_ne_true this.symm
  · -- each character of the lowercase form has the class of a character of the word
    obtain ⟨c, hc, hcd⟩ := halike.exists_mem_right d hd
    refine ⟨?_, ?_⟩
    · unfold isWordSpace
      rw [← hcd]
      exact hspaces c hc
    · rw [← hcd]
      exact hmark c (mem_of_mem_words hw hc)

include hmark hdot in
/-- The normal form of a text without carried characters is cut into its lowercased words,
with a space between each two. -/
theorem segments_normalize :
    segments (Label.normalize x).toList =
      [[' ']].intercalate (((Label.words x).map lower).map fun v => [v]) := by
  have htext : (Label.normalize x).toList = [' '].intercalate ((Label.words x).map lower) := by
    simp [Label.normalize, String.toList_intercalate, List.map_map, Function.comp_def]
  rw [htext, segments_intercalate]
  · congr 1
    refine List.map_congr_left fun v hv => ?_
    obtain ⟨w, hw, rfl⟩ := List.mem_map.1 hv
    exact (lower_word x hmark hdot hw).2.1
  · intro v hv
    obtain ⟨w, hw, rfl⟩ := List.mem_map.1 hv
    exact ⟨(lower_word x hmark hdot hw).1, (lower_word x hmark hdot hw).2.2⟩

include hmark hdot in
/-- The words of the normal form of a text without carried characters are its lowercased
words. -/
theorem words_normalize : Label.words (Label.normalize x) = (Label.words x).map lower := by
  rw [Label.words, segments_normalize x hmark hdot]
  refine filter_intercalate_singletons Label.isWord [' ']
    (by simp [Label.isWord, isAlphanumeric_of_wordSpace wordBreak_newline_space.2]) _ fun v hv => ?_
  obtain ⟨w, hw, rfl⟩ := List.mem_map.1 hv
  exact lower_alphanumeric (List.mem_filter.1 hw).2

end Unmarked

/-- A text without carried characters and without the dotted capital I has its normal form as
the normal form of its normal form. -/
theorem normalize_normalize (x : String)
    (hmark : ∀ c ∈ x.toList, (WordBreak.of c).isAttached = false) (hdot : 'İ' ∉ x.toList) :
    Label.normalize (Label.normalize x) = Label.normalize x := by
  rw [Label.normalize.eq_1 (Label.normalize x), words_normalize x hmark hdot, List.map_map,
    Label.normalize.eq_1 x]
  congr 1
  refine List.map_congr_left fun w hw => ?_
  rw [Function.comp_apply, lower_lower w fun h => hdot (mem_of_mem_words hw h)]

theorem normalize_normalize_hyphenated :
    Label.normalize (Label.normalize "New-York  City") = Label.normalize "New-York  City" := by
  have h : ("New-York  City".toList.all fun c => !(WordBreak.of c).isAttached && c != 'İ') =
      true := by
    decide +kernel
  simp only [List.all_eq_true, Bool.and_eq_true, Bool.not_eq_true', bne_iff_ne, ne_eq] at h
  exact normalize_normalize _ (fun c hc => (h c hc).1) (fun hc => (h _ hc).2 rfl)

/-! ## Lowercasing before normalizing -/

section Plain

variable (x : String) (hjoin : ∀ c ∈ x.toList, WordBreak.of c ≠ .zwj) (hdot : 'İ' ∉ x.toList)
  (hsigma : 'Σ' ∉ x.toList)

include hjoin hdot hsigma in
theorem segments_lowerString :
    segments (lowerString x).toList = (segments x.toList).map (List.map lowerChar) := by
  have hc : ∀ c ∈ x.toList, c ≠ 'İ' := fun c hc h => hdot (h ▸ hc)
  rw [lowerString, String.toList_ofList, lower, lowerFrom_eq_map [] _ hdot hsigma]
  exact segments_map lowerChar _ (fun c h => (lowerChar_spec (hc c h)).2.1) hjoin

include hjoin hdot hsigma in
/-- Lowercasing a text without joiners, capital sigmas or dotted capital I lowercases each of its
words, and makes no word of a segment that was none. -/
theorem words_lowerString :
    Label.words (lowerString x) = (Label.words x).map (List.map lowerChar) := by
  rw [Label.words, Label.words, segments_lowerString x hjoin hdot hsigma, List.filter_map]
  congr 1
  refine List.filter_congr fun w hw => ?_
  -- lowercasing keeps letters and numbers
  have halpha : ∀ c ∈ w, isAlphanumeric (lowerChar c) = isAlphanumeric c := fun c hc =>
    (lowerChar_spec fun h => hdot (h ▸ mem_of_mem_segments hw hc)).2.2.1
  rw [Function.comp_apply, Label.isWord, Label.isWord, List.any_map, Bool.eq_iff_iff,
    List.any_eq_true, List.any_eq_true]
  exact exists_congr fun c => and_congr_right fun hc => by rw [Function.comp_apply, halpha c hc]

end Plain

/-- Lowercasing a text without joiners, capital sigmas or dotted capital I does not change its
normal form. -/
theorem normalize_lowerString (x : String) (hjoin : ∀ c ∈ x.toList, WordBreak.of c ≠ .zwj)
    (hdot : 'İ' ∉ x.toList) (hsigma : 'Σ' ∉ x.toList) :
    Label.normalize (lowerString x) = Label.normalize x := by
  rw [Label.normalize.eq_1 (lowerString x), words_lowerString x hjoin hdot hsigma, List.map_map,
    Label.normalize.eq_1 x]
  congr 1
  refine List.map_congr_left fun w hw => ?_
  have hdotw : 'İ' ∉ w := fun h => hdot (mem_of_mem_words hw h)
  -- the word lowercased by characters is its own lowercase form
  have hfix : ∀ d ∈ w.map lowerChar, lowerOf d = [d] := by
    intro d hd
    obtain ⟨c, hc, rfl⟩ := List.mem_map.1 hd
    exact (lowerChar_spec fun h => hdotw (h ▸ hc)).2.2.2
  rw [Function.comp_apply, lower, lower, lowerFrom_of_fixed [] _ hfix,
    lowerFrom_eq_map [] w hdotw fun h => hsigma (mem_of_mem_words hw h)]

theorem normalize_lowerString_german :
    Label.normalize (lowerString "Straße ÄPFEL") = Label.normalize "Straße ÄPFEL" := by
  have h : ("Straße ÄPFEL".toList.all fun c =>
      WordBreak.of c != .zwj && c != 'İ' && c != 'Σ') = true := by
    decide +kernel
  simp only [List.all_eq_true, Bool.and_eq_true, bne_iff_ne, ne_eq] at h
  exact normalize_lowerString _ (fun c hc => (h c hc).1.1) (fun hc => (h _ hc).1.2 rfl)
    (fun hc => (h _ hc).2 rfl)

end Thesaurus.Text
