import Mathlib.Data.List.Basic
import Thesaurus.Unicode.WordBreak
import Thesaurus.Unicode.Emoji
import Thesaurus.Unicode.Alphanumeric
import Thesaurus.Unicode.Casing

/-!
Looking code points up in the Unicode tables. `Span.seek` halves its interval towards the place
where the ranges stop ending below the code point, and stops there (`seek_spec`); so the entry
`Span.find?` returns holds the code point (`find?_holds`), and on a table of ranges in
increasing order it finds the entry that holds the code point whenever one does
(`find?_of_holds`).

Read off the tables themselves: word spaces are neither letters nor numbers nor emoji
(`isAlphanumeric_of_wordSpace`, `isEmoji_of_wordSpace`), and the lowercase form of a letter or
a number holds a letter or a number (`lowerOf_alphanumeric`).
-/

set_option autoImplicit false
set_option relaxedAutoImplicit false

namespace Thesaurus.Unicode

namespace Span

/-- Two ranges in increasing order, neither empty: the first ends before the second starts. -/
def Precedes (a b : Span) : Prop :=
  a.lo ≤ a.hi ∧ a.hi < b.lo ∧ b.lo ≤ b.hi

instance : DecidableRel Precedes := fun _ _ => inferInstanceAs (Decidable (_ ∧ _ ∧ _))

theorem Precedes.trans {a b c : Span} (hab : Precedes a b) (hbc : Precedes b c) : Precedes a c :=
  ⟨hab.1, by have := hab.2.1; have := hbc.2.1; have := hbc.1; omega, hbc.2.2⟩

instance : Trans Precedes Precedes Precedes := ⟨Precedes.trans⟩

/-- Whether two ranges share no code point. -/
def apart (a b : Span) : Bool :=
  Nat.blt a.hi b.lo || Nat.blt b.hi a.lo

theorem holds_iff (s : Span) (c : Nat) : s.holds c = true ↔ s.lo ≤ c ∧ c ≤ s.hi := by
  simp [holds]

theorem not_holds_of_apart {a b : Span} {c : Nat} (h : apart a b = true) (ha : a.holds c = true) :
    b.holds c = false := by
  simp only [apart, Bool.or_eq_true, Nat.blt_eq] at h
  rw [holds_iff] at ha
  simp only [holds, Bool.and_eq_false_iff, decide_eq_false_iff_not, Nat.not_le]
  omega

section Seek

variable {α : Type} (t : Array α) (span : α → Span) (c : Nat)

/-- The search stops at a boundary of its interval: the entry before the stop, if inside the
interval, ends below `c`, and the entry at the stop, if inside the interval, ends at or above
`c`. -/
theorem seek_spec (lo hi : Nat) (hle : lo ≤ hi) (hsize : hi ≤ t.size) :
    lo ≤ seek t span c lo hi ∧ seek t span c lo hi ≤ hi ∧
      (lo < seek t span c lo hi → ∀ e, t[seek t span c lo hi - 1]? = some e → (span e).hi < c) ∧
      (seek t span c lo hi < hi → ∀ e, t[seek t span c lo hi]? = some e → c ≤ (span e).hi) := by
  fun_induction seek t span c lo hi with
  | case1 lo hi hlt mid e hmid hbelow ih =>
    -- the entry at the middle ends below `c`: the search goes on to its right
    obtain ⟨h1, h2, h3, h4⟩ := ih (by omega) hsize
    refine ⟨by omega, h2, fun _ e' he' => ?_, h4⟩
    by_cases hstop : mid + 1 < seek t span c (mid + 1) hi
    · exact h3 hstop e' he'
    · rw [show seek t span c (mid + 1) hi = mid + 1 by omega, Nat.add_sub_cancel, hmid] at he'
      cases he'
      exact hbelow
  | case2 lo hi hlt mid e hmid habove ih =>
    -- the entry at the middle ends at or above `c`: the search goes on to its left
    obtain ⟨h1, h2, h3, h4⟩ := ih (by omega) (by omega)
    refine ⟨h1, by omega, h3, fun _ e' he' => ?_⟩
    by_cases hstop : seek t span c lo mid < mid
    · exact h4 hstop e' he'
    · rw [show seek t span c lo mid = mid by omega, hmid] at he'
      cases he'
      omega
  | case3 lo hi hlt mid hmid =>
    have := Array.getElem?_eq_none_iff.1 hmid
    omega
  | case4 lo hi hge => exact ⟨Nat.le_refl lo, hle, by omega, by omega⟩

/-- An entry the search finds is an entry of the table, and it holds `c`. -/
theorem find?_holds {e : α} (h : find? t span c = some e) : e ∈ t ∧ (span e).holds c = true := by
  unfold find? at h
  split at h
  · rename_i e' he'
    split at h
    · cases h
      exact ⟨Array.mem_of_getElem? he', by assumption⟩
    · cases h
  · cases h

/-- On a table of ranges in increasing order, the search finds the entry that holds `c`. -/
theorem find?_of_holds (hsorted : (t.toList.map span).IsChain Precedes) {k : Nat}
    (hk : k < t.size) (hc : (span t[k]).holds c = true) : find? t span c = some t[k] := by
  have hpair : ∀ i j (hij : i < j) (hj : j < t.size), Precedes (span t[i]) (span t[j]) := by
    intro i j hij hj
    have h := List.pairwise_iff_getElem.1 (List.isChain_iff_pairwise.1 hsorted) i j
      (by simp; omega) (by simpa using hj) hij
    simpa using h
  obtain ⟨h1, h2, h3, h4⟩ := seek_spec t span c 0 t.size (Nat.zero_le _) (Nat.le_refl _)
  rw [holds_iff] at hc
  -- the stop is `k`: every entry before `k` ends below `c`, and every entry after it starts
  -- above `c`
  have hstop : seek t span c 0 t.size = k := by
    by_contra hne
    rcases Nat.lt_or_gt_of_ne hne with hlt | hgt
    · have := h4 (by omega) _ (Array.getElem?_eq_getElem (by omega))
      have := (hpair _ k hlt hk).2.1
      omega
    · have hbelow := h3 (by omega) _ (Array.getElem?_eq_getElem (by omega))
      by_cases hprev : seek t span c 0 t.size - 1 = k
      · simp only [hprev] at hbelow
        omega
      · obtain ⟨-, hapart, hne⟩ := hpair k (seek t span c 0 t.size - 1) (by omega) (by omega)
        omega
  unfold find?
  rw [hstop, Array.getElem?_eq_getElem hk]
  simp [holds_iff, hc]

end Seek

/-- A code point is within a table of ranges in increasing order exactly when one of its
ranges holds it. -/
theorem within_iff (t : Array Span) (hsorted : t.toList.IsChain Precedes) (c : Nat) :
    within t c = true ↔ ∃ s ∈ t, s.holds c = true := by
  unfold within
  constructor
  · intro h
    obtain ⟨s, hs⟩ := Option.isSome_iff_exists.1 h
    exact ⟨s, find?_holds t id c hs⟩
  · rintro ⟨s, hs, hc⟩
    obtain ⟨k, hk, rfl⟩ := Array.mem_iff_getElem.1 hs
    rw [find?_of_holds t id c (by simpa using hsorted) hk hc]
    rfl

theorem holds_of_within {t : Array Span} {c : Nat} (h : within t c = true) :
    ∃ s ∈ t, s.holds c = true := by
  obtain ⟨s, hs⟩ := Option.isSome_iff_exists.1 h
  exact ⟨s, find?_holds t id c hs⟩

/-- A code point takes the default class, or the class of a range of the table that holds it. -/
theorem classify_spec {α : Type} (t : Array (Span × α)) (dflt : α) (c : Nat) :
    classify t dflt c = dflt ∨ ∃ e ∈ t, e.1.holds c = true ∧ classify t dflt c = e.2 := by
  unfold classify
  split
  · rename_i e he
    exact .inr ⟨e, (find?_holds t Prod.fst c he).1, (find?_holds t Prod.fst c he).2, rfl⟩
  · exact .inl rfl

/-- Whether the first range of a list that ends at or above `a` holds every code point from `a`
to `b`; on ranges in increasing order it is the only one that can. -/
def covers : List Span → Nat → Nat → Bool
  | [], _, _ => false
  | s :: t, a, b => if Nat.ble a s.hi then Nat.ble s.lo a && Nat.ble b s.hi else covers t a b

theorem exists_of_covers {t : List Span} {a b : Nat} (h : covers t a b = true) :
    ∃ s ∈ t, s.lo ≤ a ∧ b ≤ s.hi := by
  induction t with
  | nil => cases h
  | cons s t ih =>
    unfold covers at h
    split at h
    · simp only [Bool.and_eq_true, Nat.ble_eq] at h
      exact ⟨s, List.mem_cons_self, h⟩
    · obtain ⟨s', hs', h'⟩ := ih h
      exact ⟨s', List.mem_cons_of_mem _ hs', h'⟩

end Span

/-! ## Facts of the tables -/

theorem alphanumericTable_increasing : alphanumericTable.toList.IsChain Span.Precedes := by
  decide +kernel

theorem wordSpaces_apart : wordBreakTable.toList.all (fun e => e.2 != .wSegSpace ||
    (alphanumericTable.toList ++ emojiTable.toList).all (Span.apart e.1)) = true := by
  decide +kernel

/-- The images of a run of the lowercase mapping, from the image of its first code point to that
of its last, are valid code points, all in one range of `t`. -/
def CaseRun.imagesIn (t : List Span) (r : CaseRun) : Bool :=
  ((r.span.hi + r.shift).toNat < 0xD800 ||
      0xDFFF < (r.span.lo + r.shift).toNat && (r.span.hi + r.shift).toNat < 0x110000) &&
    Span.covers t (r.span.lo + r.shift).toNat (r.span.hi + r.shift).toNat

theorem lowerTable_images : lowerTable.toList.all (CaseRun.imagesIn alphanumericTable.toList) = true := by
  decide +kernel

theorem wordSpace_range {c : Char} (h : WordBreak.of c = .wSegSpace) :
    ∃ e ∈ wordBreakTable, e.1.holds c.toNat = true ∧ e.2 = .wSegSpace := by
  rcases Span.classify_spec wordBreakTable .other c.toNat with hdflt | ⟨e, he, hc, hclass⟩
  · rw [WordBreak.of, hdflt] at h
    cases h
  · exact ⟨e, he, hc, by rw [← hclass]; exact h⟩

theorem not_holds_of_wordSpace {c : Char} (h : WordBreak.of c = .wSegSpace) {s : Span}
    (hs : s ∈ alphanumericTable.toList ++ emojiTable.toList) : s.holds c.toNat = false := by
  obtain ⟨e, he, hc, hclass⟩ := wordSpace_range h
  have hall := List.all_eq_true.1 wordSpaces_apart e (Array.mem_toList_iff.2 he)
  simp only [hclass, bne_self_eq_false, Bool.false_or, List.all_eq_true] at hall
  exact Span.not_holds_of_apart (hall s hs) hc

theorem within_eq_false_of_wordSpace {c : Char} (h : WordBreak.of c = .wSegSpace) {t : Array Span}
    (ht : ∀ s ∈ t, s ∈ alphanumericTable.toList ++ emojiTable.toList) :
    Span.within t c.toNat = false := by
  cases hw : Span.within t c.toNat with
  | false => rfl
  | true =>
    obtain ⟨s, hs, hc⟩ := Span.holds_of_within hw
    rw [not_holds_of_wordSpace h (ht s hs)] at hc
    cases hc

/-- A word space is neither a letter nor a number. -/
theorem isAlphanumeric_of_wordSpace {c : Char} (h : WordBreak.of c = .wSegSpace) :
    isAlphanumeric c = false :=
  within_eq_false_of_wordSpace h fun _ hs => List.mem_append_left _ (Array.mem_toList_iff.2 hs)

/-- A word space is no emoji. -/
theorem isEmoji_of_wordSpace {c : Char} (h : WordBreak.of c = .wSegSpace) : isEmoji c = false :=
  within_eq_false_of_wordSpace h fun _ hs => List.mem_append_right _ (Array.mem_toList_iff.2 hs)

theorem toNat_ofNat_of_valid {n : Nat} (h : n.isValidChar) : (Char.ofNat n).toNat = n := by
  rw [Char.ofNat, dif_pos h]
  rfl

theorem lowerTable_image {r : CaseRun} (hr : r ∈ lowerTable) {c : Nat} (hc : r.span.holds c = true) :
    (c + r.shift).toNat.isValidChar ∧ Span.within alphanumericTable (c + r.shift).toNat = true := by
  have himg := List.all_eq_true.1 lowerTable_images r (Array.mem_toList_iff.2 hr)
  simp only [CaseRun.imagesIn, Bool.and_eq_true, Bool.or_eq_true, decide_eq_true_eq] at himg
  obtain ⟨hvalid, hcov⟩ := himg
  obtain ⟨s, hs, hlo, hhi⟩ := Span.exists_of_covers hcov
  rw [Span.holds_iff] at hc
  -- the image of `c` lies between the images of the run's ends
  have hfrom : (r.span.lo + r.shift).toNat ≤ (c + r.shift).toNat := Int.toNat_le_toNat (by omega)
  have hto : (c + r.shift).toNat ≤ (r.span.hi + r.shift).toNat := Int.toNat_le_toNat (by omega)
  refine ⟨by unfold Nat.isValidChar; omega, ?_⟩
  rw [Span.within_iff _ alphanumericTable_increasing]
  exact ⟨s, Array.mem_toList_iff.1 hs, (Span.holds_iff _ _).2 ⟨by omega, by omega⟩⟩

/-- The lowercase form of a letter or a number holds a letter or a number. -/
theorem lowerOf_alphanumeric {c : Char} (h : isAlphanumeric c = true) :
    (lowerOf c).any isAlphanumeric = true := by
  unfold lowerOf
  by_cases hdot : c.toNat = 0x130
  · rw [if_pos hdot]
    decide +kernel
  rw [if_neg hdot]
  split
  · rename_i r hr
    split
    · obtain ⟨hmem, hholds⟩ := Span.find?_holds _ _ _ hr
      obtain ⟨hvalid, hwithin⟩ := lowerTable_image hmem hholds
      simp only [List.any_cons, List.any_nil, Bool.or_false, isAlphanumeric,
        toNat_ofNat_of_valid hvalid, hwithin]
    · simp [h]
  · simp [h]

end Thesaurus.Unicode
