import Thesaurus.Proofs.Unicode.Tables

/-!
What lowercasing keeps, read off the tables. Every character other than the dotted capital I
lowercases to one character (`lowerOf_spec`) of the same word-break class, a letter or a number
exactly when the character is one, and that lowercases to itself. The tables are checked once
(`tables_checked`): the word-break table's ranges are in increasing order, so a character in one
of them has that range's class (`wordBreak_of_holds`); each run of the lowercase mapping maps, as
a whole or code point by code point, into ranges of its own class (`CaseRun.keepsClass`), from
letters and numbers (`CaseRun.inLetters`), onto code points that no run maps
(`CaseRun.fixesImages`).
-/

set_option autoImplicit false
set_option relaxedAutoImplicit false

namespace Thesaurus.Unicode

/-! ## Checks of the tables -/

/-- The class of the first range of a list that ends at or above `a`, when that range holds
every code point from `a` to `b`. -/
def coverClass : List (Span × WordBreak) → Nat → Nat → Option WordBreak
  | [], _, _ => none
  | e :: t, a, b =>
    if Nat.ble a e.1.hi then (if Nat.ble e.1.lo a && Nat.ble b e.1.hi then some e.2 else none)
    else coverClass t a b

/-- Whether the code points from `a` to `b` lie in one range of the word-break table, those from
`a'` to `b'` in one range, and the two ranges have the same class. -/
def sameClass (a b a' b' : Nat) : Bool :=
  match coverClass wordBreakTable.toList a b, coverClass wordBreakTable.toList a' b' with
  | some k, some k' => k == k'
  | _, _ => false

/-- The image of a code point under a run. -/
def CaseRun.image (r : CaseRun) (n : Nat) : Nat := (n + r.shift).toNat

/-- The range from the image of a run's first code point to that of its last. -/
def CaseRun.imageSpan (r : CaseRun) : Span := ⟨r.image r.span.lo, r.image r.span.hi⟩

/-- Whether a run maps the code point `lo + j`: it lies a multiple of the step past `lo`. -/
def CaseRun.maps (r : CaseRun) (j : Nat) : Bool := j % r.step == 0

/-- Whether every code point a run maps has the word-break class of its image: checked for the
whole run at once, or else code point by code point. -/
def CaseRun.keepsClass (r : CaseRun) : Bool :=
  sameClass r.span.lo r.span.hi (r.image r.span.lo) (r.image r.span.hi) ||
    (List.range (r.span.hi + 1 - r.span.lo)).all fun j =>
      !r.maps j || sameClass (r.span.lo + j) (r.span.lo + j) (r.image (r.span.lo + j))
        (r.image (r.span.lo + j))

/-- Whether every code point a run maps is a letter or a number, checked in the same way. -/
def CaseRun.inLetters (r : CaseRun) : Bool :=
  Span.covers alphanumericTable.toList r.span.lo r.span.hi ||
    (List.range (r.span.hi + 1 - r.span.lo)).all fun j =>
      !r.maps j || Span.covers alphanumericTable.toList (r.span.lo + j) (r.span.lo + j)

/-- Whether the images of a run miss the code points that the run `r'` maps: the ranges are
apart, or `r'` maps every other code point and the images all fall between them. -/
def CaseRun.missesMapped (r r' : CaseRun) : Bool :=
  Span.apart r.imageSpan r'.span ||
    (r'.step == 2 && (r.step == 2 || r.span.lo == r.span.hi) &&
      (r.imageSpan.lo + r'.span.lo) % 2 == 1)

/-- Whether the images of a run are code points that lowercase to themselves: they are not
negative, not the dotted capital I, and no run maps them. -/
def CaseRun.fixesImages (r : CaseRun) : Bool :=
  decide (0 ≤ (r.span.lo : Int) + r.shift) && !r.imageSpan.holds 0x130 &&
    (r.step == 1 || r.step == 2) && lowerTable.toList.all r.missesMapped

/-- What the proofs read off the tables, checked in one pass: the word-break ranges are in
increasing order, the one range of class LF holds the line feed alone, every run of the
lowercase mapping passes the three checks, and the classes and lowercase forms of the
characters that the segmentation proofs name. -/
theorem tables_checked :
    (wordBreakTable.toList.map Prod.fst).IsChain Span.Precedes ∧
      wordBreakTable.toList.all (fun e => e.2 != .lf || e.1 == ⟨0xA, 0xA⟩) = true ∧
      (lowerTable.toList.all fun r => r.keepsClass && r.inLetters && r.fixesImages) = true ∧
      (WordBreak.of '\n' = .lf ∧ WordBreak.of ' ' = .wSegSpace) ∧
      (lowerOf 'Σ' = ['σ'] ∧ lowerOf 'σ' = ['σ'] ∧ lowerOf 'ς' = ['ς'] ∧
        WordBreak.of 'σ' = WordBreak.of 'Σ' ∧ WordBreak.of 'ς' = WordBreak.of 'Σ') := by
  decide +kernel

theorem wordBreak_newline_space : WordBreak.of '\n' = .lf ∧ WordBreak.of ' ' = .wSegSpace :=
  tables_checked.2.2.2.1

theorem lowerOf_sigmas :
    lowerOf 'Σ' = ['σ'] ∧ lowerOf 'σ' = ['σ'] ∧ lowerOf 'ς' = ['ς'] ∧
      WordBreak.of 'σ' = WordBreak.of 'Σ' ∧ WordBreak.of 'ς' = WordBreak.of 'Σ' :=
  tables_checked.2.2.2.2

/-! ## Word-break classes -/

theorem wordBreakTable_increasing :
    (wordBreakTable.toList.map Prod.fst).IsChain Span.Precedes :=
  tables_checked.1

/-- A character in a range of the word-break table has that range's class. -/
theorem wordBreak_of_holds {e : Span × WordBreak} (he : e ∈ wordBreakTable) {c : Char}
    (hc : e.1.holds c.toNat = true) : WordBreak.of c = e.2 := by
  obtain ⟨k, hk, rfl⟩ := Array.mem_iff_getElem.1 he
  rw [WordBreak.of, Span.classify,
    Span.find?_of_holds wordBreakTable Prod.fst c.toNat wordBreakTable_increasing hk hc]

theorem eq_of_wordBreak_lf {c : Char} (h : WordBreak.of c = .lf) : c = '\n' := by
  have hlf := tables_checked.2.1
  rcases Span.classify_spec wordBreakTable .other c.toNat with hdflt | ⟨e, he, hc, hclass⟩
  · rw [WordBreak.of, hdflt] at h
    cases h
  · have := List.all_eq_true.1 hlf e (Array.mem_toList_iff.2 he)
    rw [← hclass, ← WordBreak.of, h] at this
    simp only [bne_self_eq_false, Bool.false_or, beq_iff_eq] at this
    rw [this, Span.holds_iff] at hc
    dsimp only at hc
    have hten : c.toNat = 10 := by omega
    rw [← Char.ofNat_toNat c, hten]

theorem exists_of_coverClass {t : List (Span × WordBreak)} {a b : Nat} {k : WordBreak}
    (h : coverClass t a b = some k) : ∃ e ∈ t, e.1.lo ≤ a ∧ b ≤ e.1.hi ∧ e.2 = k := by
  induction t with
  | nil => cases h
  | cons e t ih =>
    unfold coverClass at h
    split at h
    · split at h
      · rename_i hin
        simp only [Bool.and_eq_true, Nat.ble_eq] at hin
        cases h
        exact ⟨e, List.mem_cons_self, hin.1, hin.2, rfl⟩
      · cases h
    · obtain ⟨e', he', h'⟩ := ih h
      exact ⟨e', List.mem_cons_of_mem _ he', h'⟩

theorem wordBreak_eq_of_sameClass {a b a' b' : Nat} (h : sameClass a b a' b' = true) {c c' : Char}
    (hc : a ≤ c.toNat ∧ c.toNat ≤ b) (hc' : a' ≤ c'.toNat ∧ c'.toNat ≤ b') :
    WordBreak.of c = WordBreak.of c' := by
  unfold sameClass at h
  split at h
  · rename_i k k' hk hk'
    obtain ⟨e, he, hlo, hhi, rfl⟩ := exists_of_coverClass hk
    obtain ⟨e', he', hlo', hhi', rfl⟩ := exists_of_coverClass hk'
    rw [wordBreak_of_holds (Array.mem_toList_iff.1 he) ((Span.holds_iff _ _).2 ⟨by omega, by omega⟩),
      wordBreak_of_holds (Array.mem_toList_iff.1 he') ((Span.holds_iff _ _).2 ⟨by omega, by omega⟩)]
    simpa using h
  · cases h

/-! ## Runs of the lowercase mapping -/

theorem lowerTable_run {r : CaseRun} (hr : r ∈ lowerTable) :
    r.keepsClass = true ∧ r.inLetters = true ∧ r.fixesImages = true := by
  simpa [and_assoc] using List.all_eq_true.1 tables_checked.2.2.1 r (Array.mem_toList_iff.2 hr)

section Run

variable {r : CaseRun} {n : Nat}

theorem image_mem_imageSpan (hn : r.span.holds n = true) : r.imageSpan.holds (r.image n) = true := by
  rw [Span.holds_iff] at hn ⊢
  simp only [CaseRun.imageSpan, CaseRun.image]
  omega

theorem CaseRun.keepsClass_spec (hr : r.keepsClass = true) (hn : r.span.holds n = true)
    (hmap : (n - r.span.lo) % r.step = 0) {c d : Char} (hc : c.toNat = n)
    (hd : d.toNat = r.image n) : WordBreak.of d = WordBreak.of c := by
  have hrange := (Span.holds_iff _ _).1 hn
  have himg := (Span.holds_iff _ _).1 (image_mem_imageSpan hn)
  unfold CaseRun.keepsClass at hr
  rcases Bool.or_eq_true_iff.1 hr with hwhole | hpoints
  · exact (wordBreak_eq_of_sameClass hwhole ⟨by omega, by omega⟩
      ⟨by simp only [CaseRun.imageSpan] at himg; omega, by simp only [CaseRun.imageSpan] at himg; omega⟩).symm
  · have hj := List.all_eq_true.1 hpoints (n - r.span.lo) (List.mem_range.2 (by omega))
    have hpoint : r.span.lo + (n - r.span.lo) = n := by omega
    simp only [CaseRun.maps, hmap, beq_self_eq_true, Bool.not_true, Bool.false_or, hpoint] at hj
    exact (wordBreak_eq_of_sameClass hj ⟨by omega, by omega⟩ ⟨by omega, by omega⟩).symm

theorem CaseRun.inLetters_spec (hr : r.inLetters = true) (hn : r.span.holds n = true)
    (hmap : (n - r.span.lo) % r.step = 0) : Span.within alphanumericTable n = true := by
  have hrange := (Span.holds_iff _ _).1 hn
  -- a range of letters and numbers that covers `n`
  have hcover : ∃ s ∈ alphanumericTable.toList, s.lo ≤ n ∧ n ≤ s.hi := by
    unfold CaseRun.inLetters at hr
    rcases Bool.or_eq_true_iff.1 hr with hwhole | hpoints
    · obtain ⟨s, hs, hlo, hhi⟩ := Span.exists_of_covers hwhole
      exact ⟨s, hs, by omega, by omega⟩
    · have hj := List.all_eq_true.1 hpoints (n - r.span.lo) (List.mem_range.2 (by omega))
      have hpoint : r.span.lo + (n - r.span.lo) = n := by omega
      simp only [CaseRun.maps, hmap, beq_self_eq_true, Bool.not_true, Bool.false_or, hpoint] at hj
      obtain ⟨s, hs, hlo, hhi⟩ := Span.exists_of_covers hj
      exact ⟨s, hs, hlo, hhi⟩
  obtain ⟨s, hs, hlo, hhi⟩ := hcover
  rw [Span.within_iff _ alphanumericTable_increasing]
  exact ⟨s, Array.mem_toList_iff.1 hs, (Span.holds_iff _ _).2 ⟨hlo, hhi⟩⟩

theorem CaseRun.fixesImages_spec (hr : r.fixesImages = true) (hn : r.span.holds n = true)
    (hmap : (n - r.span.lo) % r.step = 0) {r' : CaseRun} (hr' : r' ∈ lowerTable)
    (hheld : r'.span.holds (r.image n) = true) : (r.image n - r'.span.lo) % r'.step ≠ 0 := by
  simp only [CaseRun.fixesImages, Bool.and_eq_true, decide_eq_true_eq, Bool.not_eq_eq_eq_not,
    Bool.not_true, Bool.or_eq_true, beq_iff_eq, List.all_eq_true] at hr
  obtain ⟨⟨⟨hpos, -⟩, hstep⟩, hmiss⟩ := hr
  have hm := hmiss r' (Array.mem_toList_iff.2 hr')
  unfold CaseRun.missesMapped at hm
  rcases Bool.or_eq_true_iff.1 hm with hapart | hparity
  · rw [Span.not_holds_of_apart hapart (image_mem_imageSpan hn)] at hheld
    cases hheld
  · -- `r'` maps every other code point, and the image falls between two of them
    simp only [Bool.and_eq_true, Bool.or_eq_true, beq_iff_eq] at hparity
    obtain ⟨⟨hstep', hone⟩, hodd⟩ := hparity
    have hrange := (Span.holds_iff _ _).1 hn
    have hrange' := (Span.holds_iff _ _).1 hheld
    simp only [CaseRun.imageSpan, CaseRun.image] at hodd hrange' ⊢
    rw [hstep']
    rcases hone with hstep2 | hsingle
    · rw [hstep2] at hmap
      omega
    · omega

end Run

/-- Lowercasing a character other than the dotted capital I gives one character, of the same
word-break class, a letter or a number exactly when the character is one, and lowercasing to
itself. -/
theorem lowerOf_spec (c : Char) (hdot : c.toNat ≠ 0x130) :
    ∃ d, lowerOf c = [d] ∧ WordBreak.of d = WordBreak.of c ∧
      isAlphanumeric d = isAlphanumeric c ∧ lowerOf d = [d] := by
  have hself : lowerOf c = [c] → ∃ d, lowerOf c = [d] ∧ WordBreak.of d = WordBreak.of c ∧
      isAlphanumeric d = isAlphanumeric c ∧ lowerOf d = [d] :=
    fun h => ⟨c, h, rfl, rfl, h⟩
  cases hf : Span.find? lowerTable (·.span) c.toNat with
  | none => exact hself (by simp [lowerOf, hdot, hf])
  | some r =>
    by_cases hmod : (c.toNat - r.span.lo) % r.step = 0
    · obtain ⟨hr, hholds⟩ := Span.find?_holds _ _ _ hf
      obtain ⟨hkeeps, hletters, hfix⟩ := lowerTable_run hr
      obtain ⟨hvalid, hletter⟩ := lowerTable_image hr hholds
      have hd : (Char.ofNat (r.image c.toNat)).toNat = r.image c.toNat := toNat_ofNat_of_valid hvalid
      refine ⟨Char.ofNat (r.image c.toNat), by simp [lowerOf, hdot, hf, hmod]; rfl,
        CaseRun.keepsClass_spec hkeeps hholds hmod rfl hd,
        ?_, ?_⟩
      · -- both the character and its image are letters or numbers
        simp only [isAlphanumeric, hd]
        rw [CaseRun.inLetters_spec hletters hholds hmod]
        exact hletter
      · -- the image is not the dotted capital I, and no run maps it
        have hnot : (Char.ofNat (r.image c.toNat)).toNat ≠ 0x130 := by
          rw [hd]
          intro heq
          have himg := image_mem_imageSpan hholds
          simp only [CaseRun.fixesImages, Bool.and_eq_true] at hfix
          rw [heq] at himg
          simp [himg] at hfix
        cases hf' : Span.find? lowerTable (·.span) (Char.ofNat (r.image c.toNat)).toNat with
        | none => simp [lowerOf, hnot, hf']
        | some r' =>
          obtain ⟨hr', hholds'⟩ := Span.find?_holds _ _ _ hf'
          rw [hd] at hholds' hf' hnot
          have hmiss := CaseRun.fixesImages_spec hfix hholds hmod hr' hholds'
          simp [lowerOf, hd, hnot, hf', hmiss]
    · exact hself (by simp [lowerOf, hdot, hf, hmod])

end Thesaurus.Unicode
