import Mathlib
import Thesaurus.Proofs.Analysis.LabelKey

/-!
The white space tokenizer. A text is white space, then a run of other characters, then white
space again, and so on (`blanks_or_run`). The tokenizer gives one token per run, in order
(`runs_blanks`, `runs_run`): its text is the run, its start offset the number of bytes before the
run, its end offset the number of bytes up to the run's end. So the token texts are the
text's `fields` (the pieces between white space that are not empty), and token `i` stands after
a stretch of text that has exactly `i` fields (`whitespace_tokens`).
-/

set_option autoImplicit false
set_option relaxedAutoImplicit false

namespace Thesaurus.Tokenizer

open Thesaurus.Unicode

/-! ## Fields -/

/-- The pieces of a text between white space, the empty ones left out. -/
def fields (cs : List Char) : List (List Char) :=
  (cs.splitOnP isBlank).filter (!·.isEmpty)

@[simp] theorem fields_nil : fields [] = [] := rfl

theorem fields_blank_cons {c : Char} (hc : isBlank c = true) (cs : List Char) :
    fields (c :: cs) = fields cs := by
  simp [fields, List.splitOnP_cons_eq_if_modifyHead, hc]

theorem fields_blanks_append {bs : List Char} (hbs : ∀ c ∈ bs, isBlank c = true)
    (cs : List Char) : fields (bs ++ cs) = fields cs := by
  induction bs with
  | nil => rfl
  | cons b bs ih =>
    rw [List.cons_append, fields_blank_cons (hbs b List.mem_cons_self)]
    exact ih fun c hc => hbs c (List.mem_cons_of_mem _ hc)

theorem fields_run_append {w rest : List Char} (hw : w ≠ [])
    (hrun : ∀ c ∈ w, isBlank c = false) (hrest : ∀ c ∈ rest.head?, isBlank c = true) :
    fields (w ++ rest) = w :: fields rest := by
  have hkeep : (!w.isEmpty) = true := by simpa using hw
  cases rest with
  | nil => simp [fields, List.splitOnP_eq_singleton hrun, hkeep]
  | cons sep rest =>
    have hsep : isBlank sep = true := hrest sep rfl
    rw [fields_blank_cons hsep]
    simp [fields, List.splitOnP_append_cons_of_forall_mem hrun sep hsep, hkeep]

theorem run_of_mem_splitOnP {l w : List Char} (hw : w ∈ l.splitOnP isBlank) :
    ∀ c ∈ w, isBlank c = false := by
  induction l generalizing w with
  | nil =>
    rw [List.splitOnP_nil, List.mem_singleton] at hw
    simp [hw]
  | cons x xs ih =>
    rw [List.splitOnP_cons_eq_if_modifyHead] at hw
    split at hw
    · rcases List.mem_cons.1 hw with rfl | hw
      · simp
      · exact ih hw
    · rename_i hx
      -- `x` joins the first piece of the rest
      obtain ⟨hd, tl, hsplit⟩ := List.exists_cons_of_ne_nil (List.splitOnP_ne_nil isBlank xs)
      rw [hsplit, List.modifyHead_cons] at hw
      rcases List.mem_cons.1 hw with rfl | hw
      · intro c hc
        rcases List.mem_cons.1 hc with rfl | hc
        · simpa using hx
        · exact ih (hsplit ▸ List.mem_cons_self) c hc
      · exact ih (hsplit ▸ List.mem_cons_of_mem _ hw)

theorem run_of_mem_fields {cs w : List Char} (hw : w ∈ fields cs) :
    w ≠ [] ∧ ∀ c ∈ w, isBlank c = false := by
  obtain ⟨hmem, hne⟩ := List.mem_filter.1 hw
  exact ⟨by simpa using hne, run_of_mem_splitOnP hmem⟩

/-- Every text is white space only, or white space, a run of other characters, and a rest that is
empty or starts with white space. -/
theorem blanks_or_run (cs : List Char) :
    (∀ c ∈ cs, isBlank c = true) ∨
      ∃ bs w rest, cs = bs ++ w ++ rest ∧ (∀ c ∈ bs, isBlank c = true) ∧ w ≠ [] ∧
        (∀ c ∈ w, isBlank c = false) ∧ ∀ c ∈ rest.head?, isBlank c = true := by
  induction cs with
  | nil => exact .inl (by simp)
  | cons x xs ih =>
    cases hx : isBlank x with
    | true =>
      rcases ih with hall | ⟨bs, w, rest, rfl, hbs, hw, hrun, hrest⟩
      · exact .inl (List.forall_mem_cons.2 ⟨hx, hall⟩)
      · exact .inr
          ⟨x :: bs, w, rest, rfl, List.forall_mem_cons.2 ⟨hx, hbs⟩, hw, hrun, hrest⟩
    | false =>
      refine .inr ?_
      rcases ih with hall | ⟨bs, w, rest, rfl, hbs, hw, hrun, hrest⟩
      · exact ⟨[], [x], xs, rfl, by simp, by simp, by simp [hx],
          fun c hc => hall c (List.mem_of_mem_head? hc)⟩
      · cases bs with
        | nil =>
          exact ⟨[], x :: w, rest, rfl, by simp, by simp, List.forall_mem_cons.2 ⟨hx, hrun⟩,
            hrest⟩
        | cons b bs =>
          -- the rest after `x` starts with white space, so `x` is a run of its own
          exact ⟨[], [x], b :: bs ++ w ++ rest, rfl, by simp, by simp, by simp [hx],
            by simpa using hbs b List.mem_cons_self⟩

/-! ## The runs the tokenizer reads -/

theorem utf8ByteSize_ofList_cons (c : Char) (l : List Char) :
    (String.ofList (c :: l)).utf8ByteSize = c.utf8Size + (String.ofList l).utf8ByteSize := by
  rw [String.ofList_cons, String.utf8ByteSize_append, String.utf8ByteSize_singleton]

theorem utf8ByteSize_ofList_append (l l' : List Char) :
    (String.ofList (l ++ l')).utf8ByteSize =
      (String.ofList l).utf8ByteSize + (String.ofList l').utf8ByteSize := by
  rw [String.ofList_append, String.utf8ByteSize_append]

/-- White space outside a run is passed over, its bytes counted. -/
theorem runs_blanks {bs : List Char} (hbs : ∀ c ∈ bs, isBlank c = true) (pos : Nat)
    (cs : List Char) :
    runs pos none (bs ++ cs) = runs (pos + (String.ofList bs).utf8ByteSize) none cs := by
  induction bs generalizing pos with
  | nil => simp
  | cons b bs ih =>
    have hb : isBlank b = true := hbs b List.mem_cons_self
    rw [List.cons_append, runs, if_pos hb, ih (fun c hc => hbs c (List.mem_cons_of_mem _ hc)),
      utf8ByteSize_ofList_cons, Nat.add_assoc]

theorem runs_extend {w : List Char} (hrun : ∀ c ∈ w, isBlank c = false) (pos b : Nat)
    (acc rest : List Char) :
    runs pos (some (b, acc)) (w ++ rest) =
      runs (pos + (String.ofList w).utf8ByteSize) (some (b, w.reverse ++ acc)) rest := by
  induction w generalizing pos acc with
  | nil => simp
  | cons x w ih =>
    have hx : isBlank x = false := hrun x List.mem_cons_self
    rw [List.cons_append, runs, if_neg (by simp [hx])]
    rw [ih (fun c hc => hrun c (List.mem_cons_of_mem _ hc)), utf8ByteSize_ofList_cons,
      Nat.add_assoc, List.reverse_cons, List.append_assoc, List.singleton_append]

theorem runs_close (pos b : Nat) (acc rest : List Char)
    (hrest : ∀ c ∈ rest.head?, isBlank c = true) :
    runs pos (some (b, acc)) rest = (b, acc.reverse) :: runs pos none rest := by
  cases rest with
  | nil => rfl
  | cons c rest =>
    have hc : isBlank c = true := hrest c rfl
    simp only [runs, hc, if_true]

/-- A run of characters that are not white space, ended by white space or by the end of the
text, is read as one run starting at the current offset. -/
theorem runs_run {w rest : List Char} (hw : w ≠ []) (hrun : ∀ c ∈ w, isBlank c = false)
    (hrest : ∀ c ∈ rest.head?, isBlank c = true) (pos : Nat) :
    runs pos none (w ++ rest) =
      (pos, w) :: runs (pos + (String.ofList w).utf8ByteSize) none rest := by
  obtain ⟨x, w', rfl⟩ := List.exists_cons_of_ne_nil hw
  have hx : isBlank x = false := hrun x List.mem_cons_self
  rw [List.cons_append, runs, if_neg (by simp [hx])]
  rw [runs_extend (fun c hc => hrun c (List.mem_cons_of_mem _ hc)), runs_close _ _ _ _ hrest,
    utf8ByteSize_ofList_cons, Nat.add_assoc]
  simp

theorem run_of_getElem?_runs {cs : List Char} {pos i s : Nat} {r : List Char}
    (htexts : (runs pos none cs).map Prod.snd = fields cs)
    (hi : (runs pos none cs)[i]? = some (s, r)) :
    r ≠ [] ∧ ∀ c ∈ r, isBlank c = false :=
  run_of_mem_fields (htexts ▸ List.mem_map.2 ⟨(s, r), List.mem_of_getElem? hi, rfl⟩)

theorem gap_before_run {rest pre r post : List Char} (hsplit : rest = pre ++ r ++ post)
    (hrest : ∀ c ∈ rest.head?, isBlank c = true) (hrne : r ≠ [])
    (hrrun : ∀ c ∈ r, isBlank c = false) :
    pre ≠ [] ∧ ∀ c ∈ pre.head?, isBlank c = true := by
  obtain ⟨x, r', rfl⟩ := List.exists_cons_of_ne_nil hrne
  cases pre with
  | nil =>
    -- the run would start the text, but its first character is no white space
    have hx := hrest x (by simp [hsplit])
    rw [hrrun x List.mem_cons_self] at hx
    exact absurd hx Bool.false_ne_true
  | cons y pre' =>
    exact ⟨List.cons_ne_nil y pre', fun c hc => hrest c (by simp_all)⟩

/-- The runs read from a text, from the offset `pos`: their texts are the text's fields, and the
`i`-th starts after a stretch of text that ends with white space (or is empty) and has `i`
fields, and ends before white space or the end of the text. -/
theorem runs_spec (cs : List Char) (pos : Nat) :
    (runs pos none cs).map Prod.snd = fields cs ∧
      ∀ i s r, (runs pos none cs)[i]? = some (s, r) →
        ∃ pre post, cs = pre ++ r ++ post ∧ s = pos + (String.ofList pre).utf8ByteSize ∧
          (∀ c ∈ pre.getLast?, isBlank c = true) ∧ (∀ c ∈ post.head?, isBlank c = true) ∧
          (fields pre).length = i := by
  -- induction on the length: a run is read, then the rest after it
  induction h : cs.length using Nat.strong_induction_on generalizing cs pos with
  | _ n ih =>
    rcases blanks_or_run cs with hall | ⟨bs, w, rest, rfl, hbs, hw, hrun, hrest⟩
    · have hnil : runs pos none cs = [] := by
        simpa [runs] using runs_blanks hall pos []
      refine ⟨?_, fun i s r hi => ?_⟩
      · rw [hnil, List.map_nil, ← List.append_nil cs, fields_blanks_append hall, fields_nil]
      · simp [hnil] at hi
    · have hlt : rest.length < n := by
        have : w.length ≠ 0 := by simpa using hw
        simp only [← h, List.length_append]
        omega
      -- the offset after the leading white space, and after the run
      obtain ⟨p, hp⟩ : ∃ p, p = pos + (String.ofList bs).utf8ByteSize := ⟨_, rfl⟩
      have hread : runs pos none (bs ++ w ++ rest) =
          (p, w) :: runs (p + (String.ofList w).utf8ByteSize) none rest := by
        rw [List.append_assoc, runs_blanks hbs, runs_run hw hrun hrest, hp]
      obtain ⟨htexts, hplaced⟩ := ih rest.length hlt rest (p + (String.ofList w).utf8ByteSize) rfl
      refine ⟨?_, fun i s r hi => ?_⟩
      · rw [hread, List.map_cons, htexts, List.append_assoc, fields_blanks_append hbs,
          fields_run_append hw hrun hrest]
      · rw [hread] at hi
        cases i with
        | zero =>
          -- the first run: after the leading white space
          obtain ⟨rfl, rfl⟩ := Prod.mk.inj (Option.some.inj hi)
          refine ⟨bs, rest, rfl, hp, fun c hc => hbs c (List.mem_of_mem_getLast? hc), hrest, ?_⟩
          simpa using fields_blanks_append hbs []
        | succ i =>
          -- a later run: a run of the rest, which starts with white space
          obtain ⟨pre, post, hsplit, hs, hlast, hpost, hcount⟩ := hplaced i s r hi
          obtain ⟨hrne, hrrun⟩ := run_of_getElem?_runs htexts hi
          obtain ⟨hpre, hprehead⟩ := gap_before_run hsplit hrest hrne hrrun
          refine ⟨bs ++ w ++ pre, post, by simp [hsplit], ?_, ?_, hpost, ?_⟩
          · rw [hs, utf8ByteSize_ofList_append, utf8ByteSize_ofList_append]
            omega
          · intro c hc
            apply hlast c
            rwa [List.getLast?_append_of_ne_nil _ hpre] at hc
          · rw [List.append_assoc, fields_blanks_append hbs, fields_run_append hw hrun hprehead,
              List.length_cons, hcount]

/-! ## The tokens -/

theorem getElem?_number (ty : List Char → TokenType) (ws : List (Nat × List Char)) (i : Nat) :
    (number ty ws)[i]? = ws[i]?.map fun p =>
      (Token.withOffsets (String.ofList p.2) i p.1
        (p.1 + (String.ofList p.2).utf8ByteSize)).withType (ty p.2) := by
  simp only [number, List.getElem?_map, List.getElem?_zipIdx, Nat.zero_add, Option.map_map]
  rfl

theorem extract_utf8_middle (pre r post : List Char) :
    (String.ofList (pre ++ r ++ post)).toUTF8.extract (String.ofList pre).utf8ByteSize
        ((String.ofList pre).utf8ByteSize + (String.ofList r).utf8ByteSize) =
      (String.ofList r).toUTF8 := by
  simp only [String.toUTF8_eq_toByteArray, String.toByteArray_ofList, List.utf8Encode_append,
    ← String.size_toByteArray, ByteArray.append_assoc]
  have hmiddle := ByteArray.extract_append_size_add (a := pre.utf8Encode)
    (b := r.utf8Encode ++ post.utf8Encode) (i := 0) (j := r.utf8Encode.size)
  rw [Nat.add_zero] at hmiddle
  rw [hmiddle, ByteArray.extract_append_eq_left rfl]

/-- The white space tokenizer gives one token per run of characters that are not white space,
in order: the token texts are the text's fields. Token `i` is at position `i`, is not empty,
holds no white space, and has the type its text reads as. It stands after a stretch `pre` of
the text that ends with white space (or is empty) and holds exactly `i` fields, and before white
space or the end of the text; its start offset is the number of bytes of `pre`, its end offset
the number of bytes of `pre` and the token's text, and the bytes of the text between the two
offsets are the token's text. -/
theorem whitespace_tokens (text : String) :
    (whitespace.tokenize text).map (·.text) = (fields text.toList).map String.ofList ∧
      ∀ i t, (whitespace.tokenize text)[i]? = some t →
        t.position = i ∧ t.text ≠ "" ∧ (∀ c ∈ t.text.toList, isBlank c = false) ∧
        t.tokenType = some (runType t.text.toList) ∧
        text.toUTF8.extract t.startOffset t.endOffset = t.text.toUTF8 ∧
        ∃ pre post, text.toList = pre ++ t.text.toList ++ post ∧
          t.startOffset = (String.ofList pre).utf8ByteSize ∧
          t.endOffset = (String.ofList (pre ++ t.text.toList)).utf8ByteSize ∧
          (∀ c ∈ pre.getLast?, isBlank c = true) ∧ (∀ c ∈ post.head?, isBlank c = true) ∧
          (fields pre).length = i := by
  obtain ⟨htexts, hplaced⟩ := runs_spec text.toList 0
  refine ⟨?_, fun i t ht => ?_⟩
  · rw [tokenize, texts_number, ← htexts, List.map_map]
    rfl
  · rw [tokenize, getElem?_number] at ht
    obtain ⟨⟨s, r⟩, hi, rfl⟩ := Option.map_eq_some_iff.1 ht
    obtain ⟨pre, post, hsplit, hs, hlast, hpost, hcount⟩ := hplaced i s r hi
    obtain ⟨hrne, hrrun⟩ := run_of_getElem?_runs htexts hi
    simp only [Nat.zero_add] at hs
    subst hs
    have htext : text = String.ofList (pre ++ r ++ post) := by
      rw [← hsplit, String.ofList_toList]
    have hstr : (String.ofList r).toList = r := String.toList_ofList
    refine ⟨rfl, ?_, ?_, ?_, ?_, pre, post, ?_, rfl, ?_, hlast, hpost, hcount⟩
    · intro hempty
      apply hrne
      rw [← hstr]
      exact String.toList_eq_nil_iff.2 hempty
    · simpa [Token.withType, Token.withOffsets, hstr] using hrrun
    · simp [Token.tokenType, Token.withType, Token.withOffsets, hstr]
    · rw [htext]
      exact extract_utf8_middle pre r post
    · simpa [Token.withType, Token.withOffsets, hstr] using hsplit
    · simp [Token.withType, Token.withOffsets, hstr]

end Thesaurus.Tokenizer
