import Thesaurus.Proofs.Text.Words
import Thesaurus.Proofs.Expansion.Output
import Thesaurus.Proofs.Analysis.LabelKey

/-!
The window size of label expansion past the longest label. A window of `j` word tokens of the
label analyzer, lowercased and joined by single spaces, normalizes to a text of at least `j`
words (`le_wordCount_windowText`), while every label the store keeps has at most
`maxLabelTokens` words (`wordCount_le_maxLabelTokens`). So no window longer than that names a
concept (`lookup_window_eq_nil`), the greedy reading is the same for every window size from
there on (`greedy_size_eq`), and the label analyzer of a store gives the same tokens for every
window size of at least one and at least `maxLabelTokens` (`analyze_window_size_eq`).
-/

set_option autoImplicit false
set_option relaxedAutoImplicit false

namespace Thesaurus

open Expansion

/-! ## The greedy reading past the longest match -/

namespace Expansion

theorem find?_windowLengths_of_le {p : Nat → Bool} {m n : Nat} (hmn : m ≤ n)
    (h : ∀ j, m < j → j ≤ n → p j = false) :
    (windowLengths n).find? p = (windowLengths m).find? p := by
  induction n with
  | zero => rw [Nat.le_zero.1 hmn]
  | succ n ih =>
    rcases Nat.lt_or_eq_of_le hmn with hlt | rfl
    · rw [windowLengths_succ, List.find?_cons_of_neg (by simp [h (n + 1) hlt (Nat.le_refl _)])]
      exact ih (by omega) fun j hj hjn => h j hj (by omega)
    · rfl

section Greedy

variable (lbl : String → List LabelKind → List String) (exp : String → ExpansionKind → List String)
  (kinds : List ExpansionKind) (mk : List LabelKind)

theorem search_of_le {m size size' : Nat} {t : Token} {rest : List Token}
    (hlong : ∀ s, s <:+ t :: rest → ∀ j, m < j → j ≤ s.length → lbl (Window.windowText s j) mk = [])
    (hsize : m ≤ size) (hsize' : m ≤ size') :
    (windowLengths (min size (rest.length + 1))).find?
        (fun j => !(lbl (Window.windowText (t :: rest) j) mk).isEmpty) =
      (windowLengths (min size' (rest.length + 1))).find?
        (fun j => !(lbl (Window.windowText (t :: rest) j) mk).isEmpty) := by
  -- both searches find what the search over windows of at most `m` tokens finds
  have hdown : ∀ sz, m ≤ sz → (windowLengths (min sz (rest.length + 1))).find?
      (fun j => !(lbl (Window.windowText (t :: rest) j) mk).isEmpty) =
      (windowLengths (min m (rest.length + 1))).find?
      (fun j => !(lbl (Window.windowText (t :: rest) j) mk).isEmpty) := by
    intro sz hsz
    refine find?_windowLengths_of_le (by omega) fun j hj hjn => ?_
    simp [hlong (t :: rest) (List.suffix_refl _) j (by omega) (by simp; omega)]
  rw [hdown size hsize, hdown size' hsize']

/-- When no window of more than `m` tokens in a stream names a concept, the greedy reading of the
stream is the same for every window size of at least `m`. -/
theorem greedy_size_eq {m : Nat} (ts : List Token)
    (hlong : ∀ s, s <:+ ts → ∀ j, m < j → j ≤ s.length → lbl (Window.windowText s j) mk = [])
    {size size' : Nat} (hsize : m ≤ size) (hsize' : m ≤ size') :
    greedy lbl exp kinds mk size ts = greedy lbl exp kinds mk size' ts := by
  fun_induction greedy lbl exp kinds mk size ts with
  | case1 => rw [greedy]
  | case2 t rest unmatched ih =>
    rw [greedy.eq_2, search_of_le lbl mk hlong hsize' hsize, unmatched]
    exact congrArg (t :: ·) (ih fun s hs => hlong s (hs.trans (List.suffix_cons t rest)))
  | case3 t rest k matched ih =>
    rw [greedy.eq_2, search_of_le lbl mk hlong hsize' hsize, matched]
    rw [ih fun s hs => hlong s (hs.trans ((List.drop_suffix _ _).trans (List.suffix_cons t rest)))]

end Greedy

end Expansion

/-! ## Labels have at most `maxLabelTokens` words -/

namespace Store

theorem foldl_count {α β : Type} (step : β → α → β) (count : β → Nat) (enough : α → Nat → Prop)
    (hmono : ∀ x n m, enough x n → n ≤ m → enough x m)
    (hstep : ∀ b x, count b ≤ count (step b x) ∧ enough x (count (step b x)))
    (L : List α) (b : β) :
    count b ≤ count (L.foldl step b) ∧ ∀ x ∈ L, enough x (count (L.foldl step b)) := by
  induction L generalizing b with
  | nil => simp
  | cons x L ih =>
    obtain ⟨hle, hall⟩ := ih (step b x)
    refine ⟨Nat.le_trans (hstep b x).1 hle, fun y hy => ?_⟩
    rcases List.mem_cons.1 hy with rfl | hy
    · exact hmono y _ _ (hstep b y).2 hle
    · exact hall y hy

theorem wordCount_le_indexOf (cs : Array Concept) (j : Nat) (c : Concept) (hc : cs[j]? = some c)
    (k : LabelKind) (l : String) (hl : l ∈ c.labels k) : Label.wordCount l ≤ (indexOf cs).2 := by
  -- indexing a label raises the count to its word count
  have hlabels := fun i => foldl_count
    (fun (acc : Std.TreeMap String Posting compare × Nat) (kl : LabelKind × String) =>
      (acc.1.insert kl.2 ((acc.1.getD kl.2 Posting.empty).add kl.1 i),
        max acc.2 (Label.wordCount kl.2)))
    Prod.snd (fun kl n => Label.wordCount kl.2 ≤ n) (fun _ _ _ h hnm => Nat.le_trans h hnm)
    (fun acc kl => ⟨Nat.le_max_left _ _, Nat.le_max_right _ _⟩)
  -- so indexing a concept raises it to the word counts of all its labels
  have hconcepts := foldl_count
    (fun acc (ci : Concept × Nat) => ci.1.allLabels.foldl
      (fun (acc : Std.TreeMap String Posting compare × Nat) (kl : LabelKind × String) =>
        (acc.1.insert kl.2 ((acc.1.getD kl.2 Posting.empty).add kl.1 ci.2),
          max acc.2 (Label.wordCount kl.2))) acc)
    Prod.snd (fun ci n => ∀ kl ∈ ci.1.allLabels, Label.wordCount kl.2 ≤ n)
    (fun _ _ _ h hnm kl hkl => Nat.le_trans (h kl hkl) hnm)
    (fun acc ci => hlabels ci.2 ci.1.allLabels acc)
  refine (hconcepts cs.toList.zipIdx (∅, 0)).2 (c, j) ?_ (k, l) ?_
  · simpa [List.mem_zipIdx_iff_getElem?] using hc
  · simpa [Concept.allLabels] using hl

/-- Every label the store of a graph keeps has at most `maxLabelTokens` words. -/
theorem wordCount_le_maxLabelTokens (g : Graph) (f : LanguageFilter) (i : Nat) (c : Concept)
    (hc : (ofGraph g f).concepts[i]? = some c) (k : LabelKind) (l : String) (hl : l ∈ c.labels k) :
    Label.wordCount l ≤ (ofGraph g f).maxLabelTokens :=
  wordCount_le_indexOf _ i c hc k l hl

/-- A text whose normal form has more words than `maxLabelTokens` labels no concept. -/
theorem lookup_eq_nil_of_wordCount (g : Graph) (f : LanguageFilter) (text : String)
    (kinds : List LabelKind)
    (h : (ofGraph g f).maxLabelTokens < Label.wordCount (Label.normalize text)) :
    (ofGraph g f).lookup text kinds = [] := by
  refine List.eq_nil_iff_forall_not_mem.2 fun u hu => ?_
  obtain ⟨-, k, -, i, hi, -⟩ := (mem_lookup_iff _ text kinds u).1 hu
  rw [readPosting_getD_ofGraph, ofGraph_index, mem_indexOf] at hi
  obtain ⟨c, hc, hl⟩ := hi
  have := wordCount_le_maxLabelTokens g f i c hc k _ hl
  omega

end Store

/-! ## Windows of the label analyzer -/

theorem alphanumeric_of_lowercase_words (text : String) {ts : List Token}
    (h : Filter.apply .lowercase (Tokenizer.unicodeWord.tokenize text) = .ok ts) :
    ∀ t ∈ ts, t.text.toList.any Unicode.isAlphanumeric = true := by
  rw [Filter.apply_lowercase (Tokenizer.unicodeWord.tokenize text)
    (Tokenizer.isExpansion_number _ _)] at h
  injection h with h
  subst h
  intro t ht
  obtain ⟨u, hu, rfl⟩ := List.mem_map.1 ht
  -- the token's text is a word of the text
  have hmem : u.text ∈ (Label.words text).map String.ofList := by
    rw [← Tokenizer.texts_unicodeWord]
    exact List.mem_map_of_mem hu
  obtain ⟨w, hw, hwu⟩ := List.mem_map.1 hmem
  simp only [Token.withText, Text.lowerString, ← hwu, String.toList_ofList]
  exact Text.lower_alphanumeric (List.of_mem_filter (p := Label.isWord) hw)

/-- The window of the first `j` tokens, each holding a letter or a number, normalizes to a text
of at least `j` words. -/
theorem le_wordCount_windowText {s : List Token}
    (hs : ∀ t ∈ s, t.text.toList.any Unicode.isAlphanumeric = true) {j : Nat} (hj : j ≤ s.length) :
    j ≤ Label.wordCount (Label.normalize (Window.windowText s j)) := by
  have htexts : ((s.take j).map (·.text.toList)).map String.ofList = (s.take j).map (·.text) := by
    simp [List.map_map, Function.comp_def]
  have hwords := Text.length_le_wordCount_intercalate ((s.take j).map (·.text.toList)) (by
    intro w hw
    obtain ⟨t, ht, rfl⟩ := List.mem_map.1 hw
    exact hs t (List.mem_of_mem_take ht))
  rw [htexts, List.length_map, List.length_take_of_le hj] at hwords
  exact Nat.le_trans hwords (Text.wordCount_le_normalize _)

theorem le_wordCount_window {text : String} {ts : List Token}
    (hts : Filter.apply .lowercase (Tokenizer.unicodeWord.tokenize text) = .ok ts)
    {win : List Token} (hwin : win <:+ ts) {j : Nat} (hj : j ≤ win.length) :
    j ≤ Label.wordCount (Label.normalize (Window.windowText win j)) :=
  le_wordCount_windowText (fun t ht => alphanumeric_of_lowercase_words text hts t (hwin.subset ht)) hj

/-- No window of more than `maxLabelTokens` tokens of the label analyzer names a concept of the
store of a graph. -/
theorem lookup_window_eq_nil (g : Graph) (f : LanguageFilter) {text : String} {ts : List Token}
    (hts : Filter.apply .lowercase (Tokenizer.unicodeWord.tokenize text) = .ok ts)
    {win : List Token} (hwin : win <:+ ts) {j : Nat} (hj : j ≤ win.length)
    (hlong : (Store.ofGraph g f).maxLabelTokens < j) (kinds : List LabelKind) :
    (Store.ofGraph g f).lookup (Window.windowText win j) kinds = [] :=
  Store.lookup_eq_nil_of_wordCount g f _ kinds
    (Nat.lt_of_lt_of_le hlong (le_wordCount_window hts hwin hj))

theorem Settings.validate_window_eq (s : Settings) (hmode : s.mode ≠ .uri) {W W' : Nat}
    (hW : W ≠ 0) (hW' : W' ≠ 0) :
    Settings.validate { s with window := W } = Settings.validate { s with window := W' } := by
  simp [Settings.validate, hW, hW', hmode]

/-- The label analyzer of settings checks them, lowercases the word tokens of the text and runs
the label-window stream over them with the settings' window, at least one token. -/
theorem analyze_of_label (src : Source) (s : Settings) (hmode : s.mode = .label) (text : String) :
    (Analyzer.ofSettings src s >>= fun a => a.analyze text) =
      (s.validate >>= fun _ => Filter.apply .lowercase (Tokenizer.unicodeWord.tokenize text) >>=
        fun ts => Window.drain src (((Window.new ts s.kinds).withSize (max s.window 1)).withMatchKinds
          s.matchKinds)) := by
  cases hv : s.validate with
  | error e => simp [Analyzer.ofSettings, hmode, Filter.labelOf, hv, bind, Except.bind]
  | ok u =>
    simp [Analyzer.ofSettings, hmode, Filter.labelOf, hv, bind, Except.bind, Analyzer.analyze,
      Pipeline.analyze, Pipeline.addFilter, Pipeline.new, Pipeline.withName, pure, Except.pure]
    -- the two filters in turn
    cases Filter.apply .lowercase (Tokenizer.unicodeWord.tokenize text) with
    | error e => rfl
    | ok ts =>
      simp only [Filter.apply]
      cases Window.drain src (((Window.new ts s.kinds).withSize (max s.window 1)).withMatchKinds
        s.matchKinds) <;> rfl

/-- The label analyzer of the store of a graph gives the same tokens, or the same failure, for any
two window sizes of at least one token and at least `maxLabelTokens`. The reason: a window of `j`
consecutive lowercased word tokens normalizes to a text of at least `j` words, so past
`maxLabelTokens` tokens no window names a concept. -/
theorem analyze_window_size_eq (g : Graph) (f : LanguageFilter) (s : Settings)
    (hmode : s.mode = .label) (text : String) {W W' : Nat}
    (hW : max 1 (Store.ofGraph g f).maxLabelTokens ≤ W)
    (hW' : max 1 (Store.ofGraph g f).maxLabelTokens ≤ W') :
    (Analyzer.ofSettings (Store.ofGraph g f).source { s with window := W } >>= fun a =>
        a.analyze text) =
      (Analyzer.ofSettings (Store.ofGraph g f).source { s with window := W' } >>= fun a =>
        a.analyze text) ∧
    ∀ ts, Filter.apply .lowercase (Tokenizer.unicodeWord.tokenize text) = .ok ts →
      ∀ win, win <:+ ts → ∀ j, j ≤ win.length →
        j ≤ Label.wordCount (Label.normalize (Window.windowText win j)) ∧
        ((Store.ofGraph g f).maxLabelTokens < j →
          ∀ kinds, (Store.ofGraph g f).lookup (Window.windowText win j) kinds = []) := by
  refine ⟨?_, fun ts hts win hwin j hj =>
    ⟨le_wordCount_window hts hwin hj, lookup_window_eq_nil g f hts hwin hj⟩⟩
  rw [analyze_of_label _ { s with window := W } hmode, analyze_of_label _ { s with window := W' } hmode,
    Settings.validate_window_eq s (by simp [hmode]) (show W ≠ 0 by omega) (show W' ≠ 0 by omega)]
  -- the store answers every look-up
  have hl : ∀ text ks, (Store.ofGraph g f).source.conceptsForLabel text ks =
      .ok ((Store.ofGraph g f).lookup text ks) := fun _ _ => rfl
  have he : ∀ uri k, (Store.ofGraph g f).source.expansions uri k =
      .ok ((Store.ofGraph g f).expand uri k) := fun _ _ => rfl
  cases Settings.validate { s with window := W' } with
  | error e => rfl
  | ok u =>
    cases hts : Filter.apply .lowercase (Tokenizer.unicodeWord.tokenize text) with
    | error e => rfl
    | ok ts =>
      simp only [bind, Except.bind]
      rw [drain_of_total hl he, drain_of_total hl he]
      -- the greedy readings agree past the longest label
      congr 1
      exact Expansion.greedy_size_eq _ _ _ _ ts
        (fun win hwin j hj hjl => lookup_window_eq_nil g f hts hwin hjl hj _) (by omega) (by omega)

/-- A store of one concept labelled "new york". -/
def newYorkGraph : Graph :=
  ⟨[⟨.iri "ex:1", .label .pref, .literal ⟨"new york", none⟩⟩]⟩

theorem analyze_window_size_eq_new_york :
    (Settings.new .label [.uri]).mode = .label ∧
      max 1 (Store.ofGraph newYorkGraph ⟨none⟩).maxLabelTokens ≤ 2 ∧
      max 1 (Store.ofGraph newYorkGraph ⟨none⟩).maxLabelTokens ≤ 5 ∧
      ((Analyzer.ofSettings (Store.ofGraph newYorkGraph ⟨none⟩).source
          { Settings.new .label [.uri] with window := 2 } >>= fun a => a.analyze "New York City") =
        (Analyzer.ofSettings (Store.ofGraph newYorkGraph ⟨none⟩).source
          { Settings.new .label [.uri] with window := 5 } >>= fun a => a.analyze "New York City") ∧
      ∀ ts, Filter.apply .lowercase (Tokenizer.unicodeWord.tokenize "New York City") = .ok ts →
        ∀ win, win <:+ ts → ∀ j, j ≤ win.length →
          j ≤ Label.wordCount (Label.normalize (Window.windowText win j)) ∧
          ((Store.ofGraph newYorkGraph ⟨none⟩).maxLabelTokens < j →
            ∀ kinds, (Store.ofGraph newYorkGraph ⟨none⟩).lookup (Window.windowText win j) kinds = [])) :=
  have hmax : max 1 (Store.ofGraph newYorkGraph ⟨none⟩).maxLabelTokens = 2 := by decide +kernel
  ⟨rfl, by omega, by omega,
    analyze_window_size_eq newYorkGraph ⟨none⟩ _ rfl "New York City" (by omega) (by omega)⟩

end Thesaurus
