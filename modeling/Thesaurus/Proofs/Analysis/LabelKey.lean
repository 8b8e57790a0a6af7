import Thesaurus.Analysis
import Thesaurus.Proofs.Store.Lookup

/-!
The key of a whole label. Label windows look up the texts of their word tokens, lowercased one
by one and joined by single spaces; for the window of all the words of a label this is the
label's normal form (`windowText_lowercase_words`). The store keeps that normal form, and a
lookup normalizes its text once more, so a stored label is found again exactly when its own
normal form is again a label of the concept (`lookup_stored_label_iff`). Normalizing is not
stable everywhere: a space before a combining mark stays attached to the mark and becomes a word
of its own, one space longer at each pass (`combining_mark_label_missed`).
-/

set_option autoImplicit false
set_option relaxedAutoImplicit false

namespace Thesaurus

namespace Tokenizer

theorem map_snd_placed (start : Nat) (segs : List (List Char)) :
    (placed start segs).map Prod.snd = segs := by
  induction segs generalizing start with
  | nil => rfl
  | cons s rest ih => simp [placed, ih]

theorem texts_number (ty : List Char → TokenType) (ws : List (Nat × List Char)) :
    (number ty ws).map Token.text = ws.map fun p => String.ofList p.2 := by
  unfold number
  rw [List.map_map]
  conv => rhs; rw [← List.zipIdx_map_fst 0 ws]
  rw [List.map_map]
  rfl

theorem isExpansion_number (ty : List Char → TokenType) (ws : List (Nat × List Char)) :
    ∀ t ∈ number ty ws, t.isExpansion = false := by
  intro t ht
  obtain ⟨⟨⟨start, w⟩, i⟩, -, rfl⟩ := List.mem_map.1 ht
  rfl

theorem texts_unicodeWord (v : String) :
    (unicodeWord.tokenize v).map Token.text = (Label.words v).map String.ofList := by
  simp only [tokenize, texts_number, Label.words]
  conv => rhs; rw [← map_snd_placed 0 (Text.segments v.toList)]
  rw [List.filter_map, List.map_map]
  rfl

end Tokenizer

theorem Filter.apply_lowercase (ts : List Token) (h : ∀ t ∈ ts, t.isExpansion = false) :
    Filter.apply .lowercase ts = .ok (ts.map fun t => t.withText (Text.lowerString t.text)) := by
  simp only [Filter.apply]
  congr 1
  exact List.map_congr_left fun t ht => by simp [h t ht]

/-- The key that label windows look up for a whole text, built from the text's word tokens
lowercased one by one and joined by single spaces, is the text's normal form. -/
theorem windowText_lowercase_words (v : String) :
    ∃ ts, Filter.apply .lowercase (Tokenizer.unicodeWord.tokenize v) = .ok ts ∧
      ts.length = Label.wordCount v ∧
      Expansion.Window.windowText ts (Label.wordCount v) = Label.normalize v := by
  have htexts := Tokenizer.texts_unicodeWord v
  have hlen : (Tokenizer.unicodeWord.tokenize v).length = Label.wordCount v := by
    simpa [Label.wordCount] using congrArg List.length htexts
  refine ⟨_, Filter.apply_lowercase _ (Tokenizer.isExpansion_number _ _), by simp [hlen], ?_⟩
  unfold Expansion.Window.windowText Label.normalize
  rw [List.take_of_length_le (by simp [hlen]), List.map_map]
  -- the lowered texts are the lowered words
  have hlower : (Tokenizer.unicodeWord.tokenize v).map (Token.text ∘ fun t =>
      t.withText (Text.lowerString t.text)) =
      (Label.words v).map fun w => String.ofList (Text.lower w) := by
    have hcomp : (Token.text ∘ fun t : Token => t.withText (Text.lowerString t.text)) =
        Text.lowerString ∘ Token.text := rfl
    rw [hcomp, ← List.map_map, htexts, List.map_map]
    simp [Function.comp_def, Text.lowerString]
  rw [hlower]

/-- A label statement of a concept, kept by the store's filter and not empty once normalized:
the store keeps its normal form; the key that label windows build from the whole label is that
normal form, and the concept is found under it exactly when the normal form of the key is again a
stored label of the concept; the same holds of every stored label `l` of the concept. -/
theorem lookup_stored_label_iff (g : Graph) (f : LanguageFilter) (st : Statement) (k : LabelKind)
    (lit : Literal) (hst : st ∈ g.statements) (hp : st.predicate = .label k)
    (ho : st.object = .literal lit) (hacc : f.accepts lit.language = true)
    (hne : Label.normalize lit.value ≠ "") :
    Label.normalize lit.value ∈ (Store.ofGraph g f).labelsOf st.subject.key k ∧
      (∃ ts, Filter.apply .lowercase (Tokenizer.unicodeWord.tokenize lit.value) = .ok ts ∧
        ts.length = Label.wordCount lit.value ∧
        Expansion.Window.windowText ts (Label.wordCount lit.value) = Label.normalize lit.value ∧
        (st.subject.key ∈ (Store.ofGraph g f).lookup
            (Expansion.Window.windowText ts (Label.wordCount lit.value)) [k] ↔
          Label.normalize (Label.normalize lit.value) ∈
            (Store.ofGraph g f).labelsOf st.subject.key k)) ∧
      ∀ l ∈ (Store.ofGraph g f).labelsOf st.subject.key k,
        st.subject.key ∈ (Store.ofGraph g f).lookup l [k] ↔
          Label.normalize l ∈ (Store.ofGraph g f).labelsOf st.subject.key k := by
  have hstored : Label.normalize lit.value ∈ (Store.ofGraph g f).labelsOf st.subject.key k :=
    (Store.mem_labelsOf g f _ _ k).2 ⟨st, hst, rfl, hp, lit, ho, hacc, rfl, hne⟩
  -- with one kind asked, a lookup finds the concept when the text's normal form is its label
  have hfound : ∀ l : String, st.subject.key ∈ (Store.ofGraph g f).lookup l [k] ↔
      Label.normalize l ∈ (Store.ofGraph g f).labelsOf st.subject.key k := by
    intro l
    rw [Store.mem_lookup]
    simp
  obtain ⟨ts, hts, hlen, hkey⟩ := windowText_lowercase_words lit.value
  refine ⟨hstored, ⟨ts, hts, hlen, hkey, ?_⟩, fun l _ => hfound l⟩
  rw [hkey]
  exact hfound _

/-- The label "a" followed by a space and the combining Greek ypogegrammeni: its normal form keeps
the space before the mark, and normalizing that again adds a space, so the concept is not found
under its own stored label. -/
theorem combining_mark_label_missed :
    Label.normalize "a \u0345" ≠ "" ∧
      "ex:1" ∉ (Store.ofGraph ⟨[⟨.iri "ex:1", .label .pref, .literal ⟨"a \u0345", none⟩⟩]⟩
        ⟨none⟩).lookup (Label.normalize "a \u0345") [.pref] := by
  have hne : Label.normalize "a \u0345" ≠ "" := by decide +kernel
  obtain ⟨hstored, -, hfound⟩ := lookup_stored_label_iff ⟨[⟨.iri "ex:1", .label .pref,
    .literal ⟨"a \u0345", none⟩⟩]⟩ ⟨none⟩ _ .pref _ (List.mem_singleton_self _) rfl rfl rfl hne
  refine ⟨hne, fun hmem => ?_⟩
  have hmiss : Label.normalize (Label.normalize "a \u0345") ∉
      (Store.ofGraph ⟨[⟨.iri "ex:1", .label .pref, .literal ⟨"a \u0345", none⟩⟩]⟩
        ⟨none⟩).labelsOf "ex:1" .pref := by
    decide +kernel
  exact hmiss ((hfound _ hstored).1 hmem)

end Thesaurus
