import Mathlib
import Thesaurus.Settings.Decode
import Thesaurus.Proofs.Json.Reading

/-!
Settings written as compact JSON read back as themselves (`ofJson_compact_toJson`), when the
window fits in 64 bits: the mode by its name, the expansion and label kinds as arrays of names,
the window as its decimal digits, and the languages only when set. Each name finds its own value
in the reader's table of names (`kindNames_find`). An object is read member by member: in
`ReadsMembers ms m m'` each member's reader takes the members read before it to the next ones,
and the loop reads the members in the order written (`readMembers_compactMembers`). Reading
then checks the settings, so settings that fail a check are refused by the first that fails.
-/

set_option autoImplicit false
set_option relaxedAutoImplicit false

namespace Thesaurus.Settings

open Thesaurus.Json

theorem modeNames_find (v : Mode) : (modeNames.find? (·.1 == v.name)).map Prod.snd = some v := by
  cases v <;> rfl

theorem kindNames_find (k : ExpansionKind) :
    (kindNames.find? (·.1 == k.name)).map Prod.snd = some k := by
  rcases k with l | r | _
  · cases l <;> rfl
  · cases r <;> rfl
  · rfl

theorem labelNames_find (k : LabelKind) :
    (labelNames.find? (·.1 == k.name)).map Prod.snd = some k := by
  cases k <;> rfl

theorem skipBlanks_quote {c : Cursor} {s : String} {rest : List Char}
    (hc : c.rest = (quote s).toList ++ rest) : c.skipBlanks = c :=
  Cursor.skipBlanks_of_head (by simp [hc, toList_quote, Cursor.isBlank])

theorem readVariant_quote {α : Type} (names : Names α) {s : String} {v : α}
    (h : (names.find? (·.1 == s)).map Prod.snd = some v) :
    Reads (readVariant names) (quote s).toList v Closes := by
  intro c rest hc _
  obtain ⟨c', hbody, hc'⟩ := readStringBody_quote s c.next rest
    (by simp [hc, toList_quote]) trivial
  obtain ⟨p, hp, rfl⟩ := Option.map_eq_some_iff.1 h
  refine ⟨c', ?_, hc'⟩
  simp [readVariant, skipBlanks_quote hc, hc, toList_quote, hbody, hp]

theorem readString_quote (s : String) : Reads readString (quote s).toList s Closes := by
  intro c rest hc _
  obtain ⟨c', hbody, hc'⟩ := readStringBody_quote s c.next rest
    (by simp [hc, toList_quote]) trivial
  refine ⟨c', ?_, hc'⟩
  simp [readString, skipBlanks_quote hc, hc, toList_quote, hbody]

section Elements

variable {α : Type} {elem : Cursor → Except Fail (α × Cursor)} {name : α → String}

theorem readElements_go_rest (hread : ∀ x, Reads elem (quote (name x)).toList x Closes)
    (xs : List α) :
    ∀ (fuel : Nat) (c : Cursor) (acc : List α) (rest : List Char),
      c.rest = (xs.flatMap fun x => ',' :: (quote (name x)).toList) ++ ']' :: rest →
      xs.length < fuel →
        ∃ c', readElements.go elem fuel c acc false = .ok (acc.reverse ++ xs, c') ∧
          c'.rest = rest := by
  induction xs with
  | nil =>
    intro fuel c acc rest hc hfuel
    obtain ⟨fuel, rfl⟩ := Nat.exists_eq_add_one.2 (Nat.zero_lt_of_lt hfuel)
    have hskip : c.skipBlanks = c := Cursor.skipBlanks_of_head (by simp [hc, Cursor.isBlank])
    refine ⟨c.next, ?_, by simp [hc]⟩
    simp [readElements.go, hskip, hc]
  | cons x xs ih =>
    intro fuel c acc rest hc hfuel
    obtain ⟨fuel, rfl⟩ := Nat.exists_eq_add_one.2 (Nat.zero_lt_of_lt hfuel)
    have hskip : c.skipBlanks = c := Cursor.skipBlanks_of_head (by simp [hc, Cursor.isBlank])
    have hskip' : c.next.skipBlanks = c.next :=
      Cursor.skipBlanks_of_head (by simp [hc, toList_quote, Cursor.isBlank])
    obtain ⟨c', hx, hc'⟩ := hread x c.next
      ((xs.flatMap fun x => ',' :: (quote (name x)).toList) ++ ']' :: rest)
      (by simp [hc]) (by cases xs <;> simp [Closes])
    obtain ⟨c'', hgo, hc''⟩ := ih fuel c' (x :: acc) rest hc' (by simp at hfuel; omega)
    refine ⟨c'', ?_, hc''⟩
    simp [readElements.go, hskip, hskip', hc, toList_quote, hx, hgo]

theorem toList_compact_strs_cons (x : α) (xs : List α) :
    (compact (strs ((x :: xs).map name))).toList =
      '[' :: (quote (name x)).toList ++ (xs.flatMap fun y => ',' :: (quote (name y)).toList) ++
        [']'] := by
  simp [strs, compact, toList_compactItems_cons, List.flatMap_map]

theorem readList_strs (hread : ∀ x, Reads elem (quote (name x)).toList x Closes) (xs : List α) :
    Reads (readList elem) (compact (strs (xs.map name))).toList xs Closes := by
  intro c rest hc _
  cases xs with
  | nil =>
    have hskip : c.skipBlanks = c :=
      Cursor.skipBlanks_of_head (by simp [hc, strs, compact, compactItems, Cursor.isBlank])
    have htext : c.rest = '[' :: ']' :: rest := by simpa [strs, compact, compactItems] using hc
    have hskip' : c.next.skipBlanks = c.next :=
      Cursor.skipBlanks_of_head (by simp [htext, Cursor.isBlank])
    refine ⟨c.next.next, ?_, by simp [htext]⟩
    simp [readList, hskip, htext, readElements]
    rw [readElements.go, hskip']
    simp [htext]
  | cons x xs =>
    rw [toList_compact_strs_cons] at hc
    have hskip : c.skipBlanks = c := Cursor.skipBlanks_of_head (by simp [hc, Cursor.isBlank])
    have hskip' : c.next.skipBlanks = c.next :=
      Cursor.skipBlanks_of_head (by simp [hc, toList_quote, Cursor.isBlank])
    obtain ⟨c', hx, hc'⟩ := hread x c.next
      ((xs.flatMap fun y => ',' :: (quote (name y)).toList) ++ ']' :: rest)
      (by simp [hc]) (by cases xs <;> simp [Closes])
    obtain ⟨c'', hgo, hc''⟩ := readElements_go_rest hread xs c.next.rest.length c' [x] rest hc'
      (by simp [hc]; omega)
    refine ⟨c'', ?_, hc''⟩
    have hopen : c.rest.head? = some '[' := by simp [hc]
    have hpeek : c.next.rest.head? = some '"' := by simp [hc, toList_quote]
    simp only [readList, hskip, Cursor.peek?_eq, hopen]
    rw [readElements, readElements.go, hskip']
    simp [hpeek, hx, hgo, -Cursor.rest_next]

end Elements

/-- Members read in turn by `readMember`, each under its key from the members read before it. -/
inductive ReadsMembers : List (String × Json) → Members → Members → Prop
  | nil (m : Members) : ReadsMembers [] m m
  | cons {k : String} {v : Json} {ms : List (String × Json)} {m m₁ m' : Members}
      (head : Reads (readMember k m) (':' :: (compact v).toList) m₁ Closes)
      (tail : ReadsMembers ms m₁ m') : ReadsMembers ((k, v) :: ms) m m'

theorem readMembers_go_member {k : String} {v : Json} {m m₁ : Members}
    (head : Reads (readMember k m) (':' :: (compact v).toList) m₁ Closes) (first : Bool)
    (fuel : Nat) (c : Cursor) {t : List Char}
    (hc : c.rest = (if first then [] else [',']) ++ memberText (k, v) ++ t) (ht : Closes t) :
    ∃ c', c'.rest = t ∧
      readMembers.go (fuel + 1) c m first = readMembers.go fuel c' m₁ false := by
  -- the key starts right away, or right after the comma
  obtain ⟨ck, hck_def⟩ : ∃ ck : Cursor, ck = if first then c else c.next := ⟨_, rfl⟩
  have hck : ck.rest = '"' :: escapeChars k.toList ++ '"' :: ':' :: (compact v).toList ++ t := by
    cases first <;> simp [hck_def, hc, memberText, toList_quote]
  obtain ⟨c₁, hk, hc₁⟩ := readStringBody_quote k ck.next
    (':' :: (compact v).toList ++ t) (by simp [hck]) trivial
  obtain ⟨c₂, hm, hc₂⟩ := head c₁ t (by simp [hc₁]) ht
  refine ⟨c₂, hc₂, ?_⟩
  have hskip : ck.skipBlanks = ck := Cursor.skipBlanks_of_head (by simp [hck, Cursor.isBlank])
  cases first with
  | true =>
    have hpeek : c.rest.head? = some '"' := by simp [hc, memberText, toList_quote]
    simp only [↓reduceIte] at hck_def
    subst hck_def
    rw [readMembers.go]
    simp [hskip, hpeek, hk, hm, -Cursor.rest_next]
  | false =>
    have hpeek : c.rest.head? = some ',' := by simp [hc]
    have hpeek' : c.next.rest.head? = some '"' := by simp [hc, memberText, toList_quote]
    have hskip' : c.skipBlanks = c := Cursor.skipBlanks_of_head (by simp [hc, Cursor.isBlank])
    simp only [Bool.false_eq_true, ↓reduceIte] at hck_def
    subst hck_def
    rw [readMembers.go]
    simp [hskip, hskip', hpeek, hpeek', hk, hm, -Cursor.rest_next]

theorem readMembers_go_rest {ms : List (String × Json)} {m m' : Members}
    (h : ReadsMembers ms m m') :
    ∀ (fuel : Nat) (c : Cursor) (rest : List Char),
      c.rest = (ms.flatMap fun p => ',' :: memberText p) ++ '}' :: rest → ms.length < fuel →
        ∃ c', readMembers.go fuel c m false = .ok (m', c') ∧ c'.rest = '}' :: rest := by
  induction h with
  | nil m =>
    intro fuel c rest hc hfuel
    obtain ⟨fuel, rfl⟩ := Nat.exists_eq_add_one.2 (Nat.zero_lt_of_lt hfuel)
    have hskip : c.skipBlanks = c := Cursor.skipBlanks_of_head (by simp [hc, Cursor.isBlank])
    exact ⟨c, by rw [readMembers.go]; simp [hskip, hc], by simpa using hc⟩
  | @cons k v ms m m₁ m' head _ ih =>
    intro fuel c rest hc hfuel
    obtain ⟨fuel, rfl⟩ := Nat.exists_eq_add_one.2 (Nat.zero_lt_of_lt hfuel)
    obtain ⟨c', hc', hstep⟩ := readMembers_go_member head false fuel c
      (t := (ms.flatMap fun p => ',' :: memberText p) ++ '}' :: rest) (by simp [hc])
      (by cases ms <;> simp [Closes])
    obtain ⟨c'', hgo, hc''⟩ := ih fuel c' rest hc' (by simp at hfuel; omega)
    exact ⟨c'', hstep.trans hgo, hc''⟩

/-- The members of an object, read from none, up to its closing brace. -/
theorem readMembers_compactMembers {ms : List (String × Json)} {m' : Members}
    (h : ReadsMembers ms .empty m') :
    Reads readMembers (compactMembers ms).toList m' fun rest => rest.head? = some '}' := by
  intro c rest hc hclose
  obtain ⟨r, rfl⟩ : ∃ r, rest = '}' :: r := by
    cases rest with
    | nil => simp at hclose
    | cons x r => simp at hclose; exact ⟨r, by rw [hclose]⟩
  cases h with
  | nil =>
    have hc' : c.rest = '}' :: r := by simpa [compactMembers] using hc
    have hskip : c.skipBlanks = c := Cursor.skipBlanks_of_head (by simp [hc', Cursor.isBlank])
    exact ⟨c, by rw [readMembers, readMembers.go]; simp [hskip, hc'], hc'⟩
  | @cons k v ms _ m₁ _ head tail =>
    rw [toList_compactMembers_cons] at hc
    obtain ⟨c', hc', hstep⟩ := readMembers_go_member head true c.rest.length c
      (t := (ms.flatMap fun p => ',' :: memberText p) ++ '}' :: r) (by simp [hc])
      (by cases ms <;> simp [Closes])
    obtain ⟨c'', hgo, hc''⟩ := readMembers_go_rest tail c.rest.length c' r hc'
      (by simp [hc, memberText, toList_quote]; omega)
    exact ⟨c'', by rw [readMembers]; exact hstep.trans hgo, hc''⟩

theorem readColon_colon {c : Cursor} {t : List Char} (hc : c.rest = ':' :: t) :
    readColon c = .ok c.next := by
  have hskip : c.skipBlanks = c := Cursor.skipBlanks_of_head (by simp [hc, Cursor.isBlank])
  simp [readColon, hskip, hc]

theorem readMember_known {k : String} {m m₁ : Members} {β : Type}
    {read : Cursor → Except Fail (β × Cursor)} {w : List Char} {b : β} (set : β → Members)
    (hk : ∀ c, readMember k m c = match readColon c with
      | .error f => .error f
      | .ok c => (read c).map fun (b, c) => (set b, c))
    (h : Reads read w b Closes) (hset : set b = m₁) :
    Reads (readMember k m) (':' :: w) m₁ Closes := by
  intro c rest hc hrest
  obtain ⟨c', hread, hc'⟩ := h c.next rest (by simp [hc]) hrest
  refine ⟨c', ?_, hc'⟩
  rw [hk, readColon_colon (t := w ++ rest) (by simp [hc])]
  show Except.map _ (read c.next) = _
  rw [hread, ← hset]
  rfl

theorem toList_compact_nat (n : Nat) : (compact (.nat n)).toList = Nat.toDigits 10 n := by
  simp only [Json.nat, compact, intText]
  rw [if_neg (by omega)]
  simp

theorem readSize_toDigits {n : Nat} (hn : n ≤ maxUnsigned) :
    Reads readSize (compact (.nat n)).toList n Closes := by
  intro c rest hc hrest
  have htext : c.rest = Nat.toDigits 10 n ++ rest := by rw [hc, toList_compact_nat]
  obtain ⟨c', hnum, hc'⟩ := readNumber_toDigits hn c rest htext hrest
  obtain ⟨d, ds, hds⟩ := List.exists_cons_of_ne_nil (Nat.toDigits_ne_nil (n := n) (b := 10))
  have hd : isDigit d = true := (isDigit_eq d).trans
    (Nat.isDigit_of_mem_toDigits (by omega) (by omega) (hds ▸ List.mem_cons_self))
  have hpeek : c.rest.head? = some d := by simp [htext, hds]
  have hskip : c.skipBlanks = c := Cursor.skipBlanks_of_head (by
    intro ch hch
    rw [hpeek, Option.mem_some_iff] at hch
    exact hch ▸ isBlank_of_isDigit hd)
  have hminus : d ≠ '-' := by
    rintro rfl
    exact absurd hd (by decide)
  have hnum' : readNumber c true = .ok (.unsigned n, c') := hnum
  refine ⟨c', ?_, hc'⟩
  simp [readSize, hskip, hpeek, hd, hnum']

theorem readLanguages_strs (ls : List String) :
    Reads readLanguages (compact (strs ls)).toList (some ls) Closes := by
  intro c rest hc hrest
  have hlist : Reads (readList readString) (compact (strs (ls.map id))).toList ls Closes :=
    readList_strs readString_quote ls
  obtain ⟨c', hread, hc'⟩ := hlist c rest (by simpa using hc) hrest
  have hopen : c.rest.head? = some '[' := by cases ls <;> simp [hc, strs, compact]
  have hskip : c.skipBlanks = c := Cursor.skipBlanks_of_head (by simp [hopen, Cursor.isBlank])
  refine ⟨c', ?_, hc'⟩
  simp [readLanguages, hskip, hopen, hread, Except.map]

theorem readsMembers_toJson (s : Settings) (hw : s.window ≤ maxUnsigned) :
    ∃ ms m, s.toJson = .obj ms ∧ ReadsMembers ms .empty m ∧ ∀ p, m.settings p = .ok s := by
  have hmode := readVariant_quote modeNames (modeNames_find s.mode)
  have hkinds := readList_strs (fun k => readVariant_quote kindNames (kindNames_find k)) s.kinds
  have hwindow := readSize_toDigits hw
  have hmatch := readList_strs (fun k => readVariant_quote labelNames (labelNames_find k))
    s.matchKinds
  let m₁ : Members := { Members.empty with mode := some s.mode }
  let m₂ : Members := { m₁ with kinds := some s.kinds }
  let m₃ : Members := { m₂ with window := some s.window }
  have h₁ : Reads (readMember "mode" .empty) (':' :: (compact (.str s.mode.name)).toList) m₁
      Closes :=
    readMember_known (fun v => { Members.empty with mode := some v }) (fun _ => rfl) hmode rfl
  have h₂ : Reads (readMember "expansionKinds" m₁)
      (':' :: (compact (strs (s.kinds.map ExpansionKind.name))).toList) m₂ Closes :=
    readMember_known (fun v => { m₁ with kinds := some v }) (fun _ => rfl) hkinds rfl
  have h₃ : Reads (readMember "windowSize" m₂) (':' :: (compact (.nat s.window)).toList) m₃
      Closes :=
    readMember_known (fun v => { m₂ with window := some v }) (fun _ => rfl) hwindow rfl
  -- the languages are a member only when set
  cases hl : s.languages with
  | none =>
    let m₅ : Members := { m₃ with matchKinds := some s.matchKinds }
    have h₅ : Reads (readMember "matchLabelKinds" m₃)
        (':' :: (compact (strs (s.matchKinds.map LabelKind.name))).toList) m₅ Closes :=
      readMember_known (fun v => { m₃ with matchKinds := some v }) (fun _ => rfl) hmatch rfl
    refine ⟨_, m₅, ?_, .cons h₁ (.cons h₂ (.cons h₃ (.cons h₅ (.nil _)))),
      fun p => ?_⟩
    · simp [toJson, hl]
    · show Except.ok (⟨s.mode, s.kinds, s.window, none, s.matchKinds⟩ : Settings) = .ok s
      rw [← hl]
  | some ls =>
    let m₄ : Members := { m₃ with languages := some (some ls) }
    let m₅ : Members := { m₄ with matchKinds := some s.matchKinds }
    have h₄ : Reads (readMember "languages" m₃) (':' :: (compact (strs ls)).toList) m₄
        Closes :=
      readMember_known (fun v => { m₃ with languages := some v }) (fun _ => rfl)
        (readLanguages_strs ls) rfl
    have h₅ : Reads (readMember "matchLabelKinds" m₄)
        (':' :: (compact (strs (s.matchKinds.map LabelKind.name))).toList) m₅ Closes :=
      readMember_known (fun v => { m₄ with matchKinds := some v }) (fun _ => rfl) hmatch rfl
    refine ⟨_, m₅, ?_, .cons h₁ (.cons h₂ (.cons h₃ (.cons h₄ (.cons h₅ (.nil _))))),
      fun p => ?_⟩
    · simp [toJson, hl]
    · show Except.ok (⟨s.mode, s.kinds, s.window, some ls, s.matchKinds⟩ : Settings) = .ok s
      rw [← hl]

theorem decode_compact_obj {ms : List (String × Json)} {m : Members} {s : Settings}
    (h : ReadsMembers ms .empty m) (hs : ∀ p, m.settings p = .ok s) :
    decode (compact (.obj ms)) = .ok s := by
  have htext : (Cursor.start (compact (.obj ms))).rest =
      '{' :: (compactMembers ms).toList ++ ['}'] := by
    simp [Cursor.start, compact]
  have hstart : (Cursor.start (compact (.obj ms))).skipBlanks = Cursor.start (compact (.obj ms)) :=
    Cursor.skipBlanks_of_head (by simp [htext, Cursor.isBlank])
  obtain ⟨c', hread, hc'⟩ :=
    readMembers_compactMembers h (Cursor.start (compact (.obj ms))).next ['}'] (by simp [htext]) rfl
  have hend : c'.next.skipBlanks = c'.next := Cursor.skipBlanks_of_head (by simp [hc'])
  have hopen : (Cursor.start (compact (.obj ms))).rest.head? = some '{' := by simp [htext]
  simp only [decode, hstart, Cursor.peek?_eq, hopen, hread, hs, hend]
  simp [hc']

/-- Settings written as compact JSON decode as themselves whenever the window fits in 64 bits.
Reading them then checks them: they come back, or the first failing check refuses them. -/
theorem ofJson_compact_toJson (s : Settings) (hw : s.window ≤ maxUnsigned) :
    decode (compact s.toJson) = .ok s ∧
      ofJson (compact s.toJson) =
        if s.window = 0 then .error (.config .windowZero)
        else if s.kinds = [] then .error (.config .noExpansionKinds)
        else if s.matchKinds = [] then .error (.config .noMatchKinds)
        else if s.mode = .uri ∧ s.window ≠ 1 then .error (.config .uriWindow)
        else .ok s := by
  obtain ⟨ms, m, hjson, hms, hs⟩ := readsMembers_toJson s hw
  have hdecode : decode (compact s.toJson) = .ok s := by
    rw [hjson]
    exact decode_compact_obj hms hs
  refine ⟨hdecode, ?_⟩
  simp only [ofJson, hdecode, bind, Except.bind, validate, List.isEmpty_iff]
  split_ifs <;> rfl

/-- Settings in URI mode with every kind of member, and languages that need escapes. -/
def escapedSample : Settings :=
  ⟨.uri, [.labels .pref, .relation .broaderTransitive, .uri], 1, some ["en", "a\"b\n\x01"],
    [.hidden, .alt]⟩

theorem ofJson_compact_toJson_escapedSample :
    escapedSample.window ≤ maxUnsigned ∧
      ofJson (compact escapedSample.toJson) = .ok escapedSample :=
  have hw : escapedSample.window ≤ maxUnsigned := by decide
  ⟨hw, (ofJson_compact_toJson escapedSample hw).2⟩

end Thesaurus.Settings
