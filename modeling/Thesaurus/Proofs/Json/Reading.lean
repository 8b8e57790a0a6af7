import Mathlib
import Thesaurus.Json.Reader
import Thesaurus.Json.Value

/-!
The reader reads back what the compact writer writes. `Reads read w a after` says that `read`,
started on the text `w` and whatever follows it that `after` allows, gives `a` and stops right
after `w`. A quoted string reads as the string it quotes (`readStringBody_quote`): each escape
reads as the character it stands for, control characters through their four hexadecimal digits.
The decimal digits of a number below `2 ^ 64` read as that number (`readNumber_toDigits`), when
what follows closes the value: a comma, a closing bracket or brace, or the end.
-/

set_option autoImplicit false
set_option relaxedAutoImplicit false

namespace Thesaurus.Json

namespace Cursor

@[simp] theorem peek?_eq (c : Cursor) : c.peek? = c.rest.head? := rfl

@[simp] theorem rest_next (c : Cursor) : c.next.rest = c.rest.tail := by
  unfold next
  split <;> simp_all
  split <;> rfl

theorem skipBlanks_of_head {c : Cursor} (h : ∀ ch ∈ c.rest.head?, isBlank ch = false) :
    c.skipBlanks = c := by
  unfold skipBlanks
  cases c.rest.length with
  | zero => rfl
  | succ n =>
    simp only [skipBlanks.go, peek?_eq]
    split
    · next ch hch => simp [h ch hch]
    · rfl

end Cursor

/-- `read` reads the text `w` as `a` and stops right after it, whatever follows that `after`
allows. -/
def Reads {α : Type} (read : Cursor → Except Fail (α × Cursor)) (w : List Char) (a : α)
    (after : List Char → Prop) : Prop :=
  ∀ c rest, c.rest = w ++ rest → after rest → ∃ c', read c = .ok (a, c') ∧ c'.rest = rest

/-- What may follow a value inside an array or an object: a comma, a closing bracket or brace,
or the end. -/
def Closes (rest : List Char) : Prop :=
  ∀ ch ∈ rest.head?, ch = ',' ∨ ch = ']' ∨ ch = '}'

/-! ### Strings -/

/-- The characters of a string as written between its quotes, each escaped as needed. -/
def escapeChars (cs : List Char) : List Char :=
  cs.flatMap fun ch => (escapeChar ch).toList

theorem toList_quote (s : String) : (quote s).toList = '"' :: escapeChars s.toList ++ ['"'] := by
  simp [quote, escapeChars, String.toList_join, List.flatMap_map]

theorem escapeChar_ne_nil (ch : Char) : (escapeChar ch).toList ≠ [] := by
  unfold escapeChar
  split <;> simp
  split <;> simp [hex4]

theorem length_le_escapeChars (cs : List Char) : cs.length ≤ (escapeChars cs).length := by
  induction cs with
  | nil => simp [escapeChars]
  | cons ch cs ih =>
    have hne := List.length_pos_iff.2 (escapeChar_ne_nil ch)
    simp only [escapeChars, List.flatMap_cons, List.length_append, List.length_cons] at ih ⊢
    omega

theorem hexValue_digit {d : Nat} (hd : d < 16) :
    hexValue (if d < 10 then Char.ofNat (48 + d) else Char.ofNat (87 + d)) = some d := by
  interval_cases d <;> decide

theorem toList_hex4 (n : Nat) : ∃ a b d e, (hex4 n).toList = [a, b, d, e] ∧
    hexValue a = some (n / 4096 % 16) ∧ hexValue b = some (n / 256 % 16) ∧
    hexValue d = some (n / 16 % 16) ∧ hexValue e = some (n % 16) :=
  ⟨_, _, _, _, by simp [hex4], hexValue_digit (Nat.mod_lt _ (by omega)),
    hexValue_digit (Nat.mod_lt _ (by omega)), hexValue_digit (Nat.mod_lt _ (by omega)),
    hexValue_digit (Nat.mod_lt _ (by omega))⟩

theorem readHex4_hex4 {n : Nat} (hn : n < 0x10000) {c : Cursor} {t : List Char}
    (h : c.rest = (hex4 n).toList ++ t) :
    ∃ c', readHex4 c = .ok (n, c') ∧ c'.rest = t := by
  obtain ⟨a, b, d, e, hl, ha, hb, hd, he⟩ := toList_hex4 n
  rw [hl] at h
  unfold readHex4
  simp only [h, List.cons_append, ha, hb, hd, he]
  refine ⟨c.next.next.next.next, ?_, by simp [h]⟩
  congr 2
  omega

theorem readUnicodeEscape_hex4 {n : Nat} (hn : n < 0xD800) {c : Cursor} {t : List Char}
    (h : c.rest = (hex4 n).toList ++ t) :
    ∃ c', readUnicodeEscape c = .ok (Char.ofNat n, c') ∧ c'.rest = t := by
  obtain ⟨c', hc, hc'⟩ := readHex4_hex4 (by omega) h
  refine ⟨c', ?_, hc'⟩
  simp only [readUnicodeEscape, hc, bind, Except.bind]
  rw [if_neg (by omega), if_pos (Or.inl hn)]

theorem readStringBody_go_escapeChar (ch : Char) (fuel : Nat) (c : Cursor) (acc : List Char)
    {t : List Char} (h : c.rest = (escapeChar ch).toList ++ t) :
    ∃ c', c'.rest = t ∧
      readStringBody.go (fuel + 1) c acc = readStringBody.go fuel c' (ch :: acc) := by
  unfold escapeChar at h
  split at h
  -- the seven characters with a short escape
  · exact ⟨c.next.next, by simp [h], by simp [readStringBody.go, h]⟩
  · exact ⟨c.next.next, by simp [h], by simp [readStringBody.go, h]⟩
  · exact ⟨c.next.next, by simp [h], by simp [readStringBody.go, h]⟩
  · exact ⟨c.next.next, by simp [h], by simp [readStringBody.go, h]⟩
  · exact ⟨c.next.next, by simp [h], by simp [readStringBody.go, h]⟩
  · exact ⟨c.next.next, by simp [h], by simp [readStringBody.go, h]⟩
  · exact ⟨c.next.next, by simp [h], by simp [readStringBody.go, h]⟩
  · split at h
    -- another control character, by its code point
    · next hlt =>
      obtain ⟨c', hu, hc'⟩ := readUnicodeEscape_hex4 (n := ch.toNat) (c := c.next.next) (t := t)
        (by omega) (by simp [h])
      refine ⟨c', hc', ?_⟩
      simp [readStringBody.go, h, hu, Char.ofNat_toNat]
    -- any other character stands for itself
    · next hlt =>
      refine ⟨c.next, by simp [h], ?_⟩
      simp [readStringBody.go, h, hlt]

theorem readStringBody_go_escapeChars (cs : List Char) :
    ∀ (fuel : Nat) (c : Cursor) (acc rest : List Char),
      c.rest = escapeChars cs ++ '"' :: rest → cs.length < fuel →
        ∃ c', readStringBody.go fuel c acc = .ok (String.ofList (acc.reverse ++ cs), c') ∧
          c'.rest = rest := by
  -- induction on the characters, one step of fuel for each
  induction cs with
  | nil =>
    intro fuel c acc rest hc hfuel
    obtain ⟨fuel, rfl⟩ := Nat.exists_eq_add_one.2 (Nat.zero_lt_of_lt hfuel)
    refine ⟨c.next, ?_, by simp [hc, escapeChars]⟩
    simp [readStringBody.go, hc, escapeChars]
  | cons ch cs ih =>
    intro fuel c acc rest hc hfuel
    obtain ⟨fuel, rfl⟩ := Nat.exists_eq_add_one.2 (Nat.zero_lt_of_lt hfuel)
    obtain ⟨c', hc', hstep⟩ := readStringBody_go_escapeChar ch fuel c acc
      (t := escapeChars cs ++ '"' :: rest) (by simp [hc, escapeChars])
    obtain ⟨c'', hgo, hc''⟩ := ih fuel c' (ch :: acc) rest hc' (by simp at hfuel; omega)
    exact ⟨c'', by rw [hstep, hgo]; simp, hc''⟩

/-- A quoted string, past its opening quote, reads as the string. -/
theorem readStringBody_quote (s : String) :
    Reads readStringBody (escapeChars s.toList ++ ['"']) s fun _ => True := by
  intro c rest hc _
  have hlen := length_le_escapeChars s.toList
  obtain ⟨c', hgo, hc'⟩ := readStringBody_go_escapeChars s.toList c.rest.length c [] rest
    (by simp [hc]) (by simp [hc]; omega)
  exact ⟨c', by simpa [readStringBody] using hgo, hc'⟩

/-! ### The compact writer's text -/

theorem toList_compactItems_cons (x : Json) (xs : List Json) :
    (compactItems (x :: xs)).toList =
      (compact x).toList ++ xs.flatMap fun y => ',' :: (compact y).toList := by
  induction xs generalizing x with
  | nil => simp [compactItems]
  | cons y ys ih => simp [compactItems, ih]

/-- The text of one member of an object: its quoted key, a colon and its value. -/
def memberText (p : String × Json) : List Char :=
  (quote p.1).toList ++ ':' :: (compact p.2).toList

theorem toList_compactMembers_cons (k : String) (v : Json) (ms : List (String × Json)) :
    (compactMembers ((k, v) :: ms)).toList =
      memberText (k, v) ++ ms.flatMap fun p => ',' :: memberText p := by
  induction ms generalizing k v with
  | nil => simp [compactMembers, memberText]
  | cons p ps ih => simp [compactMembers, memberText, ih]

/-! ### Numbers -/

theorem isDigit_eq (ch : Char) : isDigit ch = ch.isDigit := rfl

theorem toNat_of_isDigit {ch : Char} (h : isDigit ch = true) :
    48 ≤ ch.toNat ∧ ch.toNat ≤ 57 := by
  simp only [isDigit, Bool.and_eq_true, decide_eq_true_eq] at h
  exact ⟨h.1, h.2⟩

theorem isBlank_of_isDigit {ch : Char} (h : isDigit ch = true) : Cursor.isBlank ch = false := by
  have h48 := (toNat_of_isDigit h).1
  simp only [Cursor.isBlank, Bool.or_eq_false_iff, decide_eq_false_iff_not]
  refine ⟨⟨⟨?_, ?_⟩, ?_⟩, ?_⟩ <;> rintro rfl <;> simp at h48

theorem le_foldl_digitValue (ds : List Char) (sig : Nat) :
    sig ≤ ds.foldl (fun a ch => a * 10 + digitValue ch) sig := by
  induction ds generalizing sig with
  | nil => simp
  | cons ch ds ih =>
    rw [List.foldl_cons]
    exact Nat.le_trans (by omega) (ih _)

theorem foldl_toDigits (n : Nat) :
    (Nat.toDigits 10 n).foldl (fun a ch => a * 10 + digitValue ch) 0 = n := by
  induction n using Nat.strong_induction_on with
  | _ n ih =>
    rw [Nat.toDigits_eq_if (by omega)]
    split
    · next h => simp [digitValue, Nat.toNat_digitChar_sub_48_of_lt_ten h]
    · next h =>
      rw [List.foldl_append, ih (n / 10) (by omega)]
      simp [digitValue, Nat.toNat_digitChar_sub_48_of_lt_ten (Nat.mod_lt n (by omega))]
      omega

theorem toDigits_head_ne_zero {n : Nat} (hn : 0 < n) :
    ∃ d ds, Nat.toDigits 10 n = d :: ds ∧ d ≠ '0' := by
  induction n using Nat.strong_induction_on with
  | _ n ih =>
    rw [Nat.toDigits_eq_if (by omega)]
    split
    · next h =>
      refine ⟨_, [], rfl, fun hd => ?_⟩
      have := congrArg Char.toNat hd
      simp [Nat.toNat_digitChar_of_lt_ten h] at this
      omega
    · next h =>
      obtain ⟨d, ds, hds, hd⟩ := ih (n / 10) (by omega) (by omega)
      exact ⟨d, ds ++ _, by rw [hds, List.cons_append], hd⟩

theorem overflows_eq_false {a d limit : Nat} (hd : d < 10) (h : a * 10 + d ≤ limit) :
    overflows a d limit = false := by
  simp only [overflows, Bool.and_eq_false_imp, decide_eq_true_eq, Bool.or_eq_false_iff,
    decide_eq_false_iff_not]
  omega

theorem Closes.isDigit_eq_false {rest : List Char} (h : Closes rest) :
    ∀ ch ∈ rest.head?, isDigit ch = false := by
  intro ch hch
  rcases h ch hch with rfl | rfl | rfl <;> rfl

theorem readNumberTail_closes {c : Cursor} (h : Closes c.rest) (sig : Nat) :
    readNumberTail c true sig = .ok (.unsigned sig, c) := by
  unfold readNumberTail
  split
  · next hc => rcases h '.' (by simpa using hc) with h | h | h <;> cases h
  · next hc => rcases h 'e' (by simpa using hc) with h | h | h <;> cases h
  · next hc => rcases h 'E' (by simpa using hc) with h | h | h <;> cases h
  · rfl

theorem readNumber_digits (positive : Bool) (ds : List Char) :
    ∀ (fuel : Nat) (c : Cursor) (sig : Nat) (rest : List Char),
      c.rest = ds ++ rest → (∀ ch ∈ ds, isDigit ch = true) →
      (∀ ch ∈ rest.head?, isDigit ch = false) → ds.length < fuel →
      ds.foldl (fun a ch => a * 10 + digitValue ch) sig ≤ maxUnsigned →
      ∃ c', c'.rest = rest ∧ readNumber.digits positive fuel c sig =
        readNumberTail c' positive (ds.foldl (fun a ch => a * 10 + digitValue ch) sig) := by
  -- induction on the digits; the value read so far grows with each
  induction ds with
  | nil =>
    intro fuel c sig rest hc _ hrest hfuel _
    obtain ⟨fuel, rfl⟩ := Nat.exists_eq_add_one.2 (Nat.zero_lt_of_lt hfuel)
    refine ⟨c, by simpa using hc, ?_⟩
    simp only [readNumber.digits, Cursor.peek?_eq, hc, List.nil_append, List.foldl_nil]
    split
    · next d hd => simp [hrest d (by simpa [hc] using hd)]
    · rfl
  | cons ch ds ih =>
    intro fuel c sig rest hc hds hrest hfuel hmax
    obtain ⟨fuel, rfl⟩ := Nat.exists_eq_add_one.2 (Nat.zero_lt_of_lt hfuel)
    have hch := hds ch (by simp)
    have hval : digitValue ch < 10 := by
      simp only [isDigit, Bool.and_eq_true, decide_eq_true_eq] at hch
      simp only [digitValue]
      have h1 : ch.toNat ≤ 57 := hch.2
      omega
    have hle : sig * 10 + digitValue ch ≤ maxUnsigned :=
      Nat.le_trans (le_foldl_digitValue ds _) (by simpa using hmax)
    obtain ⟨c', hc', hgo⟩ := ih fuel c.next (sig * 10 + digitValue ch) rest (by simp [hc])
      (fun x hx => hds x (by simp [hx])) hrest (by simp at hfuel; omega) (by simpa using hmax)
    refine ⟨c', hc', ?_⟩
    simp only [readNumber.digits, Cursor.peek?_eq, hc, List.cons_append, List.head?_cons, hch,
      if_true, overflows_eq_false hval hle, Bool.false_eq_true, if_false]
    simpa using hgo

/-- The decimal digits of a number below `2 ^ 64` read as that number. -/
theorem readNumber_toDigits {n : Nat} (hn : n ≤ maxUnsigned) :
    Reads (readNumber · true) (Nat.toDigits 10 n) (.unsigned n) Closes := by
  intro c rest hc hrest
  rcases Nat.eq_zero_or_pos n with rfl | hpos
  -- zero is its one digit
  · refine ⟨c.next, ?_, by simp [hc]⟩
    have hnext : Closes c.next.rest := by simpa [hc] using hrest
    simp only [readNumber, Cursor.peek?_eq, hc, Nat.toDigits_zero, List.cons_append,
      List.nil_append, List.head?_cons]
    split
    · next d hd =>
      have : isDigit d = false := hrest.isDigit_eq_false d (by simpa [hc] using hd)
      simp [this, readNumberTail_closes hnext]
    · exact readNumberTail_closes hnext 0
  -- a positive number starts with a digit other than zero
  · obtain ⟨d, ds, hds, hd⟩ := toDigits_head_ne_zero hpos
    have hdig : ∀ ch ∈ Nat.toDigits 10 n, isDigit ch = true := fun ch h =>
      (isDigit_eq ch).trans (Nat.isDigit_of_mem_toDigits (by omega) (by omega) h)
    rw [hds] at hc hdig
    have hfold : ds.foldl (fun a ch => a * 10 + digitValue ch) (digitValue d) = n := by
      have := foldl_toDigits n
      rw [hds, List.foldl_cons] at this
      simpa using this
    obtain ⟨c', hc', hgo⟩ := readNumber_digits true ds c.rest.length c.next (digitValue d) rest
      (by simp [hc]) (fun x hx => hdig x (by simp [hx])) hrest.isDigit_eq_false
      (by simp [hc]) (by rw [hfold]; exact hn)
    refine ⟨c', ?_, hc'⟩
    have hnext : Closes c'.rest := hc' ▸ hrest
    have hpeek : c.peek? = some d := by simp [hc]
    simp only [readNumber, hpeek]
    rw [if_pos (hdig d (by simp)), hgo, hfold]
    exact readNumberTail_closes hnext n

end Thesaurus.Json
