import Mathlib

/-!
UTF-8 keeps the order of text. Strings are ordered character by character, by code point; byte
strings byte by byte. The encoding of a character and the encoding of a greater one agree up to a
byte where the first is smaller, before either ends (`utf8EncodeChar_lt`): a one-byte encoding
starts below `0x80`, a two-byte one in `0xC0`–`0xDF`, a three-byte one in `0xE0`–`0xEF`, a
four-byte one in `0xF0`–`0xF7`, and within each length the bytes are the digits of the code
point. So a string before another has its UTF-8 bytes before the other's (`utf8Bytes_lt`), and
different strings have different bytes (`utf8Bytes_inj`).
-/

set_option autoImplicit false
set_option relaxedAutoImplicit false

namespace Thesaurus.Text

/-- Two byte strings that agree up to a position where the first has the smaller byte. -/
def DiffersBelow (l l' : List UInt8) : Prop :=
  ∃ p x y s t, l = p ++ x :: s ∧ l' = p ++ y :: t ∧ x < y

theorem DiffersBelow.head {x y : UInt8} (h : x < y) (s t : List UInt8) :
    DiffersBelow (x :: s) (y :: t) :=
  ⟨[], x, y, s, t, rfl, rfl, h⟩

theorem DiffersBelow.cons (a : UInt8) {s t : List UInt8} (h : DiffersBelow s t) :
    DiffersBelow (a :: s) (a :: t) := by
  obtain ⟨p, x, y, s', t', rfl, rfl, hxy⟩ := h
  exact ⟨a :: p, x, y, s', t', rfl, rfl, hxy⟩

theorem DiffersBelow.append_lt {l l' : List UInt8} (h : DiffersBelow l l') (u u' : List UInt8) :
    l ++ u < l' ++ u' := by
  obtain ⟨p, x, y, s, t, rfl, rfl, hxy⟩ := h
  simp only [List.append_assoc, List.cons_append]
  exact List.append_left_lt (List.Lex.rel hxy)

theorem ofNat_lt_ofNat {a b : Nat} (ha : a < 256) (hb : b < 256) (h : a < b) :
    UInt8.ofNat a < UInt8.ofNat b := by
  rw [UInt8.lt_iff_toNat_lt, UInt8.toNat_ofNat', UInt8.toNat_ofNat']
  omega

theorem DiffersBelow.digit {a b : Nat} (ha : a < 256) (hb : b < 256) (hle : a ≤ b)
    {s t : List UInt8} (hrest : a = b → DiffersBelow s t) :
    DiffersBelow (UInt8.ofNat a :: s) (UInt8.ofNat b :: t) := by
  rcases Nat.lt_or_eq_of_le hle with hab | rfl
  · exact .head (ofNat_lt_ofNat ha hb hab) s t
  · exact .cons _ (hrest rfl)

theorem toNat_val_lt (c : Char) : c.val.toNat < 0x110000 := by
  rcases c.valid with h | ⟨-, h⟩ <;> omega

/-- The encoding of a character is before the encoding of a greater one, at a byte before either
ends. -/
theorem utf8EncodeChar_lt {c d : Char} (h : c < d) :
    DiffersBelow (String.utf8EncodeChar c) (String.utf8EncodeChar d) := by
  have hlt : c.val.toNat < d.val.toNat := h
  have hd := toNat_val_lt d
  simp only [String.utf8EncodeChar]
  -- the bytes counts of the two encodings, each by the range of its code point
  split_ifs
  -- one byte against one to four bytes: the first byte is already smaller
  · exact .head (ofNat_lt_ofNat (by omega) (by omega) (by omega)) _ _
  · exact .head (ofNat_lt_ofNat (by omega) (by omega) (by omega)) _ _
  · exact .head (ofNat_lt_ofNat (by omega) (by omega) (by omega)) _ _
  · exact .head (ofNat_lt_ofNat (by omega) (by omega) (by omega)) _ _
  -- two bytes
  · exfalso; omega
  · exact .digit (by omega) (by omega) (by omega) fun _ =>
      .head (ofNat_lt_ofNat (by omega) (by omega) (by omega)) _ _
  · exact .head (ofNat_lt_ofNat (by omega) (by omega) (by omega)) _ _
  · exact .head (ofNat_lt_ofNat (by omega) (by omega) (by omega)) _ _
  -- three bytes
  · exfalso; omega
  · exfalso; omega
  · exact .digit (by omega) (by omega) (by omega) fun _ =>
      .digit (by omega) (by omega) (by omega) fun _ =>
        .head (ofNat_lt_ofNat (by omega) (by omega) (by omega)) _ _
  · exact .head (ofNat_lt_ofNat (by omega) (by omega) (by omega)) _ _
  -- four bytes
  · exfalso; omega
  · exfalso; omega
  · exfalso; omega
  · exact .digit (by omega) (by omega) (by omega) fun _ =>
      .digit (by omega) (by omega) (by omega) fun _ =>
        .digit (by omega) (by omega) (by omega) fun _ =>
          .head (ofNat_lt_ofNat (by omega) (by omega) (by omega)) _ _

theorem utf8EncodeChar_ne_nil (c : Char) : String.utf8EncodeChar c ≠ [] := by
  rw [← List.length_pos_iff, String.length_utf8EncodeChar]
  exact Char.utf8Size_pos c

theorem flatMap_utf8EncodeChar_lt {l l' : List Char} (h : l < l') :
    l.flatMap String.utf8EncodeChar < l'.flatMap String.utf8EncodeChar := by
  rw [← List.lex_lt] at h
  -- induction on how the first list comes before the second
  induction h with
  | nil =>
    rename_i a l
    obtain ⟨x, s, hx⟩ := List.exists_cons_of_ne_nil (utf8EncodeChar_ne_nil a)
    rw [List.flatMap_nil, List.flatMap_cons, hx, List.cons_append]
    exact List.nil_lt_cons _ _
  | rel hab =>
    rw [List.flatMap_cons, List.flatMap_cons]
    exact (utf8EncodeChar_lt hab).append_lt _ _
  | cons _ ih =>
    rw [List.flatMap_cons, List.flatMap_cons]
    exact List.append_left_lt ih

theorem toUTF8_data_toList (s : String) :
    s.toUTF8.data.toList = s.toList.flatMap String.utf8EncodeChar := by
  rw [String.toUTF8_eq_toByteArray, ← String.utf8Encode_toList, List.utf8Encode,
    List.toList_data_toByteArray]

/-- A string before another has its UTF-8 bytes before the other's. -/
theorem utf8Bytes_lt {s t : String} (h : s < t) : s.toUTF8.data.toList < t.toUTF8.data.toList := by
  rw [toUTF8_data_toList, toUTF8_data_toList]
  exact flatMap_utf8EncodeChar_lt h

theorem utf8Bytes_inj {s t : String} (h : s.toUTF8.data.toList = t.toUTF8.data.toList) :
    s = t := by
  have hdata : s.toUTF8.data = t.toUTF8.data := Array.ext' h
  have hbytes : s.toUTF8 = t.toUTF8 := by
    cases hs : s.toUTF8
    cases ht : t.toUTF8
    simp_all
  exact String.toByteArray_inj.1 hbytes

end Thesaurus.Text
