import Mathlib.Data.String.Basic
/-!
# Byte order of text

Texts compare character by character, by code point. Their UTF-8 bytes compare the same way. A
character's encoding is its code point's base-64 digits behind a marker that grows with the number
of bytes. So of two characters, the smaller has the smaller byte at the first place where their
encodings differ, and the encoding of one never begins with another's. Sorting texts is therefore
sorting their bytes (`lt_iff_bytes_lt`, `le_iff_bytes_le`).
-/

namespace Plugboard.Text

/-- The UTF-8 bytes of a text, in order. -/
def bytes (s : String) : List UInt8 := s.toByteArray.data.toList

/-- The bytes of a text are the UTF-8 encodings of its characters, one after another. -/
theorem bytes_eq_flatMap (s : String) : bytes s = s.toList.flatMap String.utf8EncodeChar := by
  rw [bytes, ← String.utf8Encode_toList, List.utf8Encode, List.toList_data_toByteArray]

/-- One byte sequence comes before another at a place where both have a byte, so it stays before
it whatever follows either. -/
inductive BytesBefore : List UInt8 → List UInt8 → Prop
  | head {a b : UInt8} {xs ys : List UInt8} : a < b → BytesBefore (a :: xs) (b :: ys)
  | tail (a : UInt8) {xs ys : List UInt8} : BytesBefore xs ys → BytesBefore (a :: xs) (a :: ys)

@[simp] theorem not_bytesBefore_nil_left (ys : List UInt8) : ¬ BytesBefore [] ys := by
  rintro ⟨⟩

@[simp] theorem not_bytesBefore_nil_right (xs : List UInt8) : ¬ BytesBefore xs [] := by
  rintro ⟨⟩

@[simp] theorem bytesBefore_cons_cons {a b : UInt8} {xs ys : List UInt8} :
    BytesBefore (a :: xs) (b :: ys) ↔ a < b ∨ a = b ∧ BytesBefore xs ys := by
  constructor
  · rintro (h | ⟨_, h⟩)
    · exact .inl h
    · exact .inr ⟨rfl, h⟩
  · rintro (h | ⟨rfl, h⟩)
    · exact .head h
    · exact .tail a h

theorem BytesBefore.append_lt {xs ys : List UInt8} (h : BytesBefore xs ys) (u v : List UInt8) :
    xs ++ u < ys ++ v := by
  induction h with
  | head hab => exact List.cons_lt_cons_iff.2 (.inl hab)
  | tail a _ ih => exact List.cons_lt_cons_iff.2 (.inr ⟨rfl, ih⟩)

/-- Byte sequences that start alike compare as what follows. -/
theorem append_lt_append_left_iff (p : List UInt8) {xs ys : List UInt8} :
    p ++ xs < p ++ ys ↔ xs < ys := by
  induction p with
  | nil => rfl
  | cons a p ih => rw [List.cons_append, List.cons_append, List.cons_lt_cons_self, ih]

/-- Code points stop below `0x110000`. -/
theorem codePoint_lt (c : Char) : c.val.toNat < 0x110000 := by
  have h := c.valid
  simp only [UInt32.isValidChar, Nat.isValidChar] at h
  omega

/-- Of two characters, the smaller's encoding has the smaller byte where the two first differ. -/
theorem bytesBefore_utf8EncodeChar {c d : Char} (h : c < d) :
    BytesBefore (String.utf8EncodeChar c) (String.utf8EncodeChar d) := by
  have hcd : c.val.toNat < d.val.toNat := UInt32.lt_iff_toNat_lt.1 h
  have hd := codePoint_lt d
  simp only [String.utf8EncodeChar]
  -- one case for each pair of encoding lengths; every byte is a base-64 digit of the code point
  -- with a marker added, and written as repeated division by 64 the digits are few enough atoms
  -- for `omega`
  split_ifs <;>
    simp only [bytesBefore_cons_cons, not_bytesBefore_nil_left, not_bytesBefore_nil_right,
      UInt8.lt_iff_toNat_lt, ← UInt8.toNat_inj, UInt8.toNat_ofNat',
      show (262144 : Nat) = 64 * 64 * 64 from rfl, show (4096 : Nat) = 64 * 64 from rfl,
      ← Nat.div_div_eq_div_mul] <;>
    omega

/-- Encoding characters one after another keeps their order: lists of characters compare as
their UTF-8 bytes do. -/
theorem flatMap_utf8EncodeChar_lt_iff {cs ds : List Char} :
    cs.flatMap String.utf8EncodeChar < ds.flatMap String.utf8EncodeChar ↔ cs < ds := by
  induction cs generalizing ds with
  | nil =>
    cases ds with
    | nil => simp
    | cons d ds =>
      -- a character has at least one byte
      obtain ⟨b, bs, hb⟩ := List.exists_cons_of_ne_nil (@String.utf8EncodeChar_ne_nil d)
      simp [hb]
  | cons c cs ih =>
    cases ds with
    | nil => simp
    | cons d ds =>
      rw [List.flatMap_cons, List.flatMap_cons, List.cons_lt_cons_iff]
      rcases lt_trichotomy c d with hcd | rfl | hdc
      · exact iff_of_true ((bytesBefore_utf8EncodeChar hcd).append_lt _ _) (.inl hcd)
      · rw [append_lt_append_left_iff, ih]
        simp
      · refine iff_of_false (List.lt_asymm ((bytesBefore_utf8EncodeChar hdc).append_lt _ _)) ?_
        rintro (hcd | ⟨rfl, -⟩)
        · exact lt_asymm hcd hdc
        · exact lt_irrefl c hdc

/-- Texts are ordered as their UTF-8 bytes are. -/
theorem lt_iff_bytes_lt {s t : String} : s < t ↔ bytes s < bytes t := by
  rw [bytes_eq_flatMap, bytes_eq_flatMap, flatMap_utf8EncodeChar_lt_iff]
  rfl

theorem le_iff_bytes_le {s t : String} : s ≤ t ↔ bytes s ≤ bytes t :=
  not_congr lt_iff_bytes_lt

example : ("zebra" : String) < "é" ∧ bytes "é" = [0xC3, 0xA9] := by decide

end Plugboard.Text
