import Mathlib.Tactic.SplitIfs

/-!
# Order of texts and of their bytes

Texts are ordered by their characters. Their bytes in UTF-8 have the same order: a greater character
has a greater first byte if it has more bytes, and if it has as many, its bytes hold the digits of
its code point in a system of base 64, the first digit first.
-/

namespace RecordRules.Text.Utf8

/-- The bytes of a text. -/
def bytes (text : String) : List UInt8 := text.toUTF8.data.toList

/-- The bytes of a text are those of its characters. -/
theorem bytes_eq (text : String) : bytes text = text.toList.flatMap String.utf8EncodeChar := by
  rw [bytes, String.toUTF8_eq_toByteArray, ← String.utf8Encode_toList, List.utf8Encode,
    List.data_toByteArray]

/-- A text has at least as many bytes as characters. -/
theorem length_le_size (chars : List Char) :
    chars.length ≤ (String.ofList chars).utf8ByteSize := by
  have size : (String.ofList chars).utf8ByteSize = (bytes (String.ofList chars)).length := rfl
  rw [size, bytes_eq, String.toList_ofList]
  clear size
  induction chars with
  | nil => exact Nat.le_refl 0
  | cons char rest inductionHypothesis =>
    rw [List.flatMap_cons, List.length_append, String.length_utf8EncodeChar, List.length_cons,
      Nat.add_comm]
    exact Nat.add_le_add char.utf8Size_pos inductionHypothesis

/-- Bytes in front of others have the order of the numbers that they are. -/
theorem cons_lt_iff {low high : Nat} (lowByte : low < 256) (highByte : high < 256)
    (behind after : List UInt8) :
    UInt8.ofNat low :: behind < UInt8.ofNat high :: after ↔
      low < high ∨ low = high ∧ behind < after := by
  rw [List.cons_lt_cons_iff, UInt8.lt_iff_toNat_lt, ← UInt8.toNat_inj, UInt8.toNat_ofNat',
    UInt8.toNat_ofNat', Nat.mod_eq_of_lt lowByte, Nat.mod_eq_of_lt highByte]

/-- The bytes of a smaller character come first, whatever stands behind. -/
theorem encode_lt {left right : Char} (below : left < right) (behind after : List UInt8) :
    String.utf8EncodeChar left ++ behind < String.utf8EncodeChar right ++ after := by
  have ascends : left.val.toNat < right.val.toNat := UInt32.lt_iff_toNat_lt.mp below
  have bounded : right.val.toNat < 1114112 := by
    rcases right.valid with low | high
    · exact Nat.lt_trans low (by decide)
    · exact high.2
  unfold String.utf8EncodeChar
  generalize left.val.toNat = low at ascends
  generalize right.val.toNat = high at ascends bounded
  have twice (code : Nat) : code / 4096 = code / 64 / 64 := by omega
  have thrice (code : Nat) : code / 262144 = code / 64 / 64 / 64 := by omega
  -- A case for each number of bytes on either side. The smaller character has no more bytes.
  simp only [twice, thrice]
  split_ifs
  all_goals try omega
  all_goals simp (disch := omega) only [List.cons_append, List.nil_append, cons_lt_iff]
  all_goals omega

/-- The bytes of a smaller text come first. -/
theorem bytes_lt {left right : String} (below : left < right) : bytes left < bytes right := by
  rw [bytes_eq, bytes_eq]
  replace below : left.toList < right.toList := below
  generalize left.toList = chars at below
  generalize right.toList = others at below
  induction chars generalizing others with
  | nil =>
    cases others with
    | nil => exact absurd below (List.lt_irrefl _)
    | cons other others =>
      rw [List.flatMap_nil, List.flatMap_cons]
      cases encoded : String.utf8EncodeChar other with
      | nil => exact absurd encoded String.utf8EncodeChar_ne_nil
      | cons byte bytes => exact List.nil_lt_cons byte _
  | cons char chars inductionHypothesis =>
    cases others with
    | nil => exact absurd below (List.not_lt_nil _)
    | cons other others =>
      rw [List.flatMap_cons, List.flatMap_cons]
      rcases List.cons_lt_cons_iff.mp below with first | ⟨rfl, later⟩
      · exact encode_lt first _ _
      · exact List.append_left_lt (inductionHypothesis others later)

end RecordRules.Text.Utf8
