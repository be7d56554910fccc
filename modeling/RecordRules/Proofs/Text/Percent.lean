import RecordRules.Proofs.Text.Utf8
import RecordRules.Text.Percent

/-!
# Percent-encoding is undone

Every text can be written without any character that has a meaning in a path: letters, digits and
four marks stand for themselves, and of every other character each byte is written by a percent sign
and two hexadecimal digits. Decoding gives the text back, so every text is one segment of a path.
A segment may be written in other ways as well, since a character that stands for itself may be
written by its bytes too.
-/

namespace RecordRules.Text.Percent

/-- The hexadecimal digit of a number below sixteen. -/
def hexadecimalDigit (value : Nat) : Char := (Nat.digitChar value).toUpper

/-- A byte by a percent sign and its two digits. -/
def escape (byte : UInt8) : List Char :=
  ['%', hexadecimalDigit (byte.toNat / 16), hexadecimalDigit (byte.toNat % 16)]

/-- Characters that stand for themselves in every segment of a path. -/
def isUnreserved (char : Char) : Bool := char.isAlphanum || "-._~".toList.contains char

/-- A character as it is written in a segment. -/
def encodeChar (char : Char) : List Char :=
  if isUnreserved char then [char] else (String.utf8EncodeChar char).flatMap escape

/-- A text as it is written in a segment. -/
def percentEncode (text : String) : List Char := text.toList.flatMap encodeChar

/-- Characters that neither end a segment of a path nor end the path. -/
def IsPlain (char : Char) : Prop := char ≠ '/' ∧ char ≠ '?' ∧ char ≠ '#'

instance (char : Char) : Decidable (IsPlain char) := inferInstanceAs (Decidable (_ ∧ _))

/-- The two digits of every byte are those of the byte, and none of them ends a segment. -/
theorem byte_digits : ∀ code < 256,
    byteOf? (hexadecimalDigit (code / 16)) (hexadecimalDigit (code % 16)) =
        some (UInt8.ofNat code) ∧
      IsPlain (hexadecimalDigit (code / 16)) ∧ IsPlain (hexadecimalDigit (code % 16)) := by
  decide +kernel

/-- A byte that is written by its digits is read as that byte. -/
theorem bytes_escape (byte : UInt8) (rest : List Char) :
    percentBytes (escape byte ++ rest) = byte :: percentBytes rest := by
  have digits := (byte_digits byte.toNat byte.toNat_lt).1
  rw [UInt8.ofNat_toNat] at digits
  simp only [escape, List.cons_append, List.nil_append, percentBytes, digits]

/-- Bytes that are written by their digits are read as those bytes. -/
theorem bytes_escapes (bytes : List UInt8) (rest : List Char) :
    percentBytes (bytes.flatMap escape ++ rest) = bytes ++ percentBytes rest := by
  induction bytes with
  | nil => rfl
  | cons byte bytes inductionHypothesis =>
    rw [List.flatMap_cons, List.append_assoc, bytes_escape, inductionHypothesis, List.cons_append]

/-- A character that is no percent sign is read as its bytes. -/
theorem bytes_char {char : Char} (other : char ≠ '%') (rest : List Char) :
    percentBytes (char :: rest) = String.utf8EncodeChar char ++ percentBytes rest := by
  rw [percentBytes]
  rintro high low tail rfl
  exact absurd rfl other

/-- A character is read as its bytes in whichever of the two ways it is written. -/
theorem bytes_encodeChar (char : Char) (rest : List Char) :
    percentBytes (encodeChar char ++ rest) = String.utf8EncodeChar char ++ percentBytes rest := by
  unfold encodeChar
  split
  · rename_i unreserved
    have other : char ≠ '%' := by
      rintro rfl
      exact absurd unreserved (by decide)
    exact bytes_char other rest
  · exact bytes_escapes _ rest

/-- A text is read as its bytes. -/
theorem bytes_percentEncode (text : String) :
    percentBytes (percentEncode text) = Utf8.bytes text := by
  rw [Utf8.bytes_eq, percentEncode]
  induction text.toList with
  | nil => rfl
  | cons char chars inductionHypothesis =>
    rw [List.flatMap_cons, List.flatMap_cons, bytes_encodeChar, inductionHypothesis]

/-- Decoding undoes encoding. -/
theorem decode_encode (text : String) : percentDecode? (percentEncode text) = some text := by
  have bytes : (⟨(percentBytes (percentEncode text)).toArray⟩ : ByteArray) = text.toUTF8 := by
    rw [bytes_percentEncode, Utf8.bytes, Array.toArray_toList]
  rw [percentDecode?, bytes, String.fromUTF8?]
  exact dif_pos text.isValidUTF8

/-- What is written in a segment neither ends the segment nor the path. -/
theorem plain_encode (text : String) : ∀ char ∈ percentEncode text, IsPlain char := by
  intro char member
  obtain ⟨source, _, written⟩ := List.mem_flatMap.mp member
  unfold encodeChar at written
  split at written
  · rename_i unreserved
    obtain rfl := List.mem_singleton.mp written
    refine ⟨?_, ?_, ?_⟩ <;> rintro rfl <;> exact absurd unreserved (by decide)
  · obtain ⟨byte, _, digit⟩ := List.mem_flatMap.mp written
    obtain ⟨_, high, low⟩ := byte_digits byte.toNat byte.toNat_lt
    simp only [escape, List.mem_cons, List.not_mem_nil, or_false] at digit
    rcases digit with rfl | rfl | rfl
    · decide
    · exact high
    · exact low

example : percentEncode "a/b %é" = "a%2Fb%20%25%C3%A9".toList := by decide +kernel

end RecordRules.Text.Percent
