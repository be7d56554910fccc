/-!
# Percent-encoded text

A percent sign with two hexadecimal digits behind it stands for a byte. One without them stands for
itself, as every other character does. The bytes together must be a text.
-/

namespace RecordRules.Text

/-- The value of a hexadecimal digit. -/
def hexadecimal? (char : Char) : Option Nat :=
  if char.isDigit then some (char.toNat - '0'.toNat)
  else if 'a' ≤ char ∧ char ≤ 'f' then some (char.toNat - 'a'.toNat + 10)
  else if 'A' ≤ char ∧ char ≤ 'F' then some (char.toNat - 'A'.toNat + 10)
  else none

/-- The byte that two hexadecimal digits are the value of. -/
def byteOf? (high low : Char) : Option UInt8 := do
  return UInt8.ofNat (16 * (← hexadecimal? high) + (← hexadecimal? low))

/-- The bytes that a text stands for. -/
def percentBytes : List Char → List UInt8
  | '%' :: high :: low :: rest =>
    match byteOf? high low with
    | some byte => byte :: percentBytes rest
    | none => String.utf8EncodeChar '%' ++ percentBytes (high :: low :: rest)
  | char :: rest => String.utf8EncodeChar char ++ percentBytes rest
  | [] => []

/-- The text that a percent-encoded text stands for, if its bytes are one. -/
def percentDecode? (text : List Char) : Option String :=
  String.fromUTF8? ⟨(percentBytes text).toArray⟩

example : percentDecode? "a%2Fb%zz".toList = some "a/b%zz" := by decide +kernel

example : percentDecode? "%ff".toList = none := by decide +kernel

end RecordRules.Text
