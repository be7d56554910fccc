import RecordRules.Text.CodePoints

/-!
# Blank characters

The Unicode property White_Space: the controls from tab to carriage return, the blank, the
next-line control, the no-break blank and the blanks and separators of the punctuation block.
The zero-width characters, the byte order mark among them, are not blank.
-/

namespace RecordRules.Text

/-- The ranges of the property White_Space. -/
def blankRanges : CodePoints :=
  [(0x9, 0xD), (0x20, 0x20), (0x85, 0x85), (0xA0, 0xA0), (0x1680, 0x1680), (0x2000, 0x200A),
   (0x2028, 0x2029), (0x202F, 0x202F), (0x205F, 0x205F), (0x3000, 0x3000)]

/-- Whether a character separates words: it has the property White_Space. -/
def isBlank (char : Char) : Bool := blankRanges.covers char.toNat

/-- Twenty-five characters are blank. -/
example : (blankRanges.map fun range => range.2 + 1 - range.1).sum = 25 := by decide

example : isBlank '\u00A0' = true ∧ isBlank '\u200B' = false ∧ isBlank 'a' = false := by decide

end RecordRules.Text
